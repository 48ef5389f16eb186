import SpirvToolchain.Config
import SpirvToolchain.Log
import SpirvToolchain.Text.Quoted

/-! The options a caller may pass on to the compiler: a scan that judges every token once. -/
namespace SpirvToolchain.UserOptions

/-- What becomes of an option, and of the token it takes along. -/
inductive Verdict
  | kept (option : String)
  | dropped (option : String)
  | droppedWithValue (option : String) (value : Option String)
  deriving DecidableEq, Repr

namespace Verdict

/-- The tokens a verdict is about, in their order. -/
def tokens : Verdict → List String
  | .kept o => [o]
  | .dropped o => [o]
  | .droppedWithValue o v => o :: v.toList

def option? : Verdict → Option String
  | .kept o => some o
  | _ => none

def warning? : Verdict → Option Event
  | .kept _ => none
  | .dropped o => some (.warn ("Dropping user option " ++ o))
  | .droppedWithValue o v => some (.warn ("Dropping user option " ++ o ++ " " ++ Text.quoteOption v))

end Verdict

/-- Whether a forbidden flag covers an option: the whole of it, or its start when it ends in `=`. -/
def covers (flag option : String) : Bool :=
  if flag.toList.getLast? = some '=' then flag.toList.isPrefixOf option.toList else option = flag

def isForbidden (rules : UserOptionsConfig) (option : String) : Bool :=
  rules.forbidden.any fun flag => covers flag option

def takesValue (rules : UserOptionsConfig) (option : String) : Bool :=
  option ∈ rules.forbiddenWithValue

def scan (rules : UserOptionsConfig) : List String → List Verdict
  | [] => []
  | o :: rest =>
    if takesValue rules o then
      match rest with
      | [] => [.droppedWithValue o none]
      | v :: rest => .droppedWithValue o (some v) :: scan rules rest
    else if isForbidden rules o then .dropped o :: scan rules rest
    else .kept o :: scan rules rest

/-- The options that stay. -/
def filter (rules : UserOptionsConfig) (options : List String) : List String :=
  (scan rules options).filterMap Verdict.option?

def warnings (rules : UserOptionsConfig) (options : List String) : List Event :=
  (scan rules options).filterMap Verdict.warning?

end SpirvToolchain.UserOptions
