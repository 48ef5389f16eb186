/-! Flags of a command line, the uses made of them, and what can be wrong with one. -/
namespace SpirvToolchain

/-- Why a command line gives nothing to run. -/
inductive UsageError
  | unknownArgument (token : String)
  | unknownCommand (token : String)
  | missingCommand
  | nothingGiven
  | missingInput
  | missingValue (flag : String)
  | refusedValue (flag value : String)
  | surplusValue (flag value : String)
  | repeated (flag : String)
  /-- The command that `help` was asked about, if it was asked about one. -/
  | helpAsked (command : Option String)
  | versionAsked
  deriving DecidableEq, Repr

def UsageError.message : UsageError → String
  | .unknownArgument token => "unexpected argument '" ++ token ++ "'"
  | .unknownCommand token => "unrecognized command '" ++ token ++ "'"
  | .missingCommand => "a command is required"
  | .nothingGiven => "a command is required: compile, ast or ir"
  | .missingInput => "the source file is missing"
  | .missingValue flag => "a value is required for '" ++ flag ++ "'"
  | .refusedValue flag value => "invalid value '" ++ value ++ "' for '" ++ flag ++ "'"
  | .surplusValue flag value => "unexpected value '" ++ value ++ "' for '" ++ flag ++ "'"
  | .repeated flag => "'" ++ flag ++ "' cannot be used more than once"
  | .helpAsked _ => "spvc [flags] compile|ast|ir [flags] <INPUT>"
  | .versionAsked => "spvc"

namespace CommandLine

structure ValueRule where
  /-- The flag may be used again, for one value more. -/
  many : Bool := false
  /-- The token after the flag is its value, whatever it looks like. -/
  anyToken : Bool := false
  accepts : String → Bool := fun _ => true

/-- What a flag is followed by, or what it asks for at once. -/
inductive Takes
  | nothing
  | count
  | value (rule : ValueRule)
  | help
  | version

structure Flag where
  name : String
  short : Option Char := none
  takes : Takes := .nothing

def Flag.takesAnyToken (f : Flag) : Bool :=
  match f.takes with
  | .value rule => rule.anyToken
  | _ => false

/-- One use of a flag. -/
structure Use where
  flag : String
  value : Option String := none
  deriving DecidableEq, Repr

/-- The uses made so far, in order. -/
abbrev Uses := List Use

namespace Uses

def has (u : Uses) (flag : String) : Bool := u.any (·.flag == flag)

def count (u : Uses) (flag : String) : Nat := u.countP (·.flag == flag)

def values (u : Uses) (flag : String) : List String :=
  u.filterMap fun x => if x.flag = flag then x.value else none

def value? (u : Uses) (flag : String) : Option String := (values u flag).getLast?

/-- Adds one use; a flag that counts or takes many values may be used again, others not. -/
def add (u : Uses) (f : Flag) (value : Option String) : Except UsageError Uses :=
  match f.takes, value with
  | .help, _ => .error (.helpAsked none)
  | .version, _ => .error .versionAsked
  | .count, _ => .ok (u ++ [⟨f.name, none⟩])
  | .nothing, _ =>
    if has u f.name then .error (.repeated f.name) else .ok (u ++ [⟨f.name, none⟩])
  | .value _, none => .error (.missingValue f.name)
  | .value rule, some v =>
    if !rule.many && has u f.name then .error (.repeated f.name)
    else if rule.accepts v then .ok (u ++ [⟨f.name, some v⟩])
    else .error (.refusedValue f.name v)

end Uses

end CommandLine

end SpirvToolchain
