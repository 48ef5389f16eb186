import SpirvToolchain.CommandLine.Flag
import SpirvToolchain.Text.Search

/-! Reading a command line: flags, then a command with flags and one input of its own. -/
namespace SpirvToolchain.CommandLine

/--
What the tokens so far say. A value that stands in a token of its own is judged only when the
next flag or input comes, so that a flag nobody knows is told of first.
-/
structure Scan where
  uses : Uses := []
  pending : Option (Flag × Option String) := none
  /-- The token `--` was read: what follows is no flag. -/
  escaped : Bool := false
  inputTaken : Bool := false

/-- The flag whose value is the next token. -/
def Scan.awaiting? (s : Scan) : Option Flag :=
  if s.escaped then none
  else match s.pending with
    | some (f, none) => some f
    | _ => none

/-- Judges the value that is pending. -/
def Scan.settle (s : Scan) : Except UsageError Scan :=
  match s.pending with
  | none => .ok s
  | some (f, value) => do return { s with uses := ← s.uses.add f value, pending := none }

def Scan.use (s : Scan) (f : Flag) (value : Option String) : Except UsageError Scan := do
  let s ← s.settle
  return { s with uses := ← s.uses.add f value }

/-- A flag whose value is to come. -/
def Scan.await (s : Scan) (f : Flag) : Except UsageError Scan := do
  return { ← s.settle with pending := some (f, none) }

/-- The flags and the input of one scope; the outer one has commands in place of an input. -/
structure Scope where
  flags : List Flag
  input : Option Flag := none
  commands : List String := []

namespace Scope

variable (l : Scope)

/-- `--name` or `--name=value`. -/
def long (s : Scan) (token : String) (body : List Char) : Except UsageError Scan :=
  let (name, value) := match Text.splitFirst '=' body with
    | some (name, value) => (String.ofList name, some (String.ofList value))
    | none => (String.ofList body, none)
  match l.flags.find? (·.name == name) with
  | none => .error (.unknownArgument token)
  | some f =>
    match f.takes, value with
    | .value _, none => s.await f
    | .value _, some v => s.use f (some v)
    | _, some v => .error (.surplusValue f.name v)
    | _, none => s.use f none

/-- Flags of one letter after one dash; a value may follow at once, or after `=`. -/
def shorts (s : Scan) (token : String) : List Char → Except UsageError Scan
  | [] => .ok s
  | c :: rest =>
    match l.flags.find? (·.short == some c) with
    | none => .error (.unknownArgument token)
    | some f =>
      match f.takes with
      | .value _ =>
        match rest with
        | [] => s.await f
        | '=' :: v => s.use f (some (String.ofList v))
        | v => s.use f (some (String.ofList v))
      | _ => do shorts (← s.use f none) token rest

/-- A token that belongs to no flag. -/
def plain (s : Scan) (token : String) : Except UsageError Scan :=
  match l.input with
  | some f =>
    if s.inputTaken then .error (.unknownArgument token)
    else do return { ← s.settle with pending := some (f, some token), inputTaken := true }
  | none =>
    .error (if s.escaped ∧ token ∈ l.commands then .unknownArgument token else .unknownCommand token)

/-- The value of the flag that waits for one, or else a plain token. -/
def valueOrPlain (s : Scan) (token : String) : Except UsageError Scan :=
  match s.awaiting? with
  | some f => .ok { s with pending := some (f, some token) }
  | none => l.plain s token

def step (s : Scan) (token : String) : Except UsageError Scan :=
  if s.escaped then l.plain s token
  else if s.awaiting?.any Flag.takesAnyToken then l.valueOrPlain s token
  else match token.toList with
    | ['-', '-'] => .ok { s with escaped := true }
    | '-' :: '-' :: body => l.long s token body
    | '-' :: c :: cs => l.shorts s token (c :: cs)
    | _ => l.valueOrPlain s token

/-- All tokens of a command, which must have its input among them. -/
def read (tokens : List String) : Except UsageError Uses := do
  let s ← (← tokens.foldlM l.step {}).settle
  match l.input with
  | some f => if s.uses.has f.name then return s.uses else .error .missingInput
  | none => return s.uses

end Scope

/-- The flags before the command, and each command with its own flags. -/
structure Grammar where
  flags : List Flag
  commands : List (String × List Flag)
  input : Flag

/-- A command line that has been read: the uses before the command, and those after it. -/
structure Reading where
  before : Uses
  command : String
  after : Uses
  deriving DecidableEq, Repr

/-- The uses of a flag that may stand on either side; those after the command go first. -/
def Reading.either (r : Reading) (flag : String) : Uses :=
  if r.after.has flag then r.after else r.before

namespace Grammar

/-- The command that tells about the others. -/
def helpCommand : String := "help"

variable (g : Grammar)

def names : List String := helpCommand :: g.commands.map (·.1)

def top : Scope := { flags := g.flags, commands := g.names }

def scope (flags : List Flag) : Scope := { flags, input := some g.input }

/-- What `help` comes to, given the tokens after it. -/
def help : List String → UsageError
  | [] => .helpAsked none
  | c :: rest =>
    if c ∈ g.names then
      match rest with
      | [] => .helpAsked (some c)
      | d :: _ => .unknownCommand d
    else .unknownCommand c

/-- Whether the next token may name the command. -/
def takesCommand (s : Scan) : Bool := !s.escaped && s.awaiting?.isNone

def readFrom (s : Scan) : List String → Except UsageError Reading
  | [] => do
    let s ← s.settle
    .error (if s.uses = [] then .nothingGiven else .missingCommand)
  | token :: rest =>
    if takesCommand s ∧ token = helpCommand then .error (g.help rest)
    else match takesCommand s, g.commands.lookup token with
      | true, some flags => do
        let after ← (g.scope flags).read rest
        return ⟨(← s.settle).uses, token, after⟩
      | _, _ => do readFrom (← g.top.step s token) rest

def read (tokens : List String) : Except UsageError Reading := g.readFrom {} tokens

end Grammar

end SpirvToolchain.CommandLine
