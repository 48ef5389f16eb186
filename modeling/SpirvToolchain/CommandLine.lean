import SpirvToolchain.Command
import SpirvToolchain.CommandLine.Reader
import SpirvToolchain.Log

/-! The command line of this program: its flags, and what a line of them asks for. -/
namespace SpirvToolchain

namespace CommandLine

def pathRule : ValueRule := { accepts := fun v => v ≠ "" }

def oneOf (names : List String) : ValueRule := { accepts := fun v => v ∈ names }

def helpFlag : Flag := { name := "help", short := some 'h', takes := .help }

def versionFlag : Flag := { name := "version", short := some 'V', takes := .version }

/-- The source; it is given without a flag. -/
def inputSlot : Flag := { name := "<INPUT>", takes := .value pathRule }

def requestFlags : List Flag :=
  [{ name := "option", takes := .value { many := true, anyToken := true } },
    { name := "library", takes := .value { many := true } },
    { name := "binary" },
    { name := "produce-opt-info" },
    { name := "output-base", takes := .value {} },
    { name := "json" }]

def outputFlag : Flag := { name := "output", short := some 'o', takes := .value pathRule }

def irFlags : List Flag :=
  [{ name := "directives" }, { name := "comment-only" }, { name := "debug-calls" }, { name := "trim" }]

/-- The least urgent level shown, by name. -/
def levels : List (String × Level) :=
  [("error", .error), ("warn", .warn), ("info", .info), ("debug", .debug), ("trace", .trace)]

def logFormats : List String := ["pretty", "json"]

/-- Flags that may stand before the command or after it. -/
def globalFlags : List Flag :=
  [{ name := "verbose", short := some 'v', takes := .count },
    { name := "quiet", short := some 'q' },
    { name := "log", takes := .value (oneOf (levels.map (·.1))) },
    { name := "log-format", takes := .value (oneOf logFormats) },
    { name := "config", short := some 'c', takes := .value pathRule }]

def commandFlags : List (String × List Flag) :=
  [("compile", requestFlags ++ [outputFlag]), ("ast", requestFlags), ("ir", requestFlags ++ irFlags)]

/-- The commands alone. -/
def bare : Grammar where
  flags := [helpFlag]
  commands := commandFlags.map fun c => (c.1, c.2 ++ [helpFlag])
  input := inputSlot

/-- The commands with the flags that any of them may be given. -/
def full : Grammar where
  flags := globalFlags ++ [helpFlag, versionFlag]
  commands := commandFlags.map fun c => (c.1, c.2 ++ globalFlags ++ [helpFlag])
  input := inputSlot

def requestArgs (u : Uses) : RequestArgs where
  input := (u.value? inputSlot.name).getD ""
  options := u.values "option"
  libraries := u.values "library"
  binary := u.has "binary"
  produceOptInfo := u.has "produce-opt-info"
  outputBase := (u.value? "output-base").getD "output"
  json := u.has "json"

def irSwitches (u : Uses) : IrSwitches where
  directives := u.has "directives"
  commentOnly := u.has "comment-only"
  debugCalls := u.has "debug-calls"
  trim := u.has "trim"

def Reading.toCommand (r : Reading) : Command :=
  if r.command = "compile" then .compile (requestArgs r.after) (r.after.value? "output")
  else if r.command = "ast" then .ast (requestArgs r.after)
  else .ir (requestArgs r.after) (irSwitches r.after)

end CommandLine

/-- The command that the tokens after the program's name ask for. -/
def Command.ofArgs (argv : List String) : Except UsageError Command :=
  (CommandLine.bare.read argv).map (·.toCommand)

inductive LogFormat
  | pretty | json
  deriving DecidableEq, Repr

/-- A command with the settings that hold for any. -/
structure Launch where
  command : Command
  verbosity : Nat := 0
  quiet : Bool := false
  log : Option Level := none
  logFormat : LogFormat := .pretty
  config : Option String := none
  deriving DecidableEq, Repr

namespace Launch

open CommandLine

def ofReading (r : Reading) : Launch where
  command := r.toCommand
  verbosity := (r.either "verbose").count "verbose"
  quiet := (r.either "quiet").has "quiet"
  log := ((r.either "log").value? "log").bind fun name => levels.lookup name
  logFormat := if (r.either "log-format").value? "log-format" = some "json" then .json else .pretty
  config := (r.either "config").value? "config"

def ofArgs (argv : List String) : Except UsageError Launch :=
  (CommandLine.full.read argv).map ofReading

/-- The least urgent level shown: the one asked for by name, or what `quiet` and `verbose` say. -/
def level (l : Launch) : Level :=
  match l.log with
  | some level => level
  | none =>
    if l.quiet then .error
    else match l.verbosity with
      | 0 => .warn
      | 1 => .info
      | 2 => .debug
      | _ => .trace

end Launch

end SpirvToolchain
