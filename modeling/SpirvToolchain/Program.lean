import SpirvToolchain.Command.Run
import SpirvToolchain.CommandLine
import SpirvToolchain.Settings

/-! The program as a whole: from its arguments, environment and files to its exit status. -/
namespace SpirvToolchain

namespace Event

/-- The message, then each known field. -/
def fields (e : Event) : List (String × Json) :=
  ("message", .str e.message)
    :: (e.stage.map fun s => ("stage", Json.str s)).toList
    ++ (e.code.map fun c => ("code", Json.int c)).toList
    ++ (e.stderr.map fun s => ("stderr", Json.str s)).toList

def toJson (e : Event) : Json :=
  .record [("level", .str e.level.name), ("fields", .record e.fields)]

end Event

namespace Program

/-- Why a program ended without a command's own exit code. -/
inductive Problem
  | usage (e : UsageError)
  | command (e : CommandError)
  deriving DecidableEq, Repr

def Problem.message : Problem → String
  | .usage e => e.message
  | .command e => e.code ++ ": " ++ e.message ++ (e.help?.elim "" ("\n" ++ ·))

/-- What is left of a run of the program. -/
structure Outcome where
  status : Nat
  printed : Printout := {}
  /-- The events of the levels asked for. -/
  events : List Event := []
  logFormat : LogFormat := .pretty
  problem : Option Problem := none
  files : Tree

/-- The low eight bits of an exit code, which are all that another program sees. -/
def statusOf (code : Int) : Nat := (code % 256).toNat

def versionText : String := "spvc 0.1.0\n"

/-- What the command `help` tells about itself. -/
def helpText : String :=
  "Print this message or the help of the given subcommand(s)\n\n"
    ++ "Usage: spvc help [COMMAND]...\n\n"
    ++ "Arguments:\n  [COMMAND]...  Print help for the subcommand(s)\n"

/-- The status for a line that names nothing to run, and the text that it asks for, if any. -/
def usageReply : UsageError → Nat × String
  | .versionAsked => (0, versionText)
  | .helpAsked command =>
    (0, if command = some CommandLine.Grammar.helpCommand then helpText else "")
  | _ => (2, "")

/-- A line that asks for a text gets it; any other that names nothing to run is a problem. -/
def usageOutcome (files : Tree) (e : UsageError) : Outcome :=
  let (status, text) := usageReply e
  { status
    printed := .onStdout text
    problem := if text = "" then some (.usage e) else none
    files }

def sourceEvents (s : Settings) : List Event :=
  (s.source.map fun path => Event.info ("Using configuration " ++ path)).toList

def commandOutcome (p : Workplace) (env : Environment) (l : Launch) (files : Tree) : Outcome :=
  let shown := List.filter (Event.passes l.level)
  match Settings.load files p.workshop.base l.config env.configDir? with
  | .error e =>
    { status := 1, logFormat := l.logFormat, problem := some (.command e), files }
  | .ok settings =>
    let (result, d) := p.run settings.config l.command files
    let base : Outcome :=
      { status := 1
        printed := d.printed
        events := shown (sourceEvents settings ++ d.record.events)
        logFormat := l.logFormat
        files := d.record.state }
    match result with
    | .ok code => { base with status := statusOf code }
    | .error e => { base with problem := some (.command e) }

/-- The paths of the files that a run may read before it starts a program. -/
def lookups (env : Environment) (l : Launch) : List String :=
  l.command.args.input
    :: match l.config with
      | some path => [path]
      | none => Settings.candidates "." env.configDir?

/-- The file that a run may write outside its stage. -/
def target? (l : Launch) : Option String :=
  match l.command with
  | .compile _ output => output
  | _ => none

def run (p : Workplace) (env : Environment) (argv : List String) (files : Tree) : Outcome :=
  match Launch.ofArgs argv with
  | .error e => usageOutcome files e
  | .ok l => commandOutcome p env l files

end Program

end SpirvToolchain
