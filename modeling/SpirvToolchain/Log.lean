import SpirvToolchain.Text.Inert

/-! Events a run reports while it works. -/
namespace SpirvToolchain

/-- From the most to the least urgent. -/
inductive Level
  | error | warn | info | debug | trace
  deriving DecidableEq, Repr

def Level.rank : Level → Nat
  | .error => 0
  | .warn => 1
  | .info => 2
  | .debug => 3
  | .trace => 4

def Level.name : Level → String
  | .error => "ERROR"
  | .warn => "WARN"
  | .info => "INFO"
  | .debug => "DEBUG"
  | .trace => "TRACE"

/-- A message with what is known of the stage it is about. -/
structure Event where
  level : Level
  message : String
  stage : Option String := none
  code : Option Int := none
  stderr : Option String := none
  deriving DecidableEq, Repr

def Event.info (message : String) : Event := { level := .info, message }

def Event.warn (message : String) : Event := { level := .warn, message }

def Event.error (message : String) : Event := { level := .error, message }

/-- Whether an event is shown when `limit` is the least urgent level asked for. -/
def Event.passes (limit : Level) (e : Event) : Bool := e.level.rank ≤ limit.rank

/--
For a terminal: the level, the message, then each known field as `key=value`. Only the message is
made inert; a tool's own words stay as the tool wrote them.
-/
def Event.pretty (e : Event) : String :=
  e.level.name ++ " " ++ Text.inert e.message
    ++ (e.stage.elim "" fun s => " stage=" ++ s)
    ++ (e.code.elim "" fun c => " code=" ++ toString c)
    ++ (e.stderr.elim "" fun s => " stderr=" ++ s)

end SpirvToolchain
