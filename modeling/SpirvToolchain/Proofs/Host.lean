import SpirvToolchain.Pipeline

/-! Programs started one after another on a host: their outputs, and the state they leave. -/
namespace SpirvToolchain

variable {σ α β : Type}

def Record.logged (r : Record σ) (e : Event) : Record σ := { r with events := r.events ++ [e] }

@[simp] theorem Record.logged_state (r : Record σ) (e : Event) : (r.logged e).state = r.state := rfl

@[simp] theorem Record.logged_invocations (r : Record σ) (e : Event) :
    (r.logged e).invocations = r.invocations := rfl

@[simp] theorem Record.logged_events (r : Record σ) (e : Event) :
    (r.logged e).events = r.events ++ [e] := rfl

def Record.loggedAll (r : Record σ) (es : List Event) : Record σ :=
  { r with events := r.events ++ es }

/-- The value of a session and the record it leaves. -/
def Session.outcome (s : Session σ α) (r : Record σ) : α × Record σ := s.run r

namespace Session

@[simp] theorem outcome_pure (a : α) (r : Record σ) :
    (pure a : Session σ α).outcome r = (a, r) := rfl

@[simp] theorem outcome_bind (s : Session σ α) (f : α → Session σ β) (r : Record σ) :
    (s >>= f).outcome r = (f (s.outcome r).1).outcome (s.outcome r).2 := rfl

@[simp] theorem outcome_map (f : α → β) (s : Session σ α) (r : Record σ) :
    (f <$> s).outcome r = (f (s.outcome r).1, (s.outcome r).2) := rfl

@[simp] theorem outcome_log (e : Event) (r : Record σ) :
    (log e : Session σ Unit).outcome r = ((), r.logged e) := rfl

@[simp] theorem outcome_logAll (es : List Event) (r : Record σ) :
    (logAll es : Session σ Unit).outcome r = ((), r.loggedAll es) := rfl

@[simp] theorem outcome_present (host : Host σ) (path : String) (r : Record σ) :
    (present host path).outcome r = (host.present path r.state, r) := rfl

@[simp] theorem outcome_readText (host : Host σ) (path : String) (r : Record σ) :
    (readText host path).outcome r = (host.readText path r.state, r) := rfl

end Session

namespace Host

variable (host : Host σ)

/-- What a start counts as: a program that did not start says why, and nothing else. -/
def outputOf (i : Invocation) (s : σ) : ExecOutput :=
  match (host.start i s).1 with
  | .ok o => o
  | .error f =>
    { code := -1, stdout := "", stderr := f.message, timedOut := false, truncated := false }

def after (i : Invocation) (s : σ) : σ := (host.start i s).2

/-- The outputs of programs that are started in order. -/
def outputs : List Invocation → σ → List ExecOutput
  | [], _ => []
  | i :: rest, s => host.outputOf i s :: outputs rest (host.after i s)

def afterAll (calls : List Invocation) (s : σ) : σ := calls.foldl (fun s i => host.after i s) s

theorem outputs_append (calls more : List Invocation) (s : σ) :
    host.outputs (calls ++ more) s =
      host.outputs calls s ++ host.outputs more (host.afterAll calls s) := by
  induction calls generalizing s with
  | nil => rfl
  | cons i calls ih => simp [outputs, afterAll, ih]

/-- The events of a start: those of the host, or the failure to start. -/
def startEvents (stage : Option Stage) (i : Invocation) (s : σ) : List Event :=
  match (host.start i s).1 with
  | .ok o => host.reports i o
  | .error f => [{ level := .error, message := f.message, stage := stage.map Stage.name }]

end Host

/-- A program has run: its output, and the record after it. -/
structure Ran (host : Host σ) (stage : Option Stage) (i : Invocation) (r : Record σ)
    (o : ExecOutput) (r' : Record σ) : Prop where
  output : o = host.outputOf i r.state
  state : r'.state = host.after i r.state
  invocations : r'.invocations = r.invocations ++ [i]
  events : r'.events = r.events ++ host.startEvents stage i r.state

theorem ran_runProgram (host : Host σ) (stage : Option Stage) (i : Invocation) (r : Record σ) :
    Ran host stage i r ((runProgram host stage i).outcome r).1
      ((runProgram host stage i).outcome r).2 := by
  rcases hs : host.start i r.state with ⟨reply, s⟩
  have hstart : (Session.start host i).outcome r =
      (reply, ⟨s, r.invocations ++ [i], r.events ++ host.eventsOf i reply⟩) := by
    simp [Session.start, Session.outcome, StateT.run, hs]
  cases reply with
  | ok o =>
    constructor <;>
      simp [runProgram, hstart, Host.outputOf, Host.after, Host.startEvents, Host.eventsOf, hs]
  | error f =>
    constructor <;>
      simp [runProgram, hstart, Host.outputOf, Host.after, Host.startEvents, Host.eventsOf, hs,
        ExecOutput.spawnFailure]

end SpirvToolchain
