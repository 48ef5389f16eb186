import SpirvToolchain.Log
import SpirvToolchain.Process

/-! The outside of a run as a value, and the run as a record of what it did to it. -/
namespace SpirvToolchain

/-- Where programs run and artifacts lie. Starting a program changes the state; looking does not. -/
structure Host (σ : Type) where
  start : Invocation → σ → Except Failure ExecOutput × σ
  present : String → σ → Bool
  readText : String → σ → Except Failure String
  /-- What the host itself has to say of a run that came to an end. -/
  reports : Invocation → ExecOutput → List Event := fun _ _ => []

/-- The host's own events of a start. -/
def Host.eventsOf {σ : Type} (host : Host σ) (i : Invocation) : Except Failure ExecOutput → List Event
  | .ok output => host.reports i output
  | .error _ => []

/-- The state reached, with every program started and every event reported on the way, in order. -/
structure Record (σ : Type) where
  state : σ
  invocations : List Invocation := []
  events : List Event := []

abbrev Session (σ : Type) := StateM (Record σ)

namespace Session

variable {σ : Type}

def log (e : Event) : Session σ Unit :=
  modify fun r => { r with events := r.events ++ [e] }

def logAll (es : List Event) : Session σ Unit :=
  modify fun r => { r with events := r.events ++ es }

def start (host : Host σ) (i : Invocation) : Session σ (Except Failure ExecOutput) := fun r =>
  let reply := host.start i r.state
  (reply.1,
    { state := reply.2
      invocations := r.invocations ++ [i]
      events := r.events ++ host.eventsOf i reply.1 })

def present (host : Host σ) (path : String) : Session σ Bool := fun r =>
  (host.present path r.state, r)

def readText (host : Host σ) (path : String) : Session σ (Except Failure String) := fun r =>
  (host.readText path r.state, r)

end Session

end SpirvToolchain
