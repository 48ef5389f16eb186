import SpirvToolchain.Command.Job
import SpirvToolchain.Proofs.Host

/-! What the steps of a command come to, and the desk that each leaves. -/
namespace SpirvToolchain

variable {α β ε ε' : Type}

@[simp] theorem mapError_ok (f : ε → ε') (a : α) :
    (Except.ok a : Except ε α).mapError f = .ok a := rfl

@[simp] theorem mapError_error (f : ε → ε') (e : ε) :
    (Except.error e : Except ε α).mapError f = .error (f e) := rfl

namespace Desk

/-- The desk of a command before its first step. -/
def of (files : Tree) : Desk := { record := { state := files } }

def withFiles (d : Desk) (t : Tree) : Desk := { d with record := { d.record with state := t } }

@[simp] theorem state_withFiles (d : Desk) (t : Tree) : (d.withFiles t).record.state = t := rfl

@[simp] theorem invocations_withFiles (d : Desk) (t : Tree) :
    (d.withFiles t).record.invocations = d.record.invocations := rfl

end Desk

/-- What a job comes to, and the desk it leaves. -/
def Job.outcome (j : Job α) (d : Desk) : Except CommandError α × Desk := j.run.run d

namespace Job

@[simp] theorem outcome_pure (a : α) (d : Desk) : (pure a : Job α).outcome d = (.ok a, d) := rfl

@[simp] theorem outcome_throw (e : CommandError) (d : Desk) :
    (throw e : Job α).outcome d = (.error e, d) := rfl

/-- A job goes on from the desk that its first step leaves, or ends there with it. -/
@[simp] theorem outcome_bind (j : Job α) (f : α → Job β) (d : Desk) :
    (j >>= f).outcome d =
      match j.outcome d with
      | (.ok a, d') => (f a).outcome d'
      | (.error e, d') => (.error e, d') := by
  have hbind : (j >>= f).outcome d =
      (ExceptT.bindCont f (j.outcome d).1 : StateM Desk (Except CommandError β)).run
        (j.outcome d).2 := rfl
  rw [hbind]
  rcases j.outcome d with ⟨a | e, d'⟩ <;> rfl

@[simp] theorem outcome_map (f : α → β) (j : Job α) (d : Desk) :
    (f <$> j).outcome d = ((j.outcome d).1.map f, (j.outcome d).2) := by
  have hmap : (f <$> j).outcome d = (j >>= fun a => pure (f a)).outcome d := by
    rw [bind_pure_comp]
  rw [hmap, outcome_bind]
  rcases j.outcome d with ⟨e | a, d'⟩ <;> rfl

@[simp] theorem outcome_session (s : Session Tree α) (d : Desk) :
    (session s).outcome d =
      (.ok (s.outcome d.record).1, { d with record := (s.outcome d.record).2 }) := rfl

@[simp] theorem outcome_log (e : Event) (d : Desk) :
    (log e).outcome d = (.ok (), { d with record := d.record.logged e }) := rfl

@[simp] theorem outcome_print (p : Printout) (d : Desk) :
    (print p).outcome d = (.ok (), { d with printed := d.printed ++ p }) := rfl

@[simp] theorem outcome_files (d : Desk) : files.outcome d = (.ok d.record.state, d) := rfl

@[simp] theorem outcome_setFiles (t : Tree) (d : Desk) :
    (setFiles t).outcome d = (.ok (), d.withFiles t) := rfl

@[simp] theorem outcome_ofExcept (cause : ε → CommandError) (x : Except ε α) (d : Desk) :
    (ofExcept cause x).outcome d = (x.mapError cause, d) := by
  cases x <;> rfl

@[simp] theorem outcome_readText (w : Workshop) (path : String) (d : Desk) :
    (readText w path).outcome d = ((d.record.state.readText w.base path).mapError .ofIo, d) :=
  outcome_ofExcept ..

theorem outcome_writeText (w : Workshop) (path text : String) (d : Desk) :
    (writeText w path text).outcome d =
      match d.record.state.writeText w.base path text with
      | .ok files => (.ok (), d.withFiles files)
      | .error e => (.error (.ofIo e), d) := by
  rw [writeText, outcome_bind, outcome_files]
  simp only [outcome_bind, outcome_ofExcept]
  cases d.record.state.writeText w.base path text <;> rfl

end Job

end SpirvToolchain
