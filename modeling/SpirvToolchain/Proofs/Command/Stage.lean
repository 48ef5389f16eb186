import SpirvToolchain.Command.Run
import SpirvToolchain.Proofs.Command.Job
import SpirvToolchain.Proofs.Files.Tree

/-! The copy of a source that a command works on, and the request it makes for it. -/
namespace SpirvToolchain

theorem RequestArgs.toRequest_ok {a : RequestArgs} {staged : String} {q : Request}
    (h : a.toRequest staged = .ok q) :
    q.inputFilename = staged ∧ q.outputFilebase = a.outputBase ∧ q.validate = .ok q := by
  cases hlibraries : readLibraries a.libraries with
  | error e =>
    rw [toRequest, hlibraries] at h
    cases h
  | ok libraries =>
    let made : Request :=
      { inputFilename := staged
        userOptions := a.options
        filters := { binary := a.binary }
        backendOptions := { produceOptInfo := a.produceOptInfo }
        libraries
        outputFilebase := a.outputBase }
    have hmade : made.validate.mapError CommandError.pipeline = .ok q := by
      rw [toRequest, hlibraries] at h
      exact h
    by_cases hbase : ValidFilebase made.outputFilebase
    · have hvalid : made.validate = .ok made := if_pos hbase
      rw [hvalid] at hmade
      obtain rfl : made = q := Except.ok.inj hmade
      exact ⟨rfl, rfl, hvalid⟩
    · rw [Request.validate, if_neg hbase] at hmade
      cases hmade

/-- A source has been copied into the stage, under its own name. -/
structure Workplace.Staged (p : Workplace) (files : Tree) (input name : String) (staged : Tree) :
    Prop where
  name_eq : Path.fileName? input = some name
  copied : ∃ octets executable, files.find p.workshop.base input = .ok (.file octets executable) ∧
    staged = (files.put p.stage .directory).put (p.stage ++ [name]) (.file octets executable)

namespace Workplace

variable {p : Workplace} {files staged : Tree} {input name : String}

theorem Staged.sameOutside (h : p.Staged files input name staged) :
    Tree.SameOutside p.stage staged files := by
  obtain ⟨octets, executable, -, rfl⟩ := h.copied
  exact (Tree.SameOutside.put (List.prefix_append _ _) _ _).trans
    (Tree.SameOutside.put (List.prefix_refl _) _ _)

variable (p)

/-- The source is copied, or nothing is done at all. -/
theorem stageSource_cases (input : String) (d : Desk) :
    (∃ name staged, p.Staged d.record.state input name staged ∧
      (p.stageSource input).outcome d = (.ok (p.stage ++ [name]).path, d.withFiles staged)) ∨
    ∃ e, (p.stageSource input).outcome d = (.error e, d) := by
  rw [stageSource, Job.outcome_bind, Job.outcome_files]
  dsimp only
  split
  · next octets executable name hfind hname =>
    refine .inl ⟨name, _, ⟨hname, octets, executable, hfind, rfl⟩, ?_⟩
    simp only [Job.outcome_bind, Job.outcome_setFiles, Job.outcome_pure]
  · exact .inr ⟨_, rfl⟩
  · exact .inr ⟨_, rfl⟩

/-- A request is made for the copy of the source, or the files are as they were. -/
theorem request_cases (args : RequestArgs) (d : Desk) :
    (∃ name staged, p.Staged d.record.state args.input name staged ∧
      (p.request args).outcome d =
        (args.toRequest (p.stage ++ [name]).path, d.withFiles staged)) ∨
    ∃ e, (p.request args).outcome d = (.error e, d) := by
  rcases p.stageSource_cases args.input d with ⟨name, staged, hstaged, houtcome⟩ | ⟨e, houtcome⟩
  · refine .inl ⟨name, staged, hstaged, ?_⟩
    simp only [request, Job.outcome_bind, houtcome, Job.outcome_ofExcept]
    cases args.toRequest (p.stage ++ [name]).path <;> rfl
  · refine .inr ⟨e, ?_⟩
    simp only [request, Job.outcome_bind, houtcome]

/-- What a command is to ask of the tools, and the desk when they are about to start. -/
def opening (args : RequestArgs) (files : Tree) : Except CommandError Request × Desk :=
  (p.request args).outcome (.of files)

theorem invocations_opening (args : RequestArgs) (files : Tree) :
    (p.opening args files).2.record.invocations = [] := by
  rcases p.request_cases args (.of files) with ⟨name, staged, -, h⟩ | ⟨e, h⟩
  · rw [opening, h]
    rfl
  · rw [opening, h]
    rfl

/-- Before the tools start, nothing changes but the stage. -/
theorem sameOutside_opening (args : RequestArgs) (files : Tree) :
    Tree.SameOutside p.stage (p.opening args files).2.record.state files := by
  rcases p.request_cases args (.of files) with ⟨name, staged, hstaged, h⟩ | ⟨e, h⟩
  · rw [opening, h]
    exact hstaged.sameOutside
  · rw [opening, h]
    exact Tree.SameOutside.refl p.stage files

/-- What is asked for concerns the copy of the source. -/
theorem exists_staged_of_opening {args : RequestArgs} {files : Tree} {q : Request}
    (h : (p.opening args files).1 = .ok q) :
    ∃ name, p.Staged files args.input name (p.opening args files).2.record.state ∧
      q.inputFilename = (p.stage ++ [name]).path ∧ q.outputFilebase = args.outputBase ∧
      q.validate = .ok q := by
  rcases p.request_cases args (.of files) with ⟨name, staged, hstaged, hcase⟩ | ⟨e, hcase⟩
  · rw [opening, hcase] at h ⊢
    exact ⟨name, hstaged, RequestArgs.toRequest_ok h⟩
  · rw [opening, hcase] at h
    cases h

end Workplace

end SpirvToolchain
