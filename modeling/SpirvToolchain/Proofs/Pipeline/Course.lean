import SpirvToolchain.Proofs.Compilation
import SpirvToolchain.Proofs.Host

/-!
The courses a compilation can take: which of the three programs run, what their outputs add up to
and what is reported.
-/
namespace SpirvToolchain

variable {σ : Type}

namespace Pipeline

/-- A stage has run: it was announced, and then its program was started. -/
def StageRan (host : Host σ) (input : String) (stage : Stage) (i : Invocation) (r : Record σ)
    (o : ExecOutput) (r' : Record σ) : Prop :=
  Ran host (some stage) i
    (r.logged (.info ("Running " ++ stage.name ++ " stage for " ++ input))) o r'

theorem stageRan_runStage (host : Host σ) (input : String) (stage : Stage) (i : Invocation)
    (r : Record σ) :
    StageRan host input stage i r ((runStage host input stage i).outcome r).1
      ((runStage host input stage i).outcome r).2 :=
  ran_runProgram host (some stage) i _

namespace StageRan

variable {host : Host σ} {input : String} {stage : Stage} {i : Invocation} {r r' : Record σ}
  {o : ExecOutput}

theorem output (h : StageRan host input stage i r o r') : o = host.outputOf i r.state := by
  unfold StageRan at h
  simpa using h.output

theorem state (h : StageRan host input stage i r o r') : r'.state = host.after i r.state := by
  unfold StageRan at h
  simpa using h.state

theorem invocations (h : StageRan host input stage i r o r') :
    r'.invocations = r.invocations ++ [i] := by
  unfold StageRan at h
  simpa using h.invocations

end StageRan

variable (host : Host σ) (p : Pipeline) (args : List String) (input : String)
  (options : ExecOptions) (r : Record σ)

/-- A way through the stages, by the number of programs it starts. -/
inductive Course : Nat → Compilation → Record σ → Prop
  | compilerFailed {o : ExecOutput} {r₁ : Record σ}
      (h₁ : StageRan host input .compile (p.compilerCall args input options) r o r₁)
      (hcode : o.code ≠ 0) :
      Course 1 (.ofOutput o input) (r₁.logged (failed o "Front-end compilation failed"))
  | bitcodeMissing {o : ExecOutput} {r₁ : Record σ}
      (h₁ : StageRan host input .compile (p.compilerCall args input options) r o r₁)
      (hcode : o.code = 0) (hmissing : host.present (p.artifacts input).bitcode r₁.state = false) :
      Course 1 { Compilation.ofOutput o input with code := missingArtifactCode }
        (r₁.logged (.error
          ("Front-end exited cleanly but " ++ (p.artifacts input).bitcode ++ " is missing")))
  | translatorFailed {o₁ o₂ : ExecOutput} {r₁ r₂ : Record σ}
      (h₁ : StageRan host input .compile (p.compilerCall args input options) r o₁ r₁)
      (hcode : o₁.code = 0) (hpresent : host.present (p.artifacts input).bitcode r₁.state = true)
      (h₂ : StageRan host input .translate (p.translatorCall input options) r₁ o₂ r₂)
      (hcode₂ : o₂.code ≠ 0) :
      Course 2 ((Compilation.ofOutput o₁ input).append o₂)
        (r₂.logged (failedSaying o₂ "LLVM to SPIR-V translation failed"))
  | disassemblerFailed {o₁ o₂ o₃ : ExecOutput} {r₁ r₂ r₃ : Record σ}
      (h₁ : StageRan host input .compile (p.compilerCall args input options) r o₁ r₁)
      (hcode : o₁.code = 0) (hpresent : host.present (p.artifacts input).bitcode r₁.state = true)
      (h₂ : StageRan host input .translate (p.translatorCall input options) r₁ o₂ r₂)
      (hcode₂ : o₂.code = 0)
      (h₃ : StageRan host input .disassemble (p.disassemblerCall input options) r₂ o₃ r₃)
      (hcode₃ : o₃.code ≠ 0) :
      Course 3 (((Compilation.ofOutput o₁ input).append o₂).append o₃)
        (r₃.logged (failedSaying o₃ "SPIR-V binary to text failed"))
  | completed {o₁ o₂ o₃ : ExecOutput} {r₁ r₂ r₃ : Record σ}
      (h₁ : StageRan host input .compile (p.compilerCall args input options) r o₁ r₁)
      (hcode : o₁.code = 0) (hpresent : host.present (p.artifacts input).bitcode r₁.state = true)
      (h₂ : StageRan host input .translate (p.translatorCall input options) r₁ o₂ r₂)
      (hcode₂ : o₂.code = 0)
      (h₃ : StageRan host input .disassemble (p.disassemblerCall input options) r₂ o₃ r₃)
      (hcode₃ : o₃.code = 0) :
      Course 3 (((Compilation.ofOutput o₁ input).append o₂).append o₃) r₃

theorem course_disassemble {o₁ o₂ : ExecOutput} {r₁ r₂ : Record σ}
    (h₁ : StageRan host input .compile (p.compilerCall args input options) r o₁ r₁)
    (hcode : o₁.code = 0) (hpresent : host.present (p.artifacts input).bitcode r₁.state = true)
    (h₂ : StageRan host input .translate (p.translatorCall input options) r₁ o₂ r₂)
    (hcode₂ : o₂.code = 0) :
    let end₃ := (disassemble host p input options
      ((Compilation.ofOutput o₁ input).append o₂)).outcome r₂
    Course host p args input options r 3 end₃.1 end₃.2 := by
  have h₃ := stageRan_runStage host input .disassemble (p.disassemblerCall input options) r₂
  rcases hran : (runStage host input .disassemble (p.disassemblerCall input options)).outcome r₂
    with ⟨o₃, r₃⟩
  rw [hran] at h₃
  by_cases hcode₃ : o₃.code = 0
  · simpa [disassemble, hran, ExecOutput.success, hcode₃] using
      Course.completed h₁ hcode hpresent h₂ hcode₂ h₃ hcode₃
  · simpa [disassemble, hran, ExecOutput.success, hcode₃] using
      Course.disassemblerFailed h₁ hcode hpresent h₂ hcode₂ h₃ hcode₃

theorem course_translate {o₁ : ExecOutput} {r₁ : Record σ}
    (h₁ : StageRan host input .compile (p.compilerCall args input options) r o₁ r₁)
    (hcode : o₁.code = 0) (hpresent : host.present (p.artifacts input).bitcode r₁.state = true) :
    let end₂ := (translate host p input options (Compilation.ofOutput o₁ input)).outcome r₁
    ∃ n, Course host p args input options r n end₂.1 end₂.2 := by
  have h₂ := stageRan_runStage host input .translate (p.translatorCall input options) r₁
  rcases hran : (runStage host input .translate (p.translatorCall input options)).outcome r₁
    with ⟨o₂, r₂⟩
  rw [hran] at h₂
  by_cases hcode₂ : o₂.code = 0
  · refine ⟨3, ?_⟩
    simpa [translate, hran, ExecOutput.success, hcode₂] using
      course_disassemble host p args input options r h₁ hcode hpresent h₂ hcode₂
  · refine ⟨2, ?_⟩
    simpa [translate, hran, ExecOutput.success, hcode₂] using
      Course.translatorFailed h₁ hcode hpresent h₂ hcode₂

/-- Every run takes one of the courses. -/
theorem course_run :
    let final := (p.run host args input options).outcome r
    ∃ n, Course host p args input options r n final.1 final.2 := by
  have h₁ := stageRan_runStage host input .compile (p.compilerCall args input options) r
  rcases hran : (runStage host input .compile (p.compilerCall args input options)).outcome r
    with ⟨o₁, r₁⟩
  rw [hran] at h₁
  by_cases hcode : o₁.code = 0
  · cases hpresent : host.present (p.artifacts input).bitcode r₁.state with
    | true =>
      simpa [run, hran, ExecOutput.success, hcode, hpresent] using
        course_translate host p args input options r h₁ hcode hpresent
    | false =>
      refine ⟨1, ?_⟩
      simpa [run, hran, ExecOutput.success, hcode, hpresent] using
        Course.bitcodeMissing h₁ hcode hpresent
  · refine ⟨1, ?_⟩
    simpa [run, hran, ExecOutput.success, hcode] using Course.compilerFailed h₁ hcode

end Pipeline

end SpirvToolchain
