import SpirvToolchain.Proofs.Toolchain.Chain
import SpirvToolchain.Proofs.Toolchain.Redirect

/-! What a request leaves behind on a host: the text of a compilation, or the files after a dump. -/
namespace SpirvToolchain

variable {σ : Type}

namespace Pipeline.Course

variable {host : Host σ} {p : Pipeline} {args : List String} {input : String}
  {options : ExecOptions} {r r' : Record σ} {n : Nat} {c : Compilation}

/-- Only a compilation in which all three programs did well ends without a code. -/
theorem complete (h : Course host p args input options r n c r') (hcode : c.code = 0) :
    n = 3 ∧ (∀ o ∈ host.outputs (p.plan args input options) r.state, o.code = 0) ∧
      host.present (p.artifacts input).bitcode
        (host.after (p.compilerCall args input options) r.state) = true := by
  cases h with
  | compilerFailed _ hfailed => exact absurd hcode hfailed
  | bitcodeMissing => simp [missingArtifactCode] at hcode
  | translatorFailed _ _ _ _ hfailed => exact absurd hcode hfailed
  | disassemblerFailed _ _ _ _ _ _ hfailed => exact absurd hcode hfailed
  | completed h₁ hcode₁ hpresent h₂ hcode₂ h₃ hcode₃ =>
    refine ⟨rfl, ?_, by rw [← h₁.state, hpresent]⟩
    simp [plan_eq, Host.outputs, ← h₁.output, ← h₁.state, ← h₂.output, ← h₂.state, ← h₃.output,
      hcode₁, hcode₂, hcode₃]

end Pipeline.Course

namespace Toolchain

variable (host : Host σ) (t : Toolchain) (q : Request)

/-- The three programs of a request. -/
def plan : List Invocation :=
  (t.pipeline q).plan (t.arguments q) q.inputFilename t.config.exec.options

/-- The run of the compiler, which comes first. -/
def compilerCall : Invocation :=
  (t.pipeline q).compilerCall (t.arguments q) q.inputFilename t.config.exec.options

/-- All three programs do well, the first leaves its bitcode and the last one a readable text. -/
structure Produces (s : σ) (text : String) : Prop where
  codes : ∀ o ∈ host.outputs (t.plan q) s, o.code = 0
  bitcode : host.present (artifact q "bc") (host.after (t.compilerCall q) s) = true
  text : host.readText (outputPath q) (host.afterAll (t.plan q) s) = .ok text

/-- A compilation takes one of the courses of its pipeline. -/
theorem course_compile (r : Record σ) :
    let final := (t.compile host q).outcome r
    ∃ n, (t.pipeline q).Course host (t.arguments q) q.inputFilename t.config.exec.options
      (t.opened q "Compiling " r) n final.1 final.2 := by
  rw [outcome_compile]
  exact Pipeline.course_run host _ _ _ _ _

/-- A compilation does nothing besides starting programs. -/
theorem compile_state (r : Record σ) :
    let final := (t.compile host q).outcome r
    ∃ calls, final.2.invocations = r.invocations ++ calls ∧
      final.2.state = host.afterAll calls r.state := by
  obtain ⟨n, hcourse⟩ := t.course_compile host q r
  exact ⟨_, hcourse.invocations, hcourse.state⟩

/-- A compilation that did well has started all its programs, and left what they make. -/
theorem produces_of_code {r : Record σ} {text : String}
    (hcode : ((t.compile host q).outcome r).1.code = 0)
    (htext : host.readText (outputPath q) ((t.compile host q).outcome r).2.state = .ok text) :
    t.Produces host q r.state text ∧
      ((t.compile host q).outcome r).2.invocations = r.invocations ++ t.plan q := by
  obtain ⟨n, hcourse⟩ := t.course_compile host q r
  obtain ⟨rfl, hcodes, hbitcode⟩ := hcourse.complete hcode
  have hall : (t.plan q).take 3 = t.plan q := rfl
  have hstate : ((t.compile host q).outcome r).2.state = host.afterAll (t.plan q) r.state :=
    hcourse.state
  exact ⟨⟨hcodes, hbitcode, hstate ▸ htext⟩, hcourse.invocations⟩

/-- A dump of the tree starts one program, and does nothing else. -/
theorem ast_ran (r : Record σ) :
    let call := t.divertedCall q "-ast-dump"
    let o := host.outputOf call r.state
    let final := (t.ast host q).outcome r
    final.2.invocations = r.invocations ++ [call] ∧ final.2.state = host.after call r.state ∧
      final.1 = (t.astProcessor (.ofOutput o q.inputFilename)).map fun lines => ⟨o.code, lines⟩ := by
  obtain ⟨r', hran, hrun⟩ :=
    t.outcome_diverter host q (t.opened q "Dumping AST of " r) "-ast-dump"
  have hast : (t.ast host q).outcome r =
      ((t.diverter q).ast host (t.arguments q) q.inputFilename).outcome
        (t.opened q "Dumping AST of " r) := by
    simp [ast, opened]
  rw [hast, Diverter.ast, Session.outcome_bind, hrun]
  exact ⟨hran.invocations, hran.state, rfl⟩

/-- So does a dump of the IR, which reads what the program left. -/
theorem ir_ran (r : Record σ) :
    let call := t.divertedCall q "-emit-llvm"
    let o := host.outputOf call r.state
    let final := (t.ir host q).outcome r
    final.2.invocations = r.invocations ++ [call] ∧ final.2.state = host.after call r.state ∧
      final.1 = t.irResult host q o (host.after call r.state) := by
  obtain ⟨r₁, hran₁, hresult, hinvocations⟩ := t.outcome_ir_diverted host q r
  refine ⟨hinvocations.trans hran₁.invocations, ?_, hresult⟩
  obtain ⟨r', hran, hrun⟩ :=
    t.outcome_diverter host q (t.opened q "Dumping LLVM IR of " r) "-emit-llvm"
  have hir : (t.ir host q).outcome r =
      (((t.diverter q).ir host (t.arguments q) q.inputFilename q.filters).outcome
        (t.opened q "Dumping LLVM IR of " r)) := by
    simp [ir, opened]
  have hstate : r'.state = host.after (t.divertedCall q "-emit-llvm") r.state := hran.state
  rw [hir, ← hstate, Diverter.ir, Session.outcome_bind, hrun]
  split
  · rw [Session.outcome_bind, outcome_irText]
    rfl
  · rfl

end Toolchain

end SpirvToolchain
