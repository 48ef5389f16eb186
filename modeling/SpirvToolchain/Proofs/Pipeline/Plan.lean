import SpirvToolchain.Proofs.Pipeline.Course

/-! A compilation against its plan: three programs, each started only if all before it did well. -/
namespace SpirvToolchain.Pipeline

open Compilation (Gathers)

/-- The three programs of a compilation, all of them run in the directory of the source. -/
def plan (p : Pipeline) (args : List String) (input : String) (options : ExecOptions) :
    List Invocation :=
  let dir := Path.parent input
  let bitcode := artifactPath dir p.filebase "bc"
  let binary := artifactPath dir p.filebase "spv"
  let text := artifactPath dir p.filebase "spvasm"
  [⟨p.compiler, args ++ ["-emit-llvm-bc"], { options with cwd := some dir }⟩,
    ⟨p.translator, ["-spirv-debug", bitcode, "-o", binary], { options with cwd := some dir }⟩,
    ⟨p.disassembler, [binary, "-o", text], { options with cwd := some dir }⟩]

theorem plan_eq (p : Pipeline) (args : List String) (input : String) (options : ExecOptions) :
    p.plan args input options = [p.compilerCall args input options,
      p.translatorCall input options, p.disassemblerCall input options] := rfl

namespace Course

variable {σ : Type} {host : Host σ} {p : Pipeline} {args : List String} {input : String}
  {options : ExecOptions} {r r' : Record σ} {n : Nat} {c : Compilation}

theorem bounds (h : Course host p args input options r n c r') : 1 ≤ n ∧ n ≤ 3 := by
  cases h <;> decide

/-- The programs started are the first ones of the plan. -/
theorem invocations (h : Course host p args input options r n c r') :
    r'.invocations = r.invocations ++ (p.plan args input options).take n := by
  cases h with
  | compilerFailed h₁ => simp [plan_eq, h₁.invocations]
  | bitcodeMissing h₁ => simp [plan_eq, h₁.invocations]
  | translatorFailed h₁ _ _ h₂ => simp [plan_eq, h₁.invocations, h₂.invocations]
  | disassemblerFailed h₁ _ _ h₂ _ h₃ =>
    simp [plan_eq, h₁.invocations, h₂.invocations, h₃.invocations]
  | completed h₁ _ _ h₂ _ h₃ => simp [plan_eq, h₁.invocations, h₂.invocations, h₃.invocations]

theorem state (h : Course host p args input options r n c r') :
    r'.state = host.afterAll ((p.plan args input options).take n) r.state := by
  cases h with
  | compilerFailed h₁ => simp [plan_eq, Host.afterAll, h₁.state]
  | bitcodeMissing h₁ => simp [plan_eq, Host.afterAll, h₁.state]
  | translatorFailed h₁ _ _ h₂ => simp [plan_eq, Host.afterAll, h₁.state, h₂.state]
  | disassemblerFailed h₁ _ _ h₂ _ h₃ =>
    simp [plan_eq, Host.afterAll, h₁.state, h₂.state, h₃.state]
  | completed h₁ _ _ h₂ _ h₃ => simp [plan_eq, Host.afterAll, h₁.state, h₂.state, h₃.state]

/-- The result gathers the outputs of the programs started, and of no other. -/
theorem gathers (h : Course host p args input options r n c r') :
    Gathers input (host.outputs ((p.plan args input options).take n) r.state) c := by
  have hone (o : ExecOutput) : Gathers input [o] (.ofOutput o input) :=
    Compilation.gathers_ofOutput o input
  cases h with
  | compilerFailed h₁ =>
    simpa [plan_eq, Host.outputs, ← h₁.output] using hone _
  | bitcodeMissing h₁ =>
    simpa [plan_eq, Host.outputs, ← h₁.output] using (hone _).setCode _
  | translatorFailed h₁ _ _ h₂ =>
    simpa [plan_eq, Host.outputs, ← h₁.output, ← h₁.state, ← h₂.output] using (hone _).append _
  | disassemblerFailed h₁ _ _ h₂ _ h₃ =>
    simpa [plan_eq, Host.outputs, ← h₁.output, ← h₁.state, ← h₂.output, ← h₂.state, ← h₃.output]
      using ((hone _).append _).append _
  | completed h₁ _ _ h₂ _ h₃ =>
    simpa [plan_eq, Host.outputs, ← h₁.output, ← h₁.state, ← h₂.output, ← h₂.state, ← h₃.output]
      using ((hone _).append _).append _

/-- The translator is started exactly if the compiler did well and left its bitcode. -/
theorem translator_iff (h : Course host p args input options r n c r') :
    2 ≤ n ↔ (host.outputOf (p.compilerCall args input options) r.state).code = 0 ∧
      host.present (p.artifacts input).bitcode
        (host.after (p.compilerCall args input options) r.state) = true := by
  cases h with
  | compilerFailed h₁ hcode => simp [← h₁.output, hcode]
  | bitcodeMissing h₁ _ hmissing => simp [← h₁.state, hmissing]
  | translatorFailed h₁ hcode hpresent => simp [← h₁.output, ← h₁.state, hcode, hpresent]
  | disassemblerFailed h₁ hcode hpresent => simp [← h₁.output, ← h₁.state, hcode, hpresent]
  | completed h₁ hcode hpresent => simp [← h₁.output, ← h₁.state, hcode, hpresent]

/-- The disassembler is started exactly if the translator was and did well. -/
theorem disassembler_iff (h : Course host p args input options r n c r') :
    n = 3 ↔ 2 ≤ n ∧ (host.outputOf (p.translatorCall input options)
      (host.after (p.compilerCall args input options) r.state)).code = 0 := by
  cases h with
  | compilerFailed => simp
  | bitcodeMissing => simp
  | translatorFailed h₁ _ _ h₂ hcode₂ => simp [← h₁.state, ← h₂.output, hcode₂]
  | disassemblerFailed h₁ _ _ h₂ hcode₂ => simp [← h₁.state, ← h₂.output, hcode₂]
  | completed h₁ _ _ h₂ hcode₂ => simp [← h₁.state, ← h₂.output, hcode₂]

/-- The code is that of the last program, unless that was a compiler that left no bitcode. -/
theorem code_eq (h : Course host p args input options r n c r') :
    some c.code =
      if (host.outputOf (p.compilerCall args input options) r.state).code = 0 ∧
        host.present (p.artifacts input).bitcode
          (host.after (p.compilerCall args input options) r.state) = false
      then some (-1)
      else (host.outputs ((p.plan args input options).take n) r.state).getLast?.map (·.code) := by
  cases h with
  | compilerFailed h₁ hcode =>
    simp [plan_eq, Host.outputs, ← h₁.output, hcode, Compilation.ofOutput]
  | bitcodeMissing h₁ hcode hmissing =>
    simp [← h₁.output, ← h₁.state, hcode, hmissing, missingArtifactCode]
  | translatorFailed h₁ hcode hpresent h₂ =>
    simp [plan_eq, Host.outputs, ← h₁.state, ← h₂.output, hpresent, Compilation.append]
  | disassemblerFailed h₁ hcode hpresent h₂ _ h₃ =>
    simp [plan_eq, Host.outputs, ← h₁.state, ← h₂.state, ← h₃.output, hpresent,
      Compilation.append]
  | completed h₁ hcode hpresent h₂ _ h₃ =>
    simp [plan_eq, Host.outputs, ← h₁.state, ← h₂.state, ← h₃.output, hpresent,
      Compilation.append]

end Course

/--
A compilation starts a first part of its plan: the translator only after a compiler that did well
and left its bitcode, the disassembler only after a translator that did well. The result gathers
their outputs, with the code of the last, or `-1` for bitcode that is missing.
-/
theorem run_follows_plan {σ : Type} (host : Host σ) (p : Pipeline) (args : List String)
    (input : String) (options : ExecOptions) (r : Record σ) :
    let final := (p.run host args input options).outcome r
    let compiled := host.outputOf (p.compilerCall args input options) r.state
    let s := host.after (p.compilerCall args input options) r.state
    let translated := host.outputOf (p.translatorCall input options) s
    let present := host.present (artifactPath (Path.parent input) p.filebase "bc") s
    ∃ n,
      let calls := (p.plan args input options).take n
      let outs := host.outputs calls r.state
      (1 ≤ n ∧ n ≤ 3) ∧
      final.2.invocations = r.invocations ++ calls ∧
      final.2.state = host.afterAll calls r.state ∧
      (2 ≤ n ↔ compiled.code = 0 ∧ present = true) ∧
      (n = 3 ↔ 2 ≤ n ∧ translated.code = 0) ∧
      Gathers input outs final.1 ∧
      some final.1.code =
        if compiled.code = 0 ∧ present = false then some (-1)
        else outs.getLast?.map (·.code) := by
  obtain ⟨n, h⟩ := course_run host p args input options r
  exact ⟨n, h.bounds, h.invocations, h.state, h.translator_iff, h.disassembler_iff, h.gathers,
    h.code_eq⟩

end SpirvToolchain.Pipeline
