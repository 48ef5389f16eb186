import SpirvToolchain.Host.Script
import SpirvToolchain.Proofs.Pipeline.Plan
import SpirvToolchain.Proofs.Toolchain.Opening

/-! The artifacts that the three tools hand on: what one writes, the next one reads. -/
namespace SpirvToolchain.Toolchain

variable {σ : Type} (host : Host σ) (t : Toolchain) (q : Request) (r : Record σ)

theorem outcome_compile :
    (t.compile host q).outcome r =
      ((t.pipeline q).run host (t.arguments q) q.inputFilename t.config.exec.options).outcome
        (t.opened q "Compiling " r) := by
  simp [compile, opened]

theorem getElem?_compilerCall {i : Nat} {arg : String} (h : (t.arguments q)[i]? = some arg)
    (options : ExecOptions) :
    ((t.pipeline q).compilerCall (t.arguments q) q.inputFilename options).args[i]? = some arg := by
  have hi : i < (t.arguments q).length := (List.getElem?_eq_some_iff.1 h).1
  simpa [Pipeline.compilerCall, List.getElem?_append_left hi] using h

theorem parent?_artifact (hb : ValidFilebase q.outputFilebase) {extension : String}
    (he : extension ∈ Artifacts.extensions) :
    Path.parent? (artifact q extension) = some q.sourceDir :=
  parent?_artifactPath hb (Artifacts.no_separator_of_mem_extensions he) q.inputFilename

/--
A compilation of a valid request hands its artifacts on: the path that the compiler is told to
write is the one looked for and read by the translator, whose own output is what the
disassembler reads to write the text. The programs are the configured ones: the translator is
started exactly if the compiler did well and left that bitcode, the disassembler exactly if the
translator did well. The paths of a request differ and lie beside the source.
-/
theorem compile_hands_artifacts_on (hq : q.validate = .ok q) :
    let final := (t.compile host q).outcome r
    ∃ (compiler translator disassembler : Invocation) (n : Nat),
      final.2.invocations = r.invocations ++ [compiler, translator, disassembler].take n ∧
      (1 ≤ n ∧ n ≤ 3) ∧
      [compiler.exe, translator.exe, disassembler.exe] =
        [t.config.compiler.exe, t.config.compiler.translator, t.config.compiler.disassembler] ∧
      compiler.args[4]? = some "-o" ∧
      compiler.args[5]? = some (artifact q "bc") ∧
      (2 ≤ n ↔ (host.outputOf compiler r.state).code = 0 ∧
        host.present (artifact q "bc") (host.after compiler r.state) = true) ∧
      translator.args = ["-spirv-debug", artifact q "bc", "-o", artifact q "spv"] ∧
      (n = 3 ↔ 2 ≤ n ∧ (host.outputOf translator (host.after compiler r.state)).code = 0) ∧
      disassembler.args = [artifact q "spv", "-o", outputPath q] ∧
      (["bc", "spv", "spvasm", "ll"].map (artifact q)).Nodup ∧
      ∀ extension ∈ ["bc", "spv", "spvasm", "ll"],
        Path.parent? (artifact q extension) = some q.sourceDir := by
  have hb := Request.validFilebase_of_validate hq
  obtain ⟨n, hcourse⟩ := Pipeline.course_run host (t.pipeline q) (t.arguments q) q.inputFilename
    t.config.exec.options (t.opened q "Compiling " r)
  rw [← outcome_compile] at hcourse
  obtain ⟨hdash, hbitcode⟩ := t.getElem?_arguments q hb
  refine ⟨_, _, _, n, hcourse.invocations, hcourse.bounds, rfl, getElem?_compilerCall t q hdash _,
    getElem?_compilerCall t q hbitcode _, hcourse.translator_iff, rfl, hcourse.disassembler_iff,
    rfl, nodup_artifactPaths hb q.sourceDir, ?_⟩
  intro extension he
  exact parent?_artifact q hb he

/-- A source below a leading dot, with idle parts inside its path and at the end. -/
def dottedRequest : Request := { inputFilename := "./src//k.cl/.", outputFilebase := "k.v2" }

/-- Three tools that do well, each leaving what the next one reads. -/
def diligentTools : Script where
  responses := ["bc", "spv", "spvasm"].map fun extension =>
    { writes := [("./src/k.v2." ++ extension, some extension)] }

theorem compile_chains_dotted_artifacts :
    dottedRequest.validate = .ok dottedRequest ∧
    ∃ (compiler translator disassembler : Invocation),
      ((compile Script.host { config := {} } dottedRequest).outcome
        { state := diligentTools }).2.invocations = [compiler, translator, disassembler] ∧
      [compiler.exe, translator.exe, disassembler.exe] = ["clang", "llvm-spirv", "spirv-dis"] ∧
      compiler.args[4]? = some "-o" ∧
      compiler.args[5]? = some "./src/k.v2.bc" ∧
      translator.args = ["-spirv-debug", "./src/k.v2.bc", "-o", "./src/k.v2.spv"] ∧
      disassembler.args = ["./src/k.v2.spv", "-o", "./src/k.v2.spvasm"] := by
  have hq : dottedRequest.validate = .ok dottedRequest := by decide
  have hbitcode : artifact dottedRequest "bc" = "./src/k.v2.bc" := by decide
  have hbinary : artifact dottedRequest "spv" = "./src/k.v2.spv" := by decide
  have htext : outputPath dottedRequest = "./src/k.v2.spvasm" := by decide
  obtain ⟨compiler, translator, disassembler, n, hcalls, -, hexes, hdash, hnamed, htwo, hreads,
    hthree, hwrites, -⟩ :=
    compile_hands_artifacts_on Script.host { config := {} } dottedRequest
      { state := diligentTools } hq
  rw [hbitcode] at hnamed htwo hreads
  rw [hbinary] at hreads hwrites
  rw [htext] at hwrites
  let s := Script.host.after compiler diligentTools
  have hcompiled : (Script.host.outputOf compiler diligentTools).code = 0 := rfl
  have hleft : Script.host.present "./src/k.v2.bc" s = true := rfl
  have htranslated : (Script.host.outputOf translator s).code = 0 := rfl
  obtain rfl : n = 3 := hthree.2 ⟨htwo.2 ⟨hcompiled, hleft⟩, htranslated⟩
  exact ⟨hq, compiler, translator, disassembler, hcalls, hexes, hdash, hnamed, hreads, hwrites⟩

end SpirvToolchain.Toolchain
