import SpirvToolchain.Proofs.Compilation.Plain
import SpirvToolchain.Proofs.Ir.Trimmed
import SpirvToolchain.Proofs.Toolchain.Redirect

/-! The text of an IR dump, from the file that the compiler left or from what it printed. -/
namespace SpirvToolchain.Toolchain

open Text

variable {σ τ : Type} (t : Toolchain) (q : Request) (text : String)

/-- The compiler succeeds and leaves the text beside the source, whatever it prints. -/
structure LeavesIr (host : Host σ) (s : σ) : Prop where
  code : (host.outputOf (t.divertedCall q "-emit-llvm") s).code = 0
  present :
    host.present (artifact q "ll") (host.after (t.divertedCall q "-emit-llvm") s) = true
  content :
    host.readText (artifact q "ll") (host.after (t.divertedCall q "-emit-llvm") s) = .ok text

/-- The compiler succeeds and prints the text, and there is no such file. -/
structure PrintsIr (host : Host σ) (s : σ) : Prop where
  code : (host.outputOf (t.divertedCall q "-emit-llvm") s).code = 0
  absent :
    host.present (artifact q "ll") (host.after (t.divertedCall q "-emit-llvm") s) = false
  stdout : (host.outputOf (t.divertedCall q "-emit-llvm") s).stdout = text

variable {t q text}

theorem LeavesIr.outcome {host : Host σ} {r : Record σ} (h : t.LeavesIr q text host r.state) :
    ((t.ir host q).outcome r).1 =
      (t.irProcessor text q.filters).map fun lines => ⟨0, lines⟩ := by
  obtain ⟨-, -, hir, -⟩ := t.outcome_ir_diverted host q r
  rw [hir, irResult, if_pos h.code, irSource, if_pos h.present, h.content, h.code]
  rfl

theorem PrintsIr.outcome {host : Host σ} {r : Record σ} (h : t.PrintsIr q text host r.state) :
    ((t.ir host q).outcome r).1 =
      (t.irProcessor (joinLines (parseOutput text (some q.inputFilename))) q.filters).map
        fun lines => ⟨0, lines⟩ := by
  obtain ⟨-, -, hir, -⟩ := t.outcome_ir_diverted host q r
  have habsent := h.absent
  rw [hir, irResult, if_pos h.code, irSource, if_neg (by simp [habsent]), h.stdout, h.code]
  rfl

/-- Trimming undoes what the report of an output does to a text that it finds nothing to hide in. -/
theorem process_joinLines_parseOutput {f : Filters} {path : String} (hf : f.trim = true)
    (hescape : Ansi.escape ∉ text.toList) (hpath : ¬ path.toList <:+: text.toList) :
    Ir.process (joinLines (parseOutput text (some path))) f = Ir.process text f := by
  rw [joinLines, texts_parseOutput hescape hpath]
  exact Ir.process_unlines_visible hf text

theorem eq_postProcessing_of_process {f : Filters} {e : Failure}
    (he : Ir.process text f = .error e) : ∃ message, e = .postProcessing message := by
  unfold Ir.process at he
  split at he
  · exact ⟨_, (Except.error.inj he).symm⟩
  · cases he

/--
A trimmed dump of the IR does not depend on where its text comes from, as long as the text has no
escapes and does not name the source; the path of the source is then not empty, as every text
names an empty one. It fails only on a text that is none.
-/
theorem ir_sources_agree {host : Host σ} {host' : Host τ} (r : Record σ) (r' : Record τ)
    (hprocessor : t.irProcessor = Ir.process) (htrim : q.filters.trim = true)
    (hescape : Ansi.escape ∉ text.toList) (hpath : ¬ q.inputFilename.toList <:+: text.toList)
    (hleaves : t.LeavesIr q text host r.state) (hprints : t.PrintsIr q text host' r'.state) :
    ((t.ir host q).outcome r).1 = ((t.ir host' q).outcome r').1 ∧
    ((t.ir host q).outcome r).1 =
      ((Ir.process text q.filters).map fun lines => ⟨0, lines⟩) ∧
    ∀ e, ((t.ir host q).outcome r).1 = .error e → ∃ message, e = .postProcessing message := by
  have hleft : ((t.ir host q).outcome r).1 =
      (Ir.process text q.filters).map fun lines => ⟨0, lines⟩ := by
    rw [hleaves.outcome, hprocessor]
  have hprinted : ((t.ir host' q).outcome r').1 =
      (Ir.process text q.filters).map fun lines => ⟨0, lines⟩ := by
    rw [hprints.outcome, hprocessor, process_joinLines_parseOutput htrim hescape hpath]
  refine ⟨hleft.trans hprinted.symm, hleft, fun e he => ?_⟩
  rw [hleft] at he
  exact eq_postProcessing_of_process (eq_error_of_map_eq_error he)

/-- A text with returns, a line of blanks, and white space before a definition of metadata. -/
def ragged : String := "\r\n define void @f() \x7b\r\r\n \t \n\t!0 = !\x7b\x7d\n\x7d\r"

def raggedRequest : Request :=
  { inputFilename := "/tmp/k.cl", filters := { trim := true, directives := true } }

theorem ir_sources_agree_ragged :
    ∃ (t : Toolchain) (left printed : Script),
      t.LeavesIr raggedRequest ragged Script.host left ∧
      t.PrintsIr raggedRequest ragged Script.host printed ∧
      ((t.ir Script.host raggedRequest).outcome { state := left }).1 =
        ((t.ir Script.host raggedRequest).outcome { state := printed }).1 ∧
      ((t.ir Script.host raggedRequest).outcome { state := left }).1 =
        .ok ⟨0, [{ text := "  define void @f() \x7b" }, { text := "\x7d" }]⟩ := by
  let t : Toolchain := { config := {} }
  let left : Script := { responses :=
    [{ output := { stdout := "done" }, writes := [("/tmp/output.ll", some ragged)] }] }
  let printed : Script := { responses := [{ output := { stdout := ragged } }] }
  have hpath : artifact raggedRequest "ll" = "/tmp/output.ll" := by decide
  have hleaves : t.LeavesIr raggedRequest ragged Script.host left := by
    refine ⟨rfl, ?_, ?_⟩ <;> rw [hpath] <;> rfl
  have hprints : t.PrintsIr raggedRequest ragged Script.host printed := by
    refine ⟨rfl, ?_, rfl⟩
    rw [hpath]
    rfl
  obtain ⟨hagree, hleft, -⟩ := ir_sources_agree { state := left } { state := printed } rfl rfl
    (by decide) (by decide) hleaves hprints
  refine ⟨t, left, printed, hleaves, hprints, hagree, ?_⟩
  rw [hleft]
  decide

end SpirvToolchain.Toolchain
