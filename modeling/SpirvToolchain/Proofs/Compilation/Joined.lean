import SpirvToolchain.Proofs.Compilation
import SpirvToolchain.Proofs.Text.Lines

/-! Outputs gathered one by one are the reading of all that was printed, joined by newlines. -/
namespace SpirvToolchain

open Text

theorem Line.ofRaw?_dropReturn (input : Option String) (s : List Char) :
    Line.ofRaw? input (dropReturn s) = Line.ofRaw? input s := by
  simp only [Line.ofRaw?, trimReturns_dropReturn]

theorem Line.ofRaw?_nil (input : Option String) : Line.ofRaw? input [] = none := by
  have hstrip : Ansi.strip (trimReturns []) = [] := rfl
  cases input <;> simp [Line.ofRaw?, hstrip, allBlank]

theorem parseOutput_append_newline (a b : String) (input : Option String) :
    parseOutput (a ++ "\n" ++ b) input = parseOutput a input ++ parseOutput b input := by
  have hlist : (a ++ "\n" ++ b).toList = a.toList ++ '\n' :: b.toList := by simp
  rw [parseOutput, hlist,
    filterMap_lines_append (Line.ofRaw?_dropReturn input) (Line.ofRaw?_nil input)]
  rfl

theorem parseOutput_intercalate (texts : List String) (input : Option String) :
    parseOutput ("\n".intercalate texts) input = texts.flatMap (parseOutput · input) := by
  induction texts with
  | nil => rfl
  | cons text texts ih =>
    cases texts with
    | nil => simp
    | cons next rest =>
      rw [String.intercalate_cons_cons, parseOutput_append_newline, ih]
      rfl

namespace Compilation

theorem Gathers.foldl_append {input : String} {outs : List ExecOutput} {c : Compilation}
    (h : Gathers input outs c) (more : List ExecOutput) :
    Gathers input (outs ++ more) (more.foldl Compilation.append c) := by
  induction more generalizing outs c with
  | nil => simpa using h
  | cons o more ih => simpa using ih (h.append o)

theorem code_foldl_append {c : Compilation} {o : ExecOutput} (h : c.code = o.code)
    (more : List ExecOutput) :
    some (more.foldl append c).code = (o :: more).getLast?.map (·.code) := by
  induction more generalizing c o with
  | nil => simp [h]
  | cons next more ih =>
    have hnext : (c.append next).code = next.code := rfl
    rw [List.foldl_cons, ih hnext, List.getLast?_cons_cons]

end Compilation

/--
Reading two texts joined by a newline is reading one, then the other. So a result that takes in
the outputs of a chain of programs, one by one, is what all their texts joined by newlines read
as, with the code of the last.
-/
theorem parseOutput_joined :
    (∀ (a b : String) (input : Option String),
      parseOutput (a ++ "\n" ++ b) input = parseOutput a input ++ parseOutput b input) ∧
    ∀ (input : String) (first : ExecOutput) (later : List ExecOutput),
      let outs := first :: later
      let c := later.foldl Compilation.append (.ofOutput first input)
      c.stdout = parseOutput ("\n".intercalate (outs.map (·.stdout))) (some input) ∧
      c.stderr = parseOutput ("\n".intercalate (outs.map (·.stderr))) (some input) ∧
      c.inputFilename = some input ∧
      some c.code = outs.getLast?.map (·.code) ∧
      c.timedOut = outs.any (·.timedOut) ∧
      c.truncated = outs.any (·.truncated) := by
  refine ⟨parseOutput_append_newline, fun input first later => ?_⟩
  have hgathers := (Compilation.gathers_ofOutput first input).foldl_append later
  have hcode := Compilation.code_foldl_append (Compilation.code_ofOutput first input) later
  refine ⟨?_, ?_, hgathers.inputFilename, hcode, hgathers.timedOut, hgathers.truncated⟩
  · rw [hgathers.stdout, parseOutput_intercalate, List.flatMap_map]
    rfl
  · rw [hgathers.stderr, parseOutput_intercalate, List.flatMap_map]
    rfl

end SpirvToolchain
