import SpirvToolchain.Proofs.Compilation.Joined
import SpirvToolchain.Proofs.Text.Escapes
import SpirvToolchain.Proofs.Text.Visible

/-! Colours in a tool's output: wherever they are put in, the lines of the report are the same. -/
namespace SpirvToolchain

namespace Text.Ansi

variable {c : Char} {e r s t u : List Char}

/-- The second text is the first one with escape sequences put in, anywhere and any number of them. -/
inductive Coloured : List Char → List Char → Prop
  | nil : Coloured [] []
  | char (c : Char) {s t : List Char} : Coloured s t → Coloured (c :: s) (c :: t)
  | sequence {e s t : List Char} : IsSequence e → Coloured s t → Coloured s (e ++ t)

namespace Coloured

theorem refl (s : List Char) : Coloured s s := by
  induction s with
  | nil => exact .nil
  | cons c s ih => exact .char c ih

theorem append (h : Coloured s t) (hr : Coloured r u) : Coloured (s ++ r) (t ++ u) := by
  induction h with
  | nil => exact hr
  | char c _ ih => exact .char c ih
  | sequence he _ ih =>
    rw [List.append_assoc]
    exact .sequence he ih

/-- What is in no sequence comes in with none. -/
theorem notMem (h : Coloured s t) (hc : continues c = false) (hescape : c ≠ escape)
    (hs : c ∉ s) : c ∉ t := by
  induction h with
  | nil => exact hs
  | char d _ ih =>
    rw [List.mem_cons, not_or] at hs ⊢
    exact ⟨hs.1, ih hs.2⟩
  | sequence he _ ih => exact List.not_mem_append (he.notMem hc hescape) (ih hs)

/-- Each character of the first text is found again, with what was before it on its left. -/
theorem exists_of_append_cons (h : Coloured (s ++ c :: r) t) :
    ∃ t₁ t₂, t = t₁ ++ c :: t₂ ∧ Coloured s t₁ ∧ Coloured r t₂ := by
  generalize hsplit : s ++ c :: r = whole at h
  induction h generalizing s with
  | nil => simp at hsplit
  | char d hcoloured ih =>
    cases s with
    | nil =>
      obtain ⟨rfl, rfl⟩ := List.cons.inj hsplit
      exact ⟨[], _, rfl, .nil, hcoloured⟩
    | cons d' s =>
      obtain ⟨rfl, hrest⟩ := List.cons.inj hsplit
      obtain ⟨t₁, t₂, rfl, hleft, hright⟩ := ih hrest
      exact ⟨d' :: t₁, t₂, rfl, .char d' hleft, hright⟩
  | sequence he _ ih =>
    obtain ⟨t₁, t₂, rfl, hleft, hright⟩ := ih hsplit
    exact ⟨_ ++ t₁, t₂, (List.append_assoc _ t₁ _).symm, .sequence he hleft, hright⟩

/-- One pass takes all of them out again, and nothing else. -/
theorem strip_eq (h : Coloured s t) (hs : escape ∉ s) : strip t = s := by
  induction h with
  | nil => rfl
  | char c _ ih =>
    rw [List.mem_cons, not_or] at hs
    rw [strip_cons (Ne.symm hs.1), ih hs.2]
  | sequence he _ ih =>
    rw [strip_sequence_append he, ih hs]

end Coloured

end Text.Ansi

open Text Text.Ansi

variable {s t : List Char} {input : Option String}

theorem Line.ofRaw?_of_coloured (h : Coloured s t) (hescape : escape ∉ s) (hreturn : '\r' ∉ s) :
    Line.ofRaw? input t = Line.ofRaw? input s := by
  have hreturn' : '\r' ∉ t := h.notMem (by decide) (by decide) hreturn
  have hplain : strip (trimReturns t) = strip (trimReturns s) := by
    rw [trimReturns_eq_self fun hlast => hreturn' (List.mem_of_getLast? hlast),
      trimReturns_eq_self fun hlast => hreturn (List.mem_of_getLast? hlast),
      h.strip_eq hescape, strip_eq_self hescape]
  simp only [Line.ofRaw?, hplain]

theorem filterMap_lines_of_no_newline (hs : '\n' ∉ s) :
    (lines s).filterMap (Line.ofRaw? input) = (Line.ofRaw? input s).toList := by
  rw [lines_of_no_newline hs]
  by_cases hempty : s = []
  · rw [if_pos hempty, hempty, Line.ofRaw?_nil]
    rfl
  · rw [if_neg hempty]
    cases h : Line.ofRaw? input s <;> simp [h]

theorem filterMap_lines_of_coloured (h : Coloured s t) (hescape : escape ∉ s)
    (hreturn : '\r' ∉ s) :
    (lines t).filterMap (Line.ofRaw? input) = (lines s).filterMap (Line.ofRaw? input) := by
  induction s using line_induction generalizing t with
  | last s hs =>
    have ht : '\n' ∉ t := h.notMem (by decide) (by decide) hs
    rw [filterMap_lines_of_no_newline ht, filterMap_lines_of_no_newline hs,
      Line.ofRaw?_of_coloured h hescape hreturn]
  | line s r hs ih =>
    obtain ⟨t₁, t₂, rfl, hleft, hright⟩ := h.exists_of_append_cons
    simp only [List.mem_append, List.mem_cons, not_or] at hescape hreturn
    have ht : '\n' ∉ t₁ := hleft.notMem (by decide) (by decide) hs
    have hseam (s r : List Char) := filterMap_lines_append (Line.ofRaw?_dropReturn input)
      (Line.ofRaw?_nil input) s r
    rw [hseam, hseam, ih hright hescape.2.2 hreturn.2.2, filterMap_lines_of_no_newline ht,
      filterMap_lines_of_no_newline hs, Line.ofRaw?_of_coloured hleft hescape.1 hreturn.1]

/--
Escape sequences that are put into a text, next to each other, inside words or the path of the
source, or about its newlines, change no line of the report and no tag.
-/
theorem parseOutput_coloured {plain coloured : String}
    (h : Coloured plain.toList coloured.toList) (hescape : escape ∉ plain.toList)
    (hreturn : '\r' ∉ plain.toList) (input : Option String) :
    parseOutput coloured input = parseOutput plain input :=
  filterMap_lines_of_coloured h hescape hreturn

/-- Colours inside the path, about a number, at the newline, and one more line of nothing else. -/
theorem parseOutput_coloured_painted :
    let plain := "/a.cl:1:2: e\n"
    let coloured := "/a\x1b[m\x1b[1;31m.cl:1\x1b[0m:2: e\x1b[K\n\x1b[;m"
    Coloured plain.toList coloured.toList ∧
    parseOutput coloured (some "/a.cl") = parseOutput plain (some "/a.cl") ∧
    parseOutput coloured (some "/a.cl") = [⟨"<source>:1:2: e", some ⟨1, some 2, "e"⟩⟩] := by
  intro plain coloured
  have hsequence (ps : String) {c : Char} (hps : ps.toList.all isParameter = true)
      (hc : c.isAlpha = true) : IsSequence (escape :: '[' :: (ps.toList ++ [c])) :=
    ⟨ps.toList, c, rfl, List.all_eq_true.1 hps, hc⟩
  have hcoloured : Coloured plain.toList coloured.toList := by
    have hpath : Coloured "/a.cl:1".toList "/a\x1b[m\x1b[1;31m.cl:1".toList :=
      (Coloured.refl "/a".toList).append
        (.sequence (hsequence "" (by decide) (by decide))
          (.sequence (hsequence "1;31" (by decide) (by decide)) (.refl ".cl:1".toList)))
    have hrest : Coloured ":2: e".toList "\x1b[0m:2: e".toList :=
      .sequence (hsequence "0" (by decide) (by decide)) (.refl ":2: e".toList)
    have hend : Coloured "\n".toList "\x1b[K\n\x1b[;m".toList :=
      .sequence (hsequence "" (by decide) (by decide))
        (.char '\n' (.sequence (hsequence ";" (by decide) (by decide)) .nil))
    have hplain : plain.toList = "/a.cl:1".toList ++ (":2: e".toList ++ "\n".toList) := by decide
    have hpainted : coloured.toList = "/a\x1b[m\x1b[1;31m.cl:1".toList ++
        ("\x1b[0m:2: e".toList ++ "\x1b[K\n\x1b[;m".toList) := by decide
    rw [hplain, hpainted]
    exact hpath.append (hrest.append hend)
  have hsame := parseOutput_coloured hcoloured (by decide) (by decide) (some "/a.cl")
  refine ⟨hcoloured, hsame, ?_⟩
  rw [hsame]
  decide

end SpirvToolchain
