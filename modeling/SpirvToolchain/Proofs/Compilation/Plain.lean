import SpirvToolchain.Compilation
import SpirvToolchain.Proofs.Text.Ansi
import SpirvToolchain.Proofs.Text.Visible

/-! Output without escapes that does not name the source is shown as it is. -/
namespace SpirvToolchain

open Text

variable {path : String} {raw : List Char} {input : Option String} {l : Line}

/-- What a report shows of a line. -/
def shownAs (path raw : List Char) : List Char :=
  replace (literal path) sourceName (Ansi.strip (trimReturns raw))

theorem Line.ofRaw?_eq (hne : path ≠ "") (raw : List Char) :
    Line.ofRaw? (some path) raw =
      if allBlank (shownAs path.toList raw) then none
      else some ⟨String.ofList (shownAs path.toList raw),
        Tag.parse? (shownAs path.toList raw)⟩ := by
  simp only [Line.ofRaw?, if_neg hne]
  rfl

/-- What a report shows of a line, whether or not there is a path to look for. -/
def shownIn (input : Option String) (raw : List Char) : List Char :=
  match input with
  | some path => if path = "" then Ansi.strip (trimReturns raw) else shownAs path.toList raw
  | none => Ansi.strip (trimReturns raw)

theorem Line.ofRaw?_eq_ite (input : Option String) (raw : List Char) :
    Line.ofRaw? input raw =
      if allBlank (shownIn input raw) then none
      else some ⟨String.ofList (shownIn input raw), Tag.parse? (shownIn input raw)⟩ := by
  cases input <;> rfl

/-- A line of a report is what is shown of a line that is not blank, with the tag of what is shown. -/
theorem Line.eq_of_ofRaw? (h : Line.ofRaw? input raw = some l) :
    l.text.toList = shownIn input raw ∧ allBlank (shownIn input raw) = false ∧
      l.tag = Tag.parse? (shownIn input raw) := by
  rw [Line.ofRaw?_eq_ite] at h
  split at h
  · cases h
  next hinked =>
    obtain rfl := Option.some.inj h
    exact ⟨String.toList_ofList, eq_false_of_ne_true hinked, rfl⟩

theorem shownIn_path (hne : path ≠ "") (raw : List Char) :
    shownIn (some path) raw = shownAs path.toList raw :=
  if_neg hne

theorem shownIn_cases (input : Option String) (raw : List Char) :
    shownIn input raw = Ansi.strip (trimReturns raw) ∨
      ∃ path, shownIn input raw = shownAs path raw := by
  cases input with
  | none => exact .inl rfl
  | some path =>
    by_cases hpath : path = ""
    · exact .inl (if_pos hpath)
    · exact .inr ⟨path.toList, shownIn_path hpath raw⟩

theorem shownAs_plain {path : List Char} (hescape : Ansi.escape ∉ raw) (hpath : ¬ path <:+: raw) :
    shownAs path raw = trimReturns raw := by
  obtain ⟨t, -, ht⟩ := exists_trimReturns_append raw
  have hstart : trimReturns raw <+: raw := ⟨t, ht⟩
  have hstrip : Ansi.strip (trimReturns raw) = trimReturns raw :=
    Ansi.strip_eq_self fun h => hescape (hstart.subset h)
  rw [shownAs, hstrip, replace_literal_of_absent fun h => hpath (h.trans hstart.isInfix)]

theorem Line.ofRaw?_plain (hescape : Ansi.escape ∉ raw) (hpath : ¬ path.toList <:+: raw) :
    (Line.ofRaw? (some path) raw).map (·.text.toList) = shown? raw := by
  have hne : path ≠ "" := by
    rintro rfl
    exact hpath (List.nil_infix)
  rw [Line.ofRaw?_eq hne, shownAs_plain hescape hpath, shown?]
  split <;> simp

theorem texts_parseOutput {text : String} (hescape : Ansi.escape ∉ text.toList)
    (hpath : ¬ path.toList <:+: text.toList) :
    (parseOutput text (some path)).map (·.text.toList) = visible text.toList := by
  rw [parseOutput, List.map_filterMap, visible]
  refine List.filterMap_congr fun raw hraw => ?_
  have hpart := infix_of_mem_lines hraw
  exact Line.ofRaw?_plain (fun h => hescape (hpart.subset h)) fun h => hpath (h.trans hpart)

end SpirvToolchain
