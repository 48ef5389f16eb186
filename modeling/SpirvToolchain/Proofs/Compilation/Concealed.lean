import SpirvToolchain.Proofs.Compilation.Joined
import SpirvToolchain.Proofs.Compilation.Plain
import SpirvToolchain.Proofs.Compilation.Tag

/-! The path of the source, which no line of a report gives away. -/
namespace SpirvToolchain

open Text

/-- Neither the text of a line nor that of its tag has the path in it. -/
structure Line.Conceals (path : String) (l : Line) : Prop where
  text : ¬ path.toList <:+: l.text.toList
  tag : ∀ tag, l.tag = some tag → ¬ path.toList <:+: tag.text.toList

variable {path : String}

/-- The mark of the source keeps what stands before it from joining what stands after it. -/
theorem not_infix_shownAs {path : List Char} (hslash : '/' ∈ path) (hopen : '<' ∉ path)
    (hclose : '>' ∉ path) (raw : List Char) : ¬ path <:+: shownAs path raw := by
  have hname : ¬ path <:+: "source".toList := fun h => absurd (h.subset hslash) (by decide)
  exact not_infix_replace_literal hopen hclose hname _

theorem Line.conceals_of_mem_parseOutput (hslash : '/' ∈ path.toList) (hopen : '<' ∉ path.toList)
    (hclose : '>' ∉ path.toList) {text : String} {l : Line} (hl : l ∈ parseOutput text (some path)) :
    l.Conceals path := by
  have hne : path ≠ "" := by
    rintro rfl
    cases hslash
  obtain ⟨raw, -, hraw⟩ := List.mem_filterMap.1 hl
  have hhidden := not_infix_shownAs hslash hopen hclose raw
  obtain ⟨htext, -, hread⟩ := Line.eq_of_ofRaw? hraw
  rw [shownIn_path hne] at htext hread
  refine ⟨htext ▸ hhidden, fun tag htag h => hhidden ?_⟩
  exact h.trans (Tag.suffix_of_parse? (hread.symm.trans htag)).isInfix

/--
No line read from a tool's output has the path of the source in it, nor has what its tag says,
whatever the tool printed: copies that overlap, or that an escape parts. So has no line of a
result that is gathered from the outputs of several tools.
-/
theorem parseOutput_conceals_path (hslash : '/' ∈ path.toList) (hopen : '<' ∉ path.toList)
    (hclose : '>' ∉ path.toList) :
    (∀ text, ∀ l ∈ parseOutput text (some path), l.Conceals path) ∧
    ∀ (first : ExecOutput) (later : List ExecOutput),
      let c := later.foldl Compilation.append (.ofOutput first path)
      ∀ l ∈ c.stdout ++ c.stderr, l.Conceals path := by
  have hread {text : String} {l : Line} (hl : l ∈ parseOutput text (some path)) : l.Conceals path :=
    Line.conceals_of_mem_parseOutput hslash hopen hclose hl
  refine ⟨fun text l hl => hread hl, fun first later => ?_⟩
  intro c l hl
  have hgathers : Compilation.Gathers path (first :: later) c :=
    (Compilation.gathers_ofOutput first path).foldl_append later
  rw [hgathers.stdout, hgathers.stderr, List.mem_append, List.mem_flatMap, List.mem_flatMap] at hl
  obtain ⟨o, -, hl⟩ | ⟨o, -, hl⟩ := hl
  · exact hread hl
  · exact hread hl

theorem parseOutput_conceals_overlapping :
    let text := "/a\x1b[1m/a:3: in /a/\x1b[ma/a"
    parseOutput text (some "/a/a") =
      [⟨"<source>:3: in <source>/a", some ⟨3, none, "in <source>/a"⟩⟩] ∧
    ∀ l ∈ parseOutput text (some "/a/a"), l.Conceals "/a/a" := by
  intro text
  have hconceals := @parseOutput_conceals_path "/a/a" (by decide) (by decide) (by decide)
  exact ⟨by decide, hconceals.1 text⟩

end SpirvToolchain
