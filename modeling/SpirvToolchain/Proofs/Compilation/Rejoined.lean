import SpirvToolchain.Proofs.Compilation.Plain

/-! The lines of a report as one text: read again, they are the same lines. -/
namespace SpirvToolchain

open Text

variable {s raw : List Char} {input : Option String} {l : Line} {ls : List Line}

/-- A text that is one line and is read as it stands. -/
structure Still (s : List Char) : Prop where
  noNewline : '\n' ∉ s
  noReturn : s.getLast? ≠ some '\r'
  noEscape : Ansi.escape ∉ s

theorem still_trimReturns (hnewline : '\n' ∉ raw) (hescape : Ansi.escape ∉ raw) :
    Still (trimReturns raw) := by
  obtain ⟨t, -, ht⟩ := exists_trimReturns_append raw
  have hstart : trimReturns raw <+: raw := ⟨t, ht⟩
  exact ⟨fun h => hnewline (hstart.subset h), getLast?_trimReturns raw,
    fun h => hescape (hstart.subset h)⟩

namespace Still

theorem strip_trimReturns (hs : Still s) : Ansi.strip (trimReturns s) = s := by
  rw [trimReturns_eq_self hs.noReturn, Ansi.strip_eq_self hs.noEscape]

/-- The mark of the source brings in no newline and no escape, and ends in no return. -/
theorem replace (hs : Still s) (pattern : Pattern) : Still (Text.replace pattern sourceName s) where
  noNewline h := (mem_of_mem_replace h).elim (fun h => absurd h (by decide)) hs.noNewline
  noReturn h := by
    rcases getLast?_replace (List.cons_ne_nil _ _) s with hend | hend
    · exact hs.noReturn (hend.symm.trans h)
    · exact absurd (hend.symm.trans h) (by decide)
  noEscape h := (mem_of_mem_replace h).elim (fun h => absurd h (by decide)) hs.noEscape

end Still

theorem still_shownIn (hnewline : '\n' ∉ raw) (hescape : Ansi.escape ∉ raw)
    (input : Option String) : Still (shownIn input raw) := by
  have htrimmed := still_trimReturns hnewline hescape
  have hstrip := Ansi.strip_eq_self htrimmed.noEscape
  rcases shownIn_cases input raw with h | ⟨path, h⟩
  · rw [h, hstrip]
    exact htrimmed
  · rw [h, shownAs, hstrip]
    exact htrimmed.replace (literal path)

/-- A line that shows something, with the tag that its text has, and is read as it stands. -/
structure Line.Settled (l : Line) : Prop extends Still l.text.toList where
  inked : allBlank l.text.toList = false
  tag : l.tag = Tag.parse? l.text.toList

theorem Line.Settled.ofRaw? (h : l.Settled) : Line.ofRaw? none l.text.toList = some l := by
  have hshown : shownIn none l.text.toList = l.text.toList := h.strip_trimReturns
  rw [Line.ofRaw?_eq_ite, hshown, h.inked, ← h.tag, String.ofList_toList]
  rfl

theorem Line.settled_of_ofRaw? (hnewline : '\n' ∉ raw) (hescape : Ansi.escape ∉ raw)
    (h : Line.ofRaw? input raw = some l) : l.Settled := by
  obtain ⟨htext, hinked, htag⟩ := Line.eq_of_ofRaw? h
  have hstill := still_shownIn hnewline hescape input
  rw [← htext] at hstill hinked htag
  exact ⟨hstill, hinked, htag⟩

theorem settled_of_mem_parseOutput {text : String} (hescape : Ansi.escape ∉ text.toList)
    (hl : l ∈ parseOutput text input) : l.Settled := by
  obtain ⟨raw, hraw, h⟩ := List.mem_filterMap.1 hl
  have hnewline : '\n' ∉ raw := fun h => (mem_of_mem_lines hraw h).2 rfl
  have hescape : Ansi.escape ∉ raw := fun h => hescape (mem_of_mem_lines hraw h).1
  exact Line.settled_of_ofRaw? hnewline hescape h

/-- Settled lines, joined to one text, are read back. -/
theorem parseOutput_joinLines (hls : ∀ l ∈ ls, l.Settled) : parseOutput (joinLines ls) none = ls := by
  have hlines : lines (unlines (ls.map (·.text.toList))) = ls.map (·.text.toList) := by
    apply lines_unlines
    · intro t ht
      obtain ⟨l, hl, rfl⟩ := List.mem_map.1 ht
      exact ⟨(hls l hl).noNewline, (hls l hl).noReturn⟩
    · intro hlast
      obtain ⟨l, hl, hempty⟩ := List.mem_map.1 (List.mem_of_getLast? hlast)
      have hinked := (hls l hl).inked
      simp [hempty, allBlank] at hinked
  rw [parseOutput, joinLines, String.toList_ofList, hlines, List.filterMap_map]
  have hread : ∀ l ∈ ls, (Line.ofRaw? none ∘ (·.text.toList)) l = some l := by
    intro l hl
    exact (hls l hl).ofRaw?
  rw [List.filterMap_congr hread, List.filterMap_some]

/-- Neither stream has an escape in it. -/
structure ExecOutput.Unescaped (o : ExecOutput) : Prop where
  stdout : Ansi.escape ∉ o.stdout.toList
  stderr : Ansi.escape ∉ o.stderr.toList

namespace Compilation

variable {c : Compilation}

/-- A result of such outputs: of none yet, of one, of one more, or with its code set. -/
inductive Unescaped : Compilation → Prop
  | empty (input : Option String) : Unescaped { inputFilename := input }
  | ofOutput (o : ExecOutput) (input : String) : o.Unescaped → Unescaped (.ofOutput o input)
  | append (c : Compilation) (o : ExecOutput) : Unescaped c → o.Unescaped → Unescaped (c.append o)
  | setCode (c : Compilation) (code : Int) : Unescaped c → Unescaped { c with code }

namespace Unescaped

theorem settled (h : Unescaped c) : (∀ l ∈ c.stdout, l.Settled) ∧ ∀ l ∈ c.stderr, l.Settled := by
  induction h with
  | empty input => exact ⟨fun _ => nofun, fun _ => nofun⟩
  | ofOutput o input ho =>
    exact ⟨fun l => settled_of_mem_parseOutput ho.stdout, fun l => settled_of_mem_parseOutput ho.stderr⟩
  | append c o _ ho ih =>
    refine ⟨fun l hl => ?_, fun l hl => ?_⟩
    · rcases List.mem_append.1 hl with hl | hl
      · exact ih.1 l hl
      · exact settled_of_mem_parseOutput ho.stdout hl
    · rcases List.mem_append.1 hl with hl | hl
      · exact ih.2 l hl
      · exact settled_of_mem_parseOutput ho.stderr hl
  | setCode c code _ ih => exact ih

theorem parseOutput_stdoutText (h : Unescaped c) : parseOutput c.stdoutText none = c.stdout :=
  parseOutput_joinLines h.settled.1

theorem parseOutput_stderrText (h : Unescaped c) : parseOutput c.stderrText none = c.stderr :=
  parseOutput_joinLines h.settled.2

end Unescaped

end Compilation

/--
A text without escapes is read as lines that show something, each without a newline in it or a
return at its end; joined to one text they are read as themselves, with their tags, and whatever
path was replaced in them. So the texts of a result tell its lines, if no output that it takes in
has an escape in it.
-/
theorem parseOutput_rejoined :
    (∀ (text : String) (input : Option String), Ansi.escape ∉ text.toList →
      parseOutput (joinLines (parseOutput text input)) none = parseOutput text input ∧
      ∀ l ∈ parseOutput text input, allBlank l.text.toList = false ∧ '\n' ∉ l.text.toList ∧
        l.text.toList.getLast? ≠ some '\r') ∧
    (∀ c : Compilation, c.Unescaped →
      parseOutput c.stdoutText none = c.stdout ∧ parseOutput c.stderrText none = c.stderr) ∧
    ∀ c c' : Compilation, c.Unescaped → c'.Unescaped →
      (c.stdoutText = c'.stdoutText → c.stdout = c'.stdout) ∧
      (c.stderrText = c'.stderrText → c.stderr = c'.stderr) := by
  refine ⟨fun text input hescape => ?_, fun c hc => ?_, fun c c' hc hc' => ?_⟩
  · have hsettled : ∀ l ∈ parseOutput text input, l.Settled := fun l =>
      settled_of_mem_parseOutput hescape
    refine ⟨parseOutput_joinLines hsettled, fun l hl => ?_⟩
    obtain ⟨⟨hnewline, hreturn, -⟩, hinked, -⟩ := hsettled l hl
    exact ⟨hinked, hnewline, hreturn⟩
  · exact ⟨hc.parseOutput_stdoutText, hc.parseOutput_stderrText⟩
  · constructor
    · intro heq
      rw [← hc.parseOutput_stdoutText, heq, hc'.parseOutput_stdoutText]
    · intro heq
      rw [← hc.parseOutput_stderrText, heq, hc'.parseOutput_stderrText]

/-- Returns within lines and at their ends, a blank line, and a path that is one blank. -/
theorem parseOutput_rejoined_ragged :
    let text := "a b\r\r\n\t\r\n<source>:7: \r c\r"
    Ansi.escape ∉ text.toList ∧
    parseOutput text (some " ") =
      [⟨"a<source>b", none⟩, ⟨"<source>:7:<source>\r<source>c", some ⟨7, none, "<source>\r<source>c"⟩⟩] ∧
    parseOutput "a<source>b\n<source>:7:<source>\r<source>c" none = parseOutput text (some " ") := by
  intro text
  have hescape : Ansi.escape ∉ text.toList := by decide
  obtain ⟨hagain, -⟩ := parseOutput_rejoined.1 text (some " ") hescape
  have hjoined : joinLines (parseOutput text (some " ")) =
      "a<source>b\n<source>:7:<source>\r<source>c" := by decide
  rw [hjoined] at hagain
  exact ⟨hescape, by decide, hagain⟩

end SpirvToolchain
