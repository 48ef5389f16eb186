import SpirvToolchain.Proofs.Ast.Declaration
import SpirvToolchain.Proofs.Compilation.Named

/-! Where the declarations of a printed tree come from, told by the paths in their ranges. -/
namespace SpirvToolchain.Ast

open Text

variable {tail : List Char}

/-- The lines of a report. -/
def reported (p : NamedFile) (ls : List (List Char)) : List Line :=
  ls.filterMap (Line.ofRaw? (some p.path))

theorem parseOutput_eq_reported (p : NamedFile) (dump : String) :
    parseOutput dump (some p.path) = reported p (lines dump.toList) := rfl

theorem Address.untouched_text (a : Address) : Untouched a.text := by
  have hmark : Untouched [' ', '0', 'x'] := {}
  have hdigits : Untouched a.digits := .of_kind (by decide) (by decide) (by decide) a.run.2
  exact hmark.append hdigits

theorem Mention.untouched_text (a : Mention) : Untouched a.text := by
  have hword : Untouched a.relation.word := by
    cases a.relation with
    | parent => exact {}
    | prev => exact {}
  exact hword.append a.address.untouched_text

theorem untouched_branch (last : Bool) : Untouched (branch last) := by
  cases last with
  | false => exact {}
  | true => exact {}

theorem untouched_column (last : Bool) : Untouched (column last) := by
  cases last with
  | false => exact {}
  | true => exact {}

/-- The lines below a declaration are still below it in a report. -/
theorem Indented.of_report {p : NamedFile} {raw : List Char} {l : Line} (h : Indented raw)
    (hl : Line.ofRaw? (some p.path) raw = some l) : Indented l.text.toList := by
  obtain ⟨last, c, rest, hc, rfl⟩ := h
  have huntouched : Untouched (column last ++ [c]) := by
    have hbranch : Untouched [c] := .of_kind rfl rfl rfl (by simpa using hc)
    exact (untouched_column last).append hbranch
  have hshown : shownAs p.path.toList (column last ++ c :: rest) =
      column last ++ c :: shownAs p.path.toList rest := by
    simpa using shownAs_append p huntouched rest
  have htext := (Line.eq_of_ofRaw? hl).1
  rw [shownIn_path p.path_ne, hshown] at htext
  exact ⟨last, c, shownAs p.path.toList rest, hc, htext⟩

namespace Declaration

variable (d : Declaration)

/-- A declaration up to its range. -/
def opening : List Char :=
  branch d.last ++ (d.kind ++ (d.address.text ++ (d.mentions.flatMap Mention.text ++ [' ', '<'])))

theorem line_eq : d.line = d.opening ++ d.range := by
  simp [line, label, opening]

theorem untouched_opening : Untouched d.opening := by
  have hmentions : Untouched (d.mentions.flatMap Mention.text) := by
    induction d.mentions with
    | nil => exact {}
    | cons a as ih => exact a.untouched_text.append ih
  have hkind : Untouched d.kind := .of_kind (by decide) (by decide) (by decide) d.kind_run.2
  have hend : Untouched [' ', '<'] := {}
  exact (untouched_branch d.last).append
    (hkind.append (d.address.untouched_text.append (hmentions.append hend)))

variable {d} {p f : NamedFile}

theorem newline_notMem_renamed (h : d.range = f.path.toList ++ ':' :: tail) :
    '\n' ∉ replace (literal p.path.toList) sourceName f.path.toList ++
      ':' :: shownAs p.path.toList tail := by
  have hone := d.oneLine
  simp only [h, List.mem_append, List.mem_cons, not_or] at hone
  intro hmem
  rcases List.mem_append.1 hmem with hmem | hmem
  · rcases mem_of_mem_replace hmem with hmem | hmem
    · exact absurd hmem (by decide)
    · exact hone.1 hmem
  · rcases List.mem_cons.1 hmem with hmem | hmem
    · exact hone.2.1 hmem
    · exact newline_notMem_shownAs hone.2.2 hmem

variable (d p f) in
/-- The declaration as a report shows it, when its range starts in a file. -/
def renamed (tail : List Char) (h : d.range = f.path.toList ++ ':' :: tail) : Declaration :=
  { d with
    range := replace (literal p.path.toList) sourceName f.path.toList ++
      ':' :: shownAs p.path.toList tail
    oneLine := newline_notMem_renamed h }

variable (h : d.range = f.path.toList ++ ':' :: tail)

theorem shownAs_line : shownAs p.path.toList d.line = (d.renamed p f tail h).line := by
  rw [line_eq, shownAs_append p d.untouched_opening, h, shownAs_name, line_eq]
  rfl

theorem ofRaw?_line : ∃ l, Line.ofRaw? (some p.path) d.line = some l ∧
    l.text.toList = (d.renamed p f tail h).line := by
  have hinked : allBlank (d.renamed p f tail h).line = false :=
    allBlank_eq_false_of_mem (c := '<') (by decide) (by simp [line, label])
  rw [Line.ofRaw?_eq p.path_ne, shownAs_line h, hinked]
  exact ⟨_, rfl, String.toList_ofList⟩

/-- In a report, a range starts in the source if its file starts with the path of the source. -/
theorem inSource_renamed (above : List (List Char)) :
    (d.renamed p f tail h).InSource above ↔ p.path.toList <+: f.path.toList := by
  let rest := ':' :: shownAs p.path.toList tail
  have hrange : (d.renamed p f tail h).range =
      replace (literal p.path.toList) sourceName f.path.toList ++ rest := rfl
  rw [InSource, hrange]
  constructor
  · intro hsource
    by_contra hstart
    obtain ⟨more, hmore⟩ := replace_path_of_other hstart
    have hslash : ['/'] <+: plain ('/' :: (more ++ rest)) := by
      rw [plain_cons (by decide) (by decide)]
      exact List.prefix_append ['/'] _
    rw [hmore, List.cons_append] at hsource
    rcases hsource with hsource | ⟨hline | hcolumn, -⟩
    · exact not_prefix_of_other hslash (by decide) (by decide) hsource
    · exact not_prefix_of_other hslash (by decide) (by decide) hline
    · exact not_prefix_of_other hslash (by decide) (by decide) hcolumn
  · intro hstart
    obtain ⟨more, hmore⟩ := replace_path_of_start hstart
    rw [hmore, List.append_assoc, plain_append (by decide) (by decide)]
    exact .inl (List.prefix_append _ _)

end Declaration

/--
A report of a tree names the source by its mark, and the mark is looked for at the start of a
range only. So a declaration without mentions whose range starts in a file is kept, with all
that is below it, exactly where the path of that file starts with the path of the source.
-/
theorem process_declaration (p f : NamedFile) (d : Declaration) (children : List Node)
    {above rest : List (List Char)} {dump : String} {result : Compilation}
    (hrange : d.range = f.path.toList ++ ':' :: tail)
    (hdump : lines dump.toList = above ++ (d.child above children).lines ++ rest)
    (hcode : result.code = 0) (hstdout : result.stdout = parseOutput dump (some p.path)) :
    ∃ kept, kept.Sublist ((reported p rest).map plainLine) ∧
      process result = filter (reported p above) ++
        (if d.mentions = [] ∧ p.path.toList <+: f.path.toList then
          (reported p (d.child above children).lines).map plainLine else []) ++ kept := by
  let before := (reported p above).map (·.text.toList)
  let c := (d.renamed p f tail hrange).child before []
  obtain ⟨l, hl, htext⟩ := Declaration.ofRaw?_line (p := p) hrange
  let below := reported p (d.child above children).descendants
  have hblock : reported p (d.child above children).lines = l :: below :=
    List.filterMap_cons_some hl
  have hlines : (l :: below).map (·.text.toList) = c.line :: below.map (·.text.toList) := by
    rw [List.map_cons, htext]
    rfl
  have hbelow : ∀ line ∈ below.map (·.text.toList), Indented line := by
    intro line hline
    obtain ⟨l', hl', rfl⟩ := List.mem_map.1 hline
    obtain ⟨raw, hraw, hreport⟩ := List.mem_filterMap.1 hl'
    have hindented : Indented raw :=
      (d.child above children).node.indented_of_mem_descendants _ [] hraw
    exact hindented.of_report hreport
  have habove : (reported p above).map (·.text.toList) = c.above := rfl
  obtain ⟨kept, hkept, hfilter⟩ := filter_block (reported p rest) habove hlines hbelow
  have hall : result.stdout = reported p above ++ (l :: below) ++ reported p rest := by
    rw [hstdout, parseOutput_eq_reported, hdump, ← hblock]
    simp [reported]
  have hprocess : process result = filter result.stdout := by
    simp [process, Compilation.success, hcode]
  refine ⟨kept, hkept, ?_⟩
  rw [hprocess, hall, hfilter, hblock]
  simp only [c, Declaration.inSource_child, Declaration.inSource_renamed]
  rfl

def sampleSource : NamedFile := { path := "/tmp/a.cl" }

/-- A header named after the source. -/
def sampleHeader : NamedFile := { path := "/tmp/a.cl.h" }

def sampleVariable : Declaration where
  last := true
  kind := "VarDecl".toList
  address := { digits := ['d'] }
  range := "/tmp/a.cl.h:1:1, col:10> col:5 v".toList

def sampleDump : String :=
  "Root 0x1\n`-VarDecl 0xd </tmp/a.cl.h:1:1, col:10> col:5 v\n  `-Attr 0xe"

theorem process_sampleHeader :
    sampleSource.path ≠ sampleHeader.path ∧
    sampleVariable.line = "`-VarDecl 0xd </tmp/a.cl.h:1:1, col:10> col:5 v".toList ∧
    process { stdout := parseOutput sampleDump (some sampleSource.path) } =
      [{ text := "Root" },
       { text := "`-VarDecl <<source>.h:1:1, col:10> col:5 v" },
       { text := "  `-Attr" }] := by
  let result : Compilation := { stdout := parseOutput sampleDump (some sampleSource.path) }
  have hcode : result.code = 0 := rfl
  have hrange : sampleVariable.range =
      sampleHeader.path.toList ++ ':' :: "1:1, col:10> col:5 v".toList := by decide
  have hdump : lines sampleDump.toList = ["Root 0x1".toList] ++
      (sampleVariable.child ["Root 0x1".toList] [.node "Attr 0xe".toList []]).lines ++ [] := by
    decide
  obtain ⟨kept, hkept, hprocess⟩ := process_declaration sampleSource sampleHeader sampleVariable
    [.node "Attr 0xe".toList []] hrange hdump hcode rfl
  have hstart : sampleSource.path.toList <+: sampleHeader.path.toList := by decide
  have hnone : kept = [] := List.sublist_nil.1 hkept
  refine ⟨by decide, by decide, ?_⟩
  rw [hprocess, if_pos ⟨rfl, hstart⟩, hnone]
  decide

end SpirvToolchain.Ast
