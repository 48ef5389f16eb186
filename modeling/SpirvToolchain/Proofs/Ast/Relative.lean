import Mathlib.Data.List.DropRight
import SpirvToolchain.Proofs.Ast.Position

/-!
Declarations whose range names no file: they are taken to be in the file that the last range to
name one started in, whatever other positions named.
-/
namespace SpirvToolchain.Ast

open Text

variable {s t : List Char}

/-- A line of a dump, as the compiler draws it. -/
inductive DumpLine
  /-- A node with its positions: the root, or below nodes of which `lasts` tells the last ones. -/
  | node (lasts : Option (List Bool)) (d : Declaration) (positions : Positions)
      (range_eq : d.range = positions.text)
  /-- A line without positions. -/
  | bare (text : List Char) (unplaced : location? (plain text) = none)

namespace DumpLine

def text : DumpLine → List Char
  | node none d .. => d.label
  | node (some lasts) d .. => lasts.flatMap column ++ d.line
  | bare text _ => text

/-- All files that a line names, in order. -/
def files : DumpLine → List (List Char)
  | node _ _ positions _ => positions.files
  | bare .. => []

/-- The file that a line names where the range of its node starts, right after the kind. -/
def opening? : DumpLine → Option (List Char)
  | node _ d positions _ => if d.mentions = [] then positions.start.file? else none
  | bare .. => none

end DumpLine

theorem location?_congr (h : label? s = label? t) : location? s = location? t := by
  rw [location?, location?, range?, range?, h]

theorem label?_of_isAlpha {c : Char} (h : c.isAlpha = true) (s : List Char) :
    label? (c :: s) = some (c :: s) := by
  have hbranch : isBranch c = false := by
    simp only [isBranch, Bool.or_eq_false_iff, beq_eq_false_iff_ne]
    refine ⟨⟨?_, ?_⟩, ?_⟩ <;> rintro rfl <;> exact absurd h (by decide)
  have hdash : c ≠ '-' := by
    rintro rfl
    exact absurd h (by decide)
  simp only [label?, List.dropWhile_cons_of_neg (ne_true_of_eq_false hbranch)]
  split
  · next heq => exact absurd (List.cons.inj heq).1 hdash
  · rfl

theorem isBranch_of_mem_columns {c : Char} {lasts : List Bool} (h : c ∈ lasts.flatMap column) :
    isBranch c = true := by
  obtain ⟨last, -, hc⟩ := List.mem_flatMap.1 h
  have hall : (column last).all isBranch = true := by cases last <;> rfl
  exact List.all_eq_true.1 hall c hc

theorem label?_columns (lasts : List Bool) (last : Bool) (s : List Char) :
    label? (lasts.flatMap column ++ (branch last ++ s)) = some s := by
  obtain ⟨c, hc, hblank, hbranch⟩ :
      ∃ c, isBranch c = true ∧ c ≠ ' ' ∧ branch last ++ s = c :: '-' :: s := by
    cases last with
    | false => exact ⟨'|', by decide, by decide, rfl⟩
    | true => exact ⟨'`', by decide, by decide, rfl⟩
  have hall : ∀ x ∈ lasts.flatMap column ++ [c], isBranch x = true := by
    intro x hx
    rcases List.mem_append.1 hx with hx | hx
    · exact isBranch_of_mem_columns hx
    · exact List.mem_singleton.1 hx ▸ hc
  have hstops : Stops isBranch ('-' :: s) := stops_cons (by decide) s
  have hline : lasts.flatMap column ++ (branch last ++ s) =
      lasts.flatMap column ++ [c] ++ '-' :: s := by
    rw [hbranch, List.append_assoc]
    rfl
  rw [hline, label?, takeWhile_all_append hall hstops, dropWhile_all_append hall hstops]
  simp [hblank]

theorem plain_columns (lasts : List Bool) (last : Bool) (s : List Char) :
    plain (lasts.flatMap column ++ (branch last ++ s)) =
      lasts.flatMap column ++ (branch last ++ plain s) := by
  induction lasts with
  | nil => exact plain_branch last s
  | cons b lasts ih =>
    obtain ⟨c, rest, hc, hrest⟩ := starts_with_branch lasts last s
    rw [List.append_assoc] at hrest
    rw [List.flatMap_cons, List.append_assoc, hrest, plain_column hc, ← hrest, ih,
      List.append_assoc]

namespace Declaration

variable (d : Declaration)

/-- Where a declaration is drawn does not change what is read of it. -/
theorem location?_columns (lasts : List Bool) :
    location? (plain (lasts.flatMap column ++ d.line)) = location? (plain d.line) := by
  refine location?_congr ?_
  rw [line, plain_columns, label?_columns, plain_branch, label?_branch]

/-- Neither does it matter whether a branch leads to it at all. -/
theorem location?_label : location? (plain d.label) = location? (plain d.line) := by
  have hline : plain d.line = branch d.last ++ plain d.label := by rw [line, plain_branch]
  have hlabel : plain d.label = d.kind ++
      (d.mentions.flatMap (·.relation.word) ++ ' ' :: '<' :: plain d.range) :=
    List.append_cancel_left (hline.symm.trans d.plain_line)
  obtain ⟨c, cs, hkind⟩ := List.exists_cons_of_ne_nil d.kind_run.1
  have hc : c.isAlpha = true := by simpa [hkind] using d.kind_head
  refine location?_congr ?_
  rw [hline, label?_branch, hlabel, hkind, List.cons_append, label?_of_isAlpha hc]

end Declaration

namespace DumpLine

theorem fileNamed?_text (l : DumpLine) : fileNamed? l.text = l.opening? := by
  cases l with
  | bare text unplaced => rw [DumpLine.text, fileNamed?, unplaced, opening?]
  | node lasts d positions range_eq =>
    have hlocation : location? (plain (node lasts d positions range_eq).text) =
        location? (plain d.line) := by
      cases lasts with
      | none => exact d.location?_label
      | some lasts => exact d.location?_columns lasts
    have hstart : Location.ofRange (plain d.range) = positions.start.location := by
      rw [range_eq, positions.ofRange_text]
    rw [fileNamed?, hlocation, d.location?_line, hstart, opening?]
    by_cases hmentions : d.mentions = []
    · rw [if_pos hmentions, if_pos hmentions]
      cases positions.start <;> rfl
    · rw [if_neg hmentions, if_neg hmentions]

theorem lastFile_text (ls : List DumpLine) :
    lastFile (ls.map text) = (ls.filterMap opening?).getLast? := by
  rw [lastFile, List.filterMap_map]
  exact congrArg _ (List.filterMap_congr fun l _ => l.fileNamed?_text)

/-- If no line names a file after the one that its range starts in, that one is named last. -/
theorem getLast?_opening (ls : List DumpLine) (h : ∀ l ∈ ls, l.files.getLast? = l.opening?) :
    (ls.filterMap opening?).getLast? = (ls.flatMap files).getLast? := by
  induction ls using List.reverseRecOn with
  | nil => rfl
  | append_singleton ls l ih =>
    have hl : l.files.getLast? = l.opening? := h l (by simp)
    have hls := ih fun l hmem => h l (List.mem_append_left _ hmem)
    rw [List.flatMap_append, List.getLast?_append, List.flatMap_singleton, hl, ← hls,
      List.filterMap_append, List.getLast?_append]
    cases hopening : l.opening? <;> simp [hopening]

end DumpLine

theorem Declaration.inSource_iff_lastFile {d : Declaration} {positions : Positions}
    (hrange : d.range = positions.text) (hstart : positions.start.location = .sameFile)
    (above : List (List Char)) : d.InSource above ↔ lastFile above = some sourceName := by
  have hlocation : Location.ofRange (plain d.range) = .sameFile := by
    rw [hrange, positions.ofRange_text, hstart]
  have hsource : ¬ sourceName <+: plain d.range := by
    intro h
    rw [ofRange_eq_source_iff.2 h] at hlocation
    cases hlocation
  have hrelative := ofRange_eq_sameFile_iff.1 hlocation
  constructor
  · intro h
    exact (h.resolve_left hsource).2
  · intro h
    exact .inr ⟨hrelative, h⟩

/--
A declaration whose range starts with a line or a column is kept, with all that is below it,
exactly if the last file to open a range above it is the source. A file that is named elsewhere,
at the end of a range or beside the name of a node, does not count: the file that counts is the
one named last only if no line above goes on to name another after the start of its range.
-/
theorem filter_relative (d : Declaration) (positions : Positions) (children : List Node)
    (before : List DumpLine) (rest : List Line) {above block : List Line}
    (habove : above.map (·.text.toList) = before.map DumpLine.text)
    (hblock : block.map (·.text.toList) =
      (d.child (before.map DumpLine.text) children).lines)
    (hrange : d.range = positions.text) (hmentions : d.mentions = [])
    (hstart : positions.start.location = .sameFile) :
    (∃ kept, kept.Sublist (rest.map plainLine) ∧
      filter (above ++ block ++ rest) = filter above ++
        (if (before.filterMap DumpLine.opening?).getLast? = some sourceName then
          block.map plainLine else []) ++ kept) ∧
    ((∀ l ∈ before, l.files.getLast? = l.opening?) →
      (before.filterMap DumpLine.opening?).getLast? =
        (before.flatMap DumpLine.files).getLast?) := by
  let c := d.child (before.map DumpLine.text) children
  have hindented : ∀ line ∈ c.descendants, Indented line :=
    fun _ => c.node.indented_of_mem_descendants c.last []
  obtain ⟨kept, hkept, hfilter⟩ := filter_block (c := c) rest habove hblock hindented
  refine ⟨⟨kept, hkept, ?_⟩, DumpLine.getLast?_opening before⟩
  rw [hfilter]
  simp only [c, d.inSource_child, hmentions, true_and, DumpLine.lastFile_text,
    Declaration.inSource_iff_lastFile hrange hstart]

def sampleName : FileName := { text := sourceName }

def sampleMacros : FileName := { text := "/inc/m.h".toList }

/-- The root, and a record that starts in the source and ends in a macro of another file. -/
def sampleBefore : List DumpLine :=
  [.node none
     { kind := "TranslationUnitDecl".toList, address := { digits := ['1'] },
       range := "<invalid sloc>> <invalid sloc>".toList }
     { start := .invalid, name := some .invalid } (by decide),
   .node (some [])
     { kind := "RecordDecl".toList, address := { digits := ['5'] },
       range := "<source>:1:1, /inc/m.h:3:1> line:3:1 s".toList }
     { start := .file sampleName 1 1, stop := some (.file sampleMacros 3 1),
       name := some (.line 3 1), tail := " s".toList } (by decide)]

/-- The lines of the root and the record. -/
def sampleAbove : List Line :=
  [{ text := "TranslationUnitDecl 0x1 <<invalid sloc>> <invalid sloc>" },
   { text := "|-RecordDecl 0x5 <<source>:1:1, /inc/m.h:3:1> line:3:1 s" }]

/-- An enumeration that the macro declares. -/
def sampleDeclared : Declaration where
  last := true
  kind := "EnumDecl".toList
  address := { digits := ['7'] }
  range := "line:5:1, col:5> col:5 e".toList

theorem filter_sampleDeclared :
    (sampleBefore.flatMap DumpLine.files).getLast? = some sampleMacros.text ∧
    filter (sampleAbove ++ [{ text := String.ofList sampleDeclared.line }]) =
      filter sampleAbove ++ [{ text := "`-EnumDecl <line:5:1, col:5> col:5 e" }] := by
  let positions : Positions :=
    { start := .line 5 1, stop := some (.column 5), name := some (.column 5), tail := " e".toList }
  have habove : sampleAbove.map (·.text.toList) = sampleBefore.map DumpLine.text := by decide
  have hrange : sampleDeclared.range = positions.text := by decide
  have hblock : [({ text := String.ofList sampleDeclared.line } : Line)].map (·.text.toList) =
      (sampleDeclared.child (sampleBefore.map DumpLine.text) []).lines := by decide
  obtain ⟨⟨kept, hkept, hfilter⟩, -⟩ :=
    filter_relative sampleDeclared positions [] sampleBefore [] habove hblock hrange rfl rfl
  have hnone : kept = [] := List.sublist_nil.1 hkept
  have hopening : (sampleBefore.filterMap DumpLine.opening?).getLast? = some sourceName := by decide
  refine ⟨by decide, ?_⟩
  rw [List.append_nil, hnone, List.append_nil, if_pos hopening] at hfilter
  rw [hfilter]
  decide

end SpirvToolchain.Ast
