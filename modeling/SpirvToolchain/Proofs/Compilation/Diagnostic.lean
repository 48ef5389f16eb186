import SpirvToolchain.Proofs.Compilation.Plain
import SpirvToolchain.Proofs.Compilation.Tag

/-! What a tool says of a place in a file: it is tagged exactly if that file is the source. -/
namespace SpirvToolchain

open Text

/-- A text that a colon, the end of a line or an escape after it does not split. -/
structure Bare (s : String) : Prop where
  noColon : ':' ∉ s.toList := by decide
  noNewline : '\n' ∉ s.toList := by decide
  noEscape : Ansi.escape ∉ s.toList := by decide

/-- A message about a place in a file. -/
structure Diagnostic where
  file : String
  line : Nat
  column : Option Nat := none
  message : String
  deriving DecidableEq

namespace Diagnostic

/-- What follows the line number and its colon. -/
def remark (column : Option Nat) (message : List Char) : List Char :=
  (column.elim [] fun c => Nat.toDigits 10 c ++ [':']) ++ ' ' :: message

/-- The message as tools print it, with the column if they know it. -/
def text (d : Diagnostic) : String :=
  d.file ++ ":" ++ toString d.line ++ ":" ++ (d.column.elim "" fun c => toString c ++ ":") ++ " " ++
    d.message

/-- The message in a report, where every occurrence of the path is shown as the source. -/
def shown (path : String) (d : Diagnostic) : Diagnostic where
  file := String.ofList (replace (literal path.toList) sourceName d.file.toList)
  line := d.line
  column := d.column
  message := String.ofList (replace (literal path.toList) sourceName d.message.toList)

/-- The place and what is said of it, if the line number fits a word. -/
def tag? (d : Diagnostic) : Option Tag :=
  (fit32? d.line).map fun line =>
    ⟨line, d.column.bind fit32?, String.ofList (trimStart d.message.toList)⟩

variable {path : String} {d : Diagnostic} {p new s t : List Char}

theorem toList_text (d : Diagnostic) :
    d.text.toList =
      d.file.toList ++ ':' :: (Nat.toDigits 10 d.line ++ ':' :: remark d.column d.message.toList) := by
  cases hcolumn : d.column <;> simp [text, remark, hcolumn]

theorem ofAfter_remark (line : Nat) (column : Option Nat) (message : List Char) :
    Tag.ofAfter line (remark column message) =
      ⟨line, column.bind fit32?, String.ofList (trimStart message)⟩ := by
  have hblank : trimStart (' ' :: message) = trimStart message := by
    simp [trimStart, isBlank_space]
  cases column with
  | none =>
    have hstops : Stops isDigit (' ' :: message) := stops_cons (by decide) message
    have hnone := Tag.ofAfter_stops hstops line
    rwa [hblank] at hnone
  | some c =>
    have hcolumn := Tag.ofAfter_column line c (' ' :: message)
    rw [hblank] at hcolumn
    simpa [remark] using hcolumn

/-- An absolute path is not looked for in the numbers and marks of a message. -/
theorem replace_cons (hslash : p.head? = some '/') {c : Char} (hc : c ≠ '/') :
    replace (literal p) new (c :: t) = c :: replace (literal p) new t :=
  replace_cons_of_no_match (literal_cons_eq_zero hslash hc t)

theorem replace_remark (hslash : p.head? = some '/') (column : Option Nat) (message : List Char) :
    replace (literal p) new (remark column message) =
      remark column (replace (literal p) new message) := by
  have hhead : '/' ∉ column.elim [] fun c => Nat.toDigits 10 c ++ [':'] := by
    cases column with
    | none => exact List.not_mem_nil
    | some c => simp [@notMem_toDigits '/' (by decide)]
  rw [remark, replace_literal_append hslash hhead, replace_cons hslash (by decide), remark]

/-- What stands for the path is put into the file and into the message, and nowhere else. -/
theorem replace_text (hslash : path.toList.head? = some '/') (hcolon : ':' ∉ path.toList)
    (d : Diagnostic) :
    replace (literal path.toList) sourceName d.text.toList = (d.shown path).text.toList := by
  have hfile := apart_literal hcolon d.file.toList
    (Nat.toDigits 10 d.line ++ ':' :: remark d.column d.message.toList)
  rw [toList_text, toList_text, replace_append hfile, replace_cons hslash (by decide),
    replace_literal_append hslash (notMem_toDigits (by decide) d.line), replace_cons hslash (by decide),
    replace_remark hslash]
  simp [shown]

theorem escape_notMem_text (hfile : Ansi.escape ∉ d.file.toList)
    (hmessage : Ansi.escape ∉ d.message.toList) : Ansi.escape ∉ d.text.toList := by
  have hdigits := @notMem_toDigits Ansi.escape (by decide)
  have hmark : Ansi.escape ≠ ':' ∧ Ansi.escape ≠ ' ' := by decide
  rw [toList_text]
  cases hcolumn : d.column <;> simp [remark, hdigits, hmark, hfile, hmessage]

theorem getLast?_text (hmessage : d.message.toList.getLast? ≠ some '\r') :
    d.text.toList.getLast? ≠ some '\r' := by
  rw [toList_text]
  cases hcolumn : d.column <;>
    cases hlast : d.message.toList <;> simp_all [remark, List.getLast?_cons]

theorem newline_notMem_text (hfile : '\n' ∉ d.file.toList) (hmessage : '\n' ∉ d.message.toList) :
    '\n' ∉ d.text.toList := by
  have hdigits := @notMem_toDigits '\n' (by decide)
  rw [toList_text]
  cases hcolumn : d.column <;> simp [remark, hdigits, hfile, hmessage]

theorem mark_prefix_text_iff (hcolon : ':' ∉ d.file.toList) :
    sourceName ++ [':'] <+: d.text.toList ↔ d.file.toList = sourceName := by
  rw [toList_text]
  constructor
  · rintro ⟨rest, hrest⟩
    -- Both texts are split at their first colon.
    have hsplit := congrArg (splitFirst ':') hrest
    rw [List.append_assoc, List.singleton_append, splitFirst_append_cons rest (by decide),
      splitFirst_append_cons _ hcolon, Option.some.injEq, Prod.mk.injEq] at hsplit
    exact hsplit.1.symm
  · intro h
    rw [h]
    exact ⟨_, List.append_assoc sourceName [':'] _⟩

/-- Only a file that is the source is shown as the source. -/
theorem file_shown_iff (hne : path ≠ "") (hmark : d.file.toList ≠ sourceName) :
    (d.shown path).file.toList = sourceName ↔ d.file = path := by
  have hpath : path.toList ≠ [] := by simpa using hne
  rw [shown, String.toList_ofList, ← String.toList_inj]
  exact replace_literal_eq_new_iff hpath (by decide) hmark

theorem colon_notMem_shown (hcolon : ':' ∉ d.file.toList) :
    ':' ∉ (d.shown path).file.toList := by
  rw [shown, String.toList_ofList]
  exact fun h => (mem_of_mem_replace h).elim (fun h => absurd h (by decide)) hcolon

theorem parse?_text (hfile : d.file.toList = sourceName) : Tag.parse? d.text.toList = d.tag? := by
  simp only [toList_text, hfile, Tag.parse?_line, ofAfter_remark, tag?]

/--
A message about a place is read as one line in which the path of the source is replaced. It has a
tag exactly if it is about the source itself and its line number fits a word; a column that does
not fit is left out.
-/
theorem parseOutput_diagnostic {path : String} {d : Diagnostic}
    (habsolute : path.toList.head? = some '/') (hcolon : ':' ∉ path.toList) (hfile : Bare d.file)
    (hmark : d.file.toList ≠ sourceName) (hnewline : '\n' ∉ d.message.toList)
    (hescape : Ansi.escape ∉ d.message.toList) (hreturn : d.message.toList.getLast? ≠ some '\r') :
    parseOutput d.text (some path) =
      [{ text := (d.shown path).text
         tag := if d.file = path then (d.shown path).tag? else none }] := by
  have hne : path ≠ "" := by
    rintro rfl
    cases habsolute
  have hline : lines d.text.toList = [d.text.toList] := by
    have hnil : d.text.toList ≠ [] := by simp [toList_text]
    rw [lines_of_no_newline (newline_notMem_text hfile.noNewline hnewline), if_neg hnil]
  have hshown : shownAs path.toList d.text.toList = (d.shown path).text.toList := by
    have hstrip := Ansi.strip_eq_self (escape_notMem_text hfile.noEscape hescape)
    rw [shownAs, trimReturns_eq_self (getLast?_text hreturn), hstrip,
      replace_text habsolute hcolon]
  have hinked : allBlank (d.shown path).text.toList = false :=
    allBlank_eq_false_of_mem (c := ':') (by decide) (by simp [toList_text])
  have htag : Tag.parse? (d.shown path).text.toList =
      if d.file = path then (d.shown path).tag? else none := by
    have hsource := file_shown_iff hne hmark
    split
    · next heq => exact parse?_text (hsource.2 heq)
    · next hother =>
      have hcolon : ':' ∉ (d.shown path).file.toList := colon_notMem_shown hfile.noColon
      exact Tag.parse?_of_other fun h => hother (hsource.1 ((mark_prefix_text_iff hcolon).1 h))
  have hread : Line.ofRaw? (some path) d.text.toList =
      some ⟨(d.shown path).text, if d.file = path then (d.shown path).tag? else none⟩ := by
    rw [Line.ofRaw?_eq hne, hshown, hinked, htag]
    simp
  rw [parseOutput, hline]
  simp [hread]

theorem parseOutput_sampleDiagnostic :
    let d : Diagnostic := ⟨"/a/a", 7, some 4294967296, " in /a/a/a"⟩
    Bare d.file ∧ d.text = "/a/a:7:4294967296:  in /a/a/a" ∧
    parseOutput d.text (some "/a/a") =
      [⟨"<source>:7:4294967296:  in <source>/a", some ⟨7, none, "in <source>/a"⟩⟩] := by
  intro d
  have hfile : Bare d.file := {}
  have hlines := @parseOutput_diagnostic "/a/a" d (by decide) (by decide) hfile (by decide)
    (by decide) (by decide) (by decide)
  refine ⟨hfile, by decide, ?_⟩
  rw [hlines]
  decide

end Diagnostic

end SpirvToolchain
