import SpirvToolchain.Proofs.Compilation.Tag
import SpirvToolchain.Proofs.Text.Expression

/-!
The place that a line begins with, told in two ways: by an expression whose groups a tag is read
from, and by the grammar of the lines that have a tag. Both agree with the scan of a line.
-/
namespace SpirvToolchain

open Text

namespace Location

open Expression

variable {s t after digits : List Char} {tag : Tag}

/-- A number, kept in a group. -/
def number (name : Nat) : Expression := group name (followed (one isDigit) (many isDigit))

/-- A colon, white space, and what the line says. -/
def message : Expression :=
  followed (literal [':']) <| followed (many isBlank) <|
    followed (group 3 (many fun c => c != '\n')) finish

/-- A colon and the number of a column, or neither, and then the message. -/
def remark : Expression :=
  followed (.optional (followed (literal [':']) (number 2))) message

/-- The expression `^<source>:(\d+)(?::(\d+))?:\s*(.*)$`. -/
def expression : Expression :=
  followed (literal (sourceName ++ [':'])) (followed (number 1) remark)

/-- Without a line number there is no tag; a column without a value is left out. -/
def ofGroups? (groups : List (Nat × List Char)) : Option Tag := do
  let line ← (groups.lookup 1).bind word32?
  return ⟨line, (groups.lookup 2).bind word32?, String.ofList ((groups.lookup 3).getD [])⟩

/-- Begins with the number of a column and a colon. -/
def HasColumn (s : List Char) : Prop := ∃ digits t, Run isDigit digits ∧ s = digits ++ ':' :: t

theorem refuses_message : Refuses isDigit message := refuses_literal (by decide) [] _

theorem refuses_remark : Refuses isDigit remark :=
  .optional (.assoc (refuses_literal (by decide) [] _)) refuses_message

theorem groups?_colon (e : Expression) (t : List Char) :
    (followed (literal [':']) e).groups? (':' :: t) = e.groups? t := groups?_literal [':'] e t

theorem groups?_message (ht : '\n' ∉ t) :
    message.groups? (':' :: t) = some [(3, trimStart t)] := by
  have hrest : ∀ c ∈ trimStart t, (c != '\n') = true := by
    intro c hc
    have hmem : c ∈ t := (List.dropWhile_suffix isBlank).mem hc
    simpa using fun h : c = '\n' => ht (h ▸ hmem)
  rw [message, groups?_colon]
  exact groups?_many (groups?_rest hrest 3)

theorem groups?_message_of_other (hs : ¬ [':'] <+: s) : message.groups? s = none :=
  groups?_literal_of_other hs _

theorem groups?_remark_of_other (hs : ¬ [':'] <+: s) : remark.groups? s = none := by
  rw [remark, groups?_optional, groups?_assoc, groups?_literal_of_other hs,
    groups?_message_of_other hs]
  rfl

theorem not_hasColumn (h : ¬ HasColumn after) :
    after.takeWhile isDigit = [] ∨ ¬ [':'] <+: after.dropWhile isDigit := by
  by_contra hboth
  simp only [not_or, not_not] at hboth
  obtain ⟨hrun, text, htext⟩ := hboth
  refine h ⟨_, text, ⟨hrun, fun _ => List.mem_takeWhile_imp⟩, ?_⟩
  rw [← List.singleton_append, htext, List.takeWhile_append_dropWhile]

theorem ofAfter_of_not_hasColumn (h : ¬ HasColumn after) (line : Nat) :
    Tag.ofAfter line after = ⟨line, none, String.ofList (trimStart after)⟩ := by
  rw [Tag.ofAfter]
  split
  · next c cs text hrun htext =>
    rcases not_hasColumn h with hnone | hother
    · rw [hnone] at hrun
      cases hrun
    · exact absurd ⟨text, htext.symm⟩ hother
  · rfl

/-- The number of a column is looked for first. -/
theorem groups?_remark_column (hcolumn : Run isDigit digits) (ht : '\n' ∉ t) :
    remark.groups? (':' :: (digits ++ ':' :: t)) = some [(2, digits), (3, trimStart t)] := by
  have hstops : Stops isDigit (':' :: t) := stops_cons (by decide) t
  rw [remark, groups?_optional, groups?_assoc, groups?_colon, number, groups?_run refuses_message,
    takeWhile_all_append hcolumn.2 hstops, dropWhile_all_append hcolumn.2 hstops,
    if_neg hcolumn.1, groups?_message ht]
  rfl

/-- Without a column, the message begins after the line number. -/
theorem groups?_remark_of_not_hasColumn (hafter : '\n' ∉ after) (h : ¬ HasColumn after) :
    remark.groups? (':' :: after) = some [(3, trimStart after)] := by
  rw [remark, groups?_optional, groups?_assoc, groups?_colon, number, groups?_run refuses_message,
    groups?_message hafter]
  rcases not_hasColumn h with hnone | hother
  · rw [if_pos hnone]
    rfl
  · rw [groups?_message_of_other hother]
    simp

/-- A tag is read from the groups as it is from what follows the line number. -/
theorem ofGroups?_remark (hafter : '\n' ∉ after) (digits : List Char) :
    ((remark.groups? (':' :: after)).map ((1, digits) :: ·)).bind ofGroups? =
      (word32? digits).map (Tag.ofAfter · after) := by
  by_cases hcolumn : HasColumn after
  · obtain ⟨columns, text, hrun, rfl⟩ := hcolumn
    have htext : '\n' ∉ text := fun h => hafter (by simp [h])
    rw [groups?_remark_column hrun htext]
    cases hline : word32? digits <;> simp [ofGroups?, hline, List.lookup_cons, Tag.ofAfter_run hrun]
  · rw [groups?_remark_of_not_hasColumn hafter hcolumn]
    cases hline : word32? digits <;>
      simp [ofGroups?, hline, List.lookup_cons, ofAfter_of_not_hasColumn hcolumn]

/-- The scan of a line reads what the expression matches. -/
theorem parse?_eq (hs : '\n' ∉ s) :
    Tag.parse? s = (expression.groups? s).bind ofGroups? := by
  rw [expression]
  by_cases hmark : sourceName ++ [':'] <+: s
  · obtain ⟨rest, rfl⟩ := hmark
    rw [groups?_literal, List.append_assoc, List.singleton_append, Tag.parse?_mark, number,
      groups?_run refuses_remark]
    split
    · next after hafter =>
      have hlater : '\n' ∉ after := fun h =>
        hs (List.mem_append_right _
          ((List.dropWhile_suffix isDigit).mem (hafter ▸ List.mem_cons_of_mem _ h)))
      by_cases hnone : rest.takeWhile isDigit = []
      · rw [hnone]
        rfl
      · rw [if_neg hnone, hafter, ofGroups?_remark hlater]
    · next hother =>
      have hcolon : ¬ [':'] <+: rest.dropWhile isDigit :=
        fun ⟨after, hafter⟩ => hother after hafter.symm
      rw [groups?_remark_of_other hcolon]
      simp
  · rw [Tag.parse?_of_other hmark, groups?_literal_of_other hmark]
    rfl

/-- Digits that write a number of 32 bits; one of another script among them writes none. -/
def Writes (digits : List Char) (n : Nat) : Prop :=
  (∀ c ∈ digits, c.isDigit = true) ∧ Nat.ofDigitChars 10 digits 0 = n ∧ n < 0x100000000

/-- The grammar of the lines that have a tag, and what the tag of each is. -/
inductive Tagged : List Char → Tag → Prop
  | column {digits columns text : List Char} {line : Nat} {column : Option Nat}
      (hdigits : Run isDigit digits) (hline : Writes digits line) (hcolumns : Run isDigit columns)
      (hcolumn : ∀ n, column = some n ↔ Writes columns n) :
      Tagged (sourceName ++ ':' :: (digits ++ ':' :: (columns ++ ':' :: text)))
        ⟨line, column, String.ofList (text.dropWhile isBlank)⟩
  | plain {digits rest : List Char} {line : Nat}
      (hdigits : Run isDigit digits) (hline : Writes digits line) (hrest : ¬ HasColumn rest) :
      Tagged (sourceName ++ ':' :: (digits ++ ':' :: rest))
        ⟨line, none, String.ofList (rest.dropWhile isBlank)⟩

theorem word32?_eq_some_iff (hdigits : digits ≠ []) (n : Nat) :
    word32? digits = some n ↔ Writes digits n := by
  simp only [word32?, Option.ite_none_right_eq_some, Option.some.injEq]
  constructor
  · rintro ⟨⟨-, hascii, hvalue⟩, rfl⟩
    exact ⟨List.all_eq_true.1 hascii, rfl, hvalue⟩
  · rintro ⟨hascii, rfl, hvalue⟩
    exact ⟨⟨hdigits, List.all_eq_true.2 hascii, hvalue⟩, rfl⟩

theorem tagged_of_parse? (h : Tag.parse? s = some tag) : Tagged s tag := by
  obtain ⟨digits, line, after, rfl, hvalue, rfl⟩ := Tag.exists_of_parse? h
  have hne : digits ≠ [] := by
    rintro rfl
    cases hvalue
  have hline := (word32?_eq_some_iff hne line).1 hvalue
  have hdigits : Run isDigit digits := ⟨hne, fun c hc => isDigit_of_ascii (hline.1 c hc)⟩
  by_cases hcolumn : HasColumn after
  · obtain ⟨columns, text, hcolumns, rfl⟩ := hcolumn
    rw [Tag.ofAfter_run hcolumns]
    exact .column hdigits hline hcolumns (word32?_eq_some_iff hcolumns.1)
  · rw [ofAfter_of_not_hasColumn hcolumn]
    exact .plain hdigits hline hcolumn

theorem parse?_of_tagged (h : Tagged s tag) : Tag.parse? s = some tag := by
  cases h with
  | @column digits columns text line column hdigits hline hcolumns hcolumn =>
    have hcolumn : word32? columns = column := by
      ext n
      rw [word32?_eq_some_iff hcolumns.1, hcolumn]
    rw [Tag.parse?_run hdigits, (word32?_eq_some_iff hdigits.1 line).2 hline, Option.map_some,
      Tag.ofAfter_run hcolumns, hcolumn]
    rfl
  | @plain digits rest line hdigits hline hrest =>
    rw [Tag.parse?_run hdigits, (word32?_eq_some_iff hdigits.1 line).2 hline, Option.map_some,
      ofAfter_of_not_hasColumn hrest]
    rfl

theorem isSome_parse?_iff :
    (Tag.parse? s).isSome ↔ ∃ digits rest line, s = sourceName ++ ':' :: (digits ++ ':' :: rest) ∧
      Run isDigit digits ∧ Writes digits line := by
  constructor
  · intro h
    obtain ⟨tag, htag⟩ := Option.isSome_iff_exists.1 h
    cases tagged_of_parse? htag with
    | column hdigits hline => exact ⟨_, _, _, rfl, hdigits, hline⟩
    | plain hdigits hline => exact ⟨_, _, _, rfl, hdigits, hline⟩
  · rintro ⟨digits, rest, line, rfl, hdigits, hline⟩
    rw [Tag.parse?_run hdigits, (word32?_eq_some_iff hdigits.1 line).2 hline]
    rfl

end Location

open Location

/--
The tag of a line is read from the groups of the expression, and it is the one of the grammar. A
line has a tag exactly if it begins with the mark of the source, a colon, digits that write a
number of 32 bits, and a colon.
-/
theorem Tag.parse?_locates {s : List Char} (hs : '\n' ∉ s) :
    Tag.parse? s = (expression.groups? s).bind ofGroups? ∧
    (∀ tag, Tag.parse? s = some tag ↔ Tagged s tag) ∧
    ((Tag.parse? s).isSome ↔ ∃ digits rest line, s = sourceName ++ ':' :: (digits ++ ':' :: rest) ∧
      Run isDigit digits ∧ Writes digits line) :=
  ⟨parse?_eq hs, fun _ => ⟨tagged_of_parse?, parse?_of_tagged⟩, isSome_parse?_iff⟩

/-- A line number with idle zeros, and a column in digits of another script. -/
theorem Tag.parse?_locates_foreign :
    let s := sourceName ++ ":007:\u0663:\t x:1: y".toList
    '\n' ∉ s ∧ Tag.parse? s = some ⟨7, none, "x:1: y"⟩ := by
  intro s
  have hs : '\n' ∉ s := by decide
  have hcolumn (n : Nat) : none = some n ↔ Writes ['\u0663'] n := by
    simp [Writes, Char.isDigit]
  have hline : Writes ['0', '0', '7'] 7 := ⟨List.all_eq_true.1 (by decide), by decide, by decide⟩
  have htagged : Tagged s ⟨7, none, "x:1: y"⟩ :=
    @Tagged.column ['0', '0', '7'] ['\u0663'] "\t x:1: y".toList 7 none (by decide) hline
      (by decide) hcolumn
  exact ⟨hs, ((Tag.parse?_locates hs).2.1 _).2 htagged⟩

end SpirvToolchain
