import Mathlib.Data.List.Basic
import SpirvToolchain.Compilation
import SpirvToolchain.Proofs.Text.Runs
import SpirvToolchain.Proofs.Text.Search

/-! The tag of a line: read after the mark of the source, in the order in which it is written. -/
namespace SpirvToolchain

open Text

theorem run_toDigits (n : Nat) : Run isDigit (Nat.toDigits 10 n) := by
  refine ⟨Nat.toDigits_ne_nil, fun c hc => ?_⟩
  exact isDigit_of_ascii (Nat.isDigit_of_mem_toDigits (by decide) (by decide) hc)

theorem notMem_toDigits {c : Char} (hc : isDigit c = false) (n : Nat) : c ∉ Nat.toDigits 10 n :=
  fun h => by simp [(run_toDigits n).2 c h] at hc

/-- A number that a word of 32 bits can hold. -/
def fit32? (n : Nat) : Option Nat := if n < 0x100000000 then some n else none

/-- A number that is printed is read back, unless it is too large for a word. -/
theorem word32?_toDigits (n : Nat) : word32? (Nat.toDigits 10 n) = fit32? n := by
  have hvalue : digitsValue (Nat.toDigits 10 n) = n :=
    Nat.ofDigitChars_toDigits (by decide) (by decide)
  have hdigits : (Nat.toDigits 10 n).all Char.isDigit = true := by
    rw [List.all_eq_true]
    exact fun c hc => Nat.isDigit_of_mem_toDigits (by decide) (by decide) hc
  rw [word32?, hvalue]
  simp [fit32?, Nat.toDigits_ne_nil, hdigits]

namespace Tag

variable {s : List Char}

/-- The tag of a line, by what follows the line number and its colon. -/
def ofAfter (line : Nat) (after : List Char) : Tag :=
  match after.takeWhile isDigit, after.dropWhile isDigit with
  | c :: cs, ':' :: text => ⟨line, word32? (c :: cs), String.ofList (trimStart text)⟩
  | _, _ => ⟨line, none, String.ofList (trimStart after)⟩

theorem parse?_of_other (h : ¬ sourceName ++ [':'] <+: s) : parse? s = none := by
  simp [parse?, isPrefixOf?_eq_none h]

theorem parse?_mark (rest : List Char) :
    parse? (sourceName ++ ':' :: rest) =
      match rest.dropWhile isDigit with
      | ':' :: after => (word32? (rest.takeWhile isDigit)).map (ofAfter · after)
      | _ => none := by
  have hrest := isPrefixOf?_append (sourceName ++ [':']) rest
  rw [List.append_assoc, List.singleton_append] at hrest
  simp only [parse?, hrest, Option.bind_eq_bind, Option.bind_some]
  cases hdrop : rest.dropWhile isDigit with
  | nil => rfl
  | cons c after =>
    by_cases hc : c = ':'
    · subst hc
      cases word32? (rest.takeWhile isDigit) with
      | none => rfl
      | some line =>
        simp only [Option.bind_some, Option.map_some, ofAfter]
        split <;> simp_all
    · simp [hc]

/-- A text with a tag is the mark, digits and what the tag is read from. -/
theorem exists_of_parse? {tag : Tag} (h : parse? s = some tag) :
    ∃ digits line after, s = sourceName ++ ':' :: (digits ++ ':' :: after) ∧
      word32? digits = some line ∧ tag = ofAfter line after := by
  by_cases hmark : sourceName ++ [':'] <+: s
  · obtain ⟨rest, rfl⟩ := hmark
    rw [List.append_assoc, List.singleton_append, parse?_mark] at h
    split at h
    · next after hafter =>
      obtain ⟨line, hline, rfl⟩ := Option.map_eq_some_iff.1 h
      refine ⟨rest.takeWhile isDigit, line, after, ?_, hline, rfl⟩
      rw [← hafter, List.takeWhile_append_dropWhile, List.append_assoc, List.singleton_append]
    · cases h
  · rw [parse?_of_other hmark] at h
    cases h

theorem suffix_ofAfter (line : Nat) (after : List Char) :
    (ofAfter line after).text.toList <:+ after := by
  have htrim (t : List Char) : trimStart t <:+ t := List.dropWhile_suffix isBlank
  unfold ofAfter
  split
  · next c cs text _ hdrop =>
    have htext : text <:+ after := by
      have hcolon : ':' :: text <:+ after := hdrop ▸ List.dropWhile_suffix isDigit
      exact (List.suffix_cons ':' text).trans hcolon
    simpa using (htrim text).trans htext
  · simpa using htrim after

/-- What a tag says is the end of its line. -/
theorem suffix_of_parse? {tag : Tag} (h : parse? s = some tag) : tag.text.toList <:+ s := by
  obtain ⟨digits, line, after, rfl, -, rfl⟩ := exists_of_parse? h
  have hafter : after <:+ ':' :: after := List.suffix_cons ':' after
  exact ((((suffix_ofAfter line after).trans hafter).trans (List.suffix_append digits _)).trans
    (List.suffix_cons ':' _)).trans (List.suffix_append sourceName _)

/-- A run of digits after the mark, up to a colon, is what the line of the tag is read from. -/
theorem parse?_run {digits : List Char} (hdigits : Run isDigit digits) (after : List Char) :
    parse? (sourceName ++ ':' :: (digits ++ ':' :: after)) =
      (word32? digits).map (ofAfter · after) := by
  have hstops : Stops isDigit (':' :: after) := stops_cons (by decide) after
  rw [parse?_mark, dropWhile_all_append hdigits.2 hstops, takeWhile_all_append hdigits.2 hstops]
  rfl

/-- A number that is printed after the mark is the line of the tag. -/
theorem parse?_line (line : Nat) (after : List Char) :
    parse? (sourceName ++ ':' :: (Nat.toDigits 10 line ++ ':' :: after)) =
      (fit32? line).map (ofAfter · after) := by
  rw [parse?_run (run_toDigits line), word32?_toDigits]

/-- A run of digits that comes next, up to a colon, is what the column is read from. -/
theorem ofAfter_run {digits : List Char} (hdigits : Run isDigit digits) (line : Nat)
    (text : List Char) :
    ofAfter line (digits ++ ':' :: text) =
      ⟨line, word32? digits, String.ofList (trimStart text)⟩ := by
  have hstops : Stops isDigit (':' :: text) := stops_cons (by decide) text
  obtain ⟨c, cs, rfl⟩ := List.exists_cons_of_ne_nil hdigits.1
  rw [ofAfter, dropWhile_all_append hdigits.2 hstops, takeWhile_all_append hdigits.2 hstops]
  rfl

/-- A number that is printed next, up to a colon, is the column. -/
theorem ofAfter_column (line column : Nat) (text : List Char) :
    ofAfter line (Nat.toDigits 10 column ++ ':' :: text) =
      ⟨line, fit32? column, String.ofList (trimStart text)⟩ := by
  rw [ofAfter_run (run_toDigits column), word32?_toDigits]

theorem ofAfter_stops {after : List Char} (h : Stops isDigit after) (line : Nat) :
    ofAfter line after = ⟨line, none, String.ofList (trimStart after)⟩ := by
  have htake : after.takeWhile isDigit = [] := takeWhile_append_of_stops h []
  rw [ofAfter, htake]

end Tag

end SpirvToolchain
