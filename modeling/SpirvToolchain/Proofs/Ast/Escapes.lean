import SpirvToolchain.Proofs.Ast.Address
import SpirvToolchain.Proofs.Ast.Block
import SpirvToolchain.Proofs.Compilation.Plain
import SpirvToolchain.Proofs.Text.Escapes

/-! Escape sequences that lines of output and of dumps still show. -/
namespace SpirvToolchain

open Text Text.Ansi

namespace Ast

variable {e s t : List Char}

theorem erase_address_escape (s t : List Char) :
    erase address (s ++ escape :: t) = erase address s ++ erase address (escape :: t) :=
  replace_append (apart_address (by decide) (by decide) s t)

/-- Addresses have blanks and sequences have none, so a sequence stays when addresses go. -/
theorem infix_erase_address (he : IsSequence e) (h : e <:+: s) : e <:+: erase address s := by
  obtain ⟨a, b, rfl⟩ := h
  have hblank : ' ' ∉ e := he.notMem (by decide) (by decide)
  obtain ⟨e', rfl, -⟩ := he.eq_cons
  refine ⟨erase address a, erase address b, ?_⟩
  rw [List.append_assoc, List.append_assoc, ← erase_address_append hblank, List.cons_append,
    ← erase_address_escape]

theorem infix_erase_address_of_parted (he : IsSequence e) (h : Parted address e s) :
    e <:+: erase address s := by
  obtain ⟨u, i, v, hu, ⟨hi, hmatch, hrest, rfl⟩, a, b, rfl⟩ := h
  have hblank : ' ' ∉ u ++ erase address v := he.notMem (by decide) (by decide)
  rw [List.mem_append, not_or] at hblank
  obtain ⟨c, u, rfl⟩ := List.exists_cons_of_ne_nil hu
  obtain ⟨rfl, -⟩ := he.of_cons
  have hend : i.length < (i ++ v).length := by
    have hv : v ≠ [] := by
      rintro rfl
      exact hrest rfl
    have hpos := List.length_pos_iff.2 hv
    rw [List.length_append]
    omega
  have hgap : address (i ++ (v ++ b)) = i.length := by
    have hne : address (i ++ v) ≠ 0 := by
      rw [hmatch]
      exact fun h => hi (List.length_eq_zero_iff.1 h)
    rw [← List.append_assoc, address_append hne (by rw [hmatch]; exact hend), hmatch]
  have hskip : erase address (i ++ (v ++ b)) = erase address (v ++ b) :=
    replace_match_append hi hgap
  obtain ⟨r, hr⟩ := prefix_erase_address hblank.2 b
  refine ⟨erase address a, r, ?_⟩
  symm
  calc erase address (a ++ (escape :: u ++ (i ++ v)) ++ b)
      = erase address (a ++ escape :: (u ++ (i ++ (v ++ b)))) := by simp
    _ = erase address a ++ erase address (escape :: u ++ (i ++ (v ++ b))) := erase_address_escape a _
    _ = erase address a ++ (escape :: u ++ erase address (v ++ b)) := by
      rw [erase_address_append hblank.1, hskip]
    _ = erase address a ++ (escape :: u ++ erase address v) ++ r := by simp [← hr]

theorem holdsSequence_erase_address_iff (s : List Char) :
    HoldsSequence (erase address s) ↔ HoldsSequence s ∨ Interrupted address s := by
  constructor
  · rintro ⟨e, he, hin⟩
    rcases local_address.infix_erase_cases he.ne_nil hin with ⟨a, b, rfl, -⟩ | hparted
    · exact .inl ⟨e, he, a, b, List.append_assoc a e b⟩
    · exact .inr ⟨e, he, hparted⟩
  · rintro (⟨e, he, hin⟩ | ⟨e, he, hparted⟩)
    · exact ⟨e, he, infix_erase_address he hin⟩
    · exact ⟨e, he, infix_erase_address_of_parted he hparted⟩

theorem holdsSequence_plain_iff (s : List Char) :
    HoldsSequence (plain s) ↔ Interrupted sequence s ∨ Interrupted address (strip s) := by
  rw [plain, holdsSequence_erase_address_iff, holdsSequence_strip_iff]

theorem exists_of_mem_filter {ls : List Line} {l : Line} (hl : l ∈ filter ls) :
    ∃ m ∈ ls, l = plainLine m := by
  rw [filter_eq] at hl
  have hkept := ((keptFrom_sublist {} _).map _).subset hl
  rw [← map_plainLine] at hkept
  obtain ⟨m, hm, rfl⟩ := List.mem_map.1 hkept
  exact ⟨m, hm, rfl⟩

end Ast

variable {raw : List Char} {input : Option String} {l : Line}

/-- A shown line holds a sequence only if the line that was printed was interrupted. -/
theorem Line.interrupted_of_ofRaw? (h : Line.ofRaw? input raw = some l)
    (hl : HoldsSequence l.text.toList) : Interrupted sequence raw := by
  obtain ⟨t, -, ht⟩ := exists_trimReturns_append raw
  have hstart : trimReturns raw <+: raw := ⟨t, ht⟩
  have hstrip (hin : HoldsSequence (strip (trimReturns raw))) : Interrupted sequence raw :=
    ((holdsSequence_strip_iff _).1 hin).mono hstart.isInfix
  rw [(Line.eq_of_ofRaw? h).1] at hl
  rcases shownIn_cases input raw with hshown | ⟨path, hshown⟩
  · rw [hshown] at hl
    exact hstrip hl
  · rw [hshown] at hl
    obtain ⟨e, he, hin⟩ := hl
    have hname : ¬ e <:+: "source".toList := by
      obtain ⟨e', rfl, -⟩ := he.eq_cons
      exact fun h => absurd (h.subset List.mem_cons_self) (by decide)
    obtain ⟨a, b, heq, -⟩ := exists_of_infix_replace (he.notMem (by decide) (by decide))
      (he.notMem (by decide) (by decide)) hname hin
    exact hstrip ⟨e, he, a, b, by rw [heq, List.append_assoc]⟩

/--
Stripping is one pass: what it leaves holds an escape sequence exactly if another stood inside it,
and then a second pass takes away more. A line of a report shows a sequence only where that is so,
and a line of a filtered dump only there or where an address stood inside a sequence.
-/
theorem strip_leaves_interrupted (s : List Char) (text : String) (input : Option String)
    (ls : List Line) :
    (HoldsSequence (strip s) ↔ Interrupted sequence s) ∧
    (strip (strip s) = strip s ↔ ¬ Interrupted sequence s) ∧
    (∀ l ∈ parseOutput text input,
      HoldsSequence l.text.toList → Interrupted sequence text.toList) ∧
    ∀ l ∈ Ast.filter ls, ∃ m ∈ ls, l = Ast.plainLine m ∧ (HoldsSequence l.text.toList ↔
      Interrupted sequence m.text.toList ∨ Interrupted Ast.address (strip m.text.toList)) := by
  refine ⟨holdsSequence_strip_iff s, ?_, fun l hl hholds => ?_, fun l hl => ?_⟩
  · rw [strip_eq_self_iff, holdsSequence_strip_iff]
  · obtain ⟨raw, hraw, h⟩ := List.mem_filterMap.1 hl
    exact (Line.interrupted_of_ofRaw? h hholds).mono (infix_of_mem_lines hraw)
  · obtain ⟨m, hm, rfl⟩ := Ast.exists_of_mem_filter hl
    refine ⟨m, hm, rfl, ?_⟩
    rw [Ast.plainLine, String.toList_ofList]
    exact Ast.holdsSequence_plain_iff _

theorem strip_leaves_nested :
    let left : Line := { text := "\x1b[m" }
    (left ∈ parseOutput "\x1b\x1b[m[m" none ∧ Interrupted sequence "\x1b\x1b[m[m".toList) ∧
    (left ∈ Ast.filter [{ text := "\x1b[ 0x1m" }] ∧ Interrupted Ast.address "\x1b[ 0x1m".toList) ∧
    ¬ Interrupted sequence "\x1b[1mred\x1b[0m".toList := by
  intro left
  have hleft : HoldsSequence left.text.toList :=
    ⟨"\x1b[m".toList, ⟨[], 'm', rfl, by simp, by decide⟩, List.infix_rfl⟩
  obtain ⟨-, hagain, hlines, hfilter⟩ := strip_leaves_interrupted "\x1b[ 0x1m".toList
    "\x1b\x1b[m[m" none [{ text := "\x1b[ 0x1m" }]
  obtain ⟨m, hm, -, hiff⟩ := hfilter left (by decide)
  obtain rfl := List.mem_singleton.1 hm
  refine ⟨⟨by decide, hlines left (by decide) hleft⟩, ⟨by decide, ?_⟩, ?_⟩
  · -- No sequence is whole in the line, so an address must stand in one.
    exact (hiff.1 hleft).resolve_left (hagain.1 (by decide))
  · exact (strip_leaves_interrupted _ "" none []).2.1.1 (by decide)

end SpirvToolchain
