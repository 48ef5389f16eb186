import Mathlib.Data.List.Infix
import SpirvToolchain.Dump.Ir
import SpirvToolchain.Proofs.Text.Runs
import SpirvToolchain.Proofs.Text.Search

/-! What can stand at the end of a line without a say in whether the line stays. -/
namespace SpirvToolchain.Ir

open Text

variable {t : List Char}

/-- Neither goes on what a filter looks for in the line before it, nor starts such a thing itself. -/
structure Mute (t : List Char) : Prop where
  head : ∀ c ∈ t.head?, isDefinedNameChar c = false ∧ isDigit c = false ∧ c ∉ [' ', '#', '@']
  first : ∀ c ∈ (trimStart t).head?, c ∉ ['!', '=', ';', '#']
  noCall : '@' ∉ t

namespace Mute

theorem stops_name (ht : Mute t) : Stops isDefinedNameChar t := fun c hc => (ht.head c hc).1

theorem stops_digit (ht : Mute t) : Stops isDigit t := fun c hc => (ht.head c hc).2.1

/-- None of the texts that the filters look for goes on into `t`. -/
theorem head_notMem (ht : Mute t) {p : List Char}
    (hp : (p.all fun c => isDefinedNameChar c || [' ', '#', '@'].contains c) = true) :
    ∀ c ∈ t.head?, c ∉ p := by
  intro c hc hmem
  obtain ⟨hname, -, hmark⟩ := ht.head c hc
  have hkind := List.all_eq_true.1 hp c hmem
  rw [hname, Bool.false_or, List.contains_iff_mem] at hkind
  exact hmark hkind

theorem head?_trimStart_append (ht : Mute t) {c : Char} (hc : c ∈ ['!', '=', ';', '#'])
    (s : List Char) : ((trimStart (s ++ t)).head? == some c) = ((trimStart s).head? == some c) := by
  rw [trimStart_append_eq_ite]
  cases hs : trimStart s with
  | nil =>
    have hne : (trimStart t).head? ≠ some c := fun h => ht.first c h hc
    simpa using hne
  | cons d s => rfl

/-- Returns at the end of a line are mute. -/
theorem of_returns (ht : ∀ c ∈ t, c = '\r') : Mute t where
  head := by
    intro c hc
    rw [ht c (List.mem_of_mem_head? hc)]
    decide
  first := by
    intro c hc
    have hblank := stops_dropWhile isBlank t c hc
    have hreturn := ht c ((List.dropWhile_suffix isBlank).subset (List.mem_of_mem_head? hc))
    rw [hreturn] at hblank
    exact absurd hblank (by decide)
  noCall := fun h => absurd (ht '@' h) (by decide)

end Mute

theorem isMetadataDefinition_append (ht : Mute t) (s : List Char) :
    isMetadataDefinition (s ++ t) = isMetadataDefinition s := by
  unfold isMetadataDefinition
  rw [trimStart_append_eq_ite]
  cases hs : trimStart s with
  | nil =>
    rw [List.isEmpty_nil, if_pos rfl]
    split
    · next c rest h => exact absurd (by simp) (ht.first '!' (by rw [h]; rfl))
    · rfl
  | cons d r =>
    by_cases hd : d = '!'
    · subst hd
      cases r with
      | nil =>
        cases t with
        | nil => rfl
        | cons c t => simp [ht.stops_name c rfl]
      | cons c r =>
        have hhead := ht.head?_trimStart_append (c := '=') (by simp) (r.dropWhile isDefinedNameChar)
        simp [dropWhile_append_of_stops ht.stops_name, hhead]
    · simp [hd]

theorem isAttributeGroup_iff {s : List Char} :
    isAttributeGroup s = true ↔
      ∃ rest, "attributes #".toList ++ rest = s ∧ rest.head?.any isDigit = true := by
  unfold isAttributeGroup
  cases h : "attributes #".toList.isPrefixOf? s with
  | none =>
    have hne : ∀ rest, "attributes #".toList ++ rest ≠ s := fun rest hs => by
      rw [List.isPrefixOf?_eq_some_iff_append_eq.2 hs] at h
      cases h
    simpa using fun rest hs => absurd hs (hne rest)
  | some rest =>
    obtain rfl := List.isPrefixOf?_eq_some_iff_append_eq.1 h
    simp

theorem isAttributeGroup_append (ht : Mute t) (s : List Char) :
    isAttributeGroup (s ++ t) = isAttributeGroup s := by
  rw [Bool.eq_iff_iff, isAttributeGroup_iff, isAttributeGroup_iff]
  constructor
  · rintro ⟨rest, hrest, hdigit⟩
    have hpre : "attributes #".toList <+: s := by
      have hmute := ht.head_notMem (p := "attributes #".toList) (by decide)
      have hstart := isPrefixOf_append_of_head hmute s
      rw [Bool.eq_iff_iff, List.isPrefixOf_iff_prefix, List.isPrefixOf_iff_prefix] at hstart
      exact hstart.1 ⟨rest, hrest⟩
    obtain ⟨r, rfl⟩ := hpre
    obtain rfl : rest = r ++ t := by simpa using hrest
    refine ⟨r, rfl, ?_⟩
    cases r with
    | nil =>
      cases t with
      | nil => exact hdigit
      | cons c t => simp [ht.stops_digit c rfl] at hdigit
    | cons c r => exact hdigit
  · rintro ⟨rest, rfl, hdigit⟩
    refine ⟨rest ++ t, by rw [List.append_assoc], ?_⟩
    cases rest with
    | nil => simp at hdigit
    | cons c rest => exact hdigit

theorem isDirective_append (ht : Mute t) (s : List Char) :
    isDirective (s ++ t) = isDirective s := by
  rw [isDirective, isDirective, isMetadataDefinition_append ht, isAttributeGroup_append ht]

theorem isDebugCall_append (ht : Mute t) (s : List Char) :
    isDebugCall (s ++ t) = isDebugCall s := by
  have hcall := ht.head_notMem (p := "@llvm.dbg.".toList) (by decide)
  have hrecord := ht.head_notMem (p := "#dbg_".toList) (by decide)
  have hnone : occursIn "@llvm.dbg.".toList t = false := occursIn_cons_of_notMem ht.noCall
  rw [isDebugCall, isDebugCall, trimStart_append_eq_ite]
  cases hs : trimStart s with
  | nil =>
    have hcalls : occursIn "@llvm.dbg.".toList (trimStart t) = false :=
      occursIn_cons_of_notMem fun h => ht.noCall ((List.dropWhile_suffix isBlank).subset h)
    have hrecords : "#dbg_".toList.isPrefixOf (trimStart t) = false := by
      cases hfirst : trimStart t with
      | nil => rfl
      | cons d r =>
        have hd : d ≠ '#' := by
          rintro rfl
          exact ht.first '#' (by rw [hfirst]; rfl) (by simp)
        simp [List.isPrefixOf, hd.symm]
    rw [List.isEmpty_nil, if_pos rfl, hcalls, hrecords]
    rfl
  | cons c s =>
    have hinked : (c :: s).isEmpty = false := rfl
    rw [hinked, if_neg Bool.false_ne_true, occursIn_append_of_head hcall hnone,
      isPrefixOf_append_of_head hrecord]

theorem isComment_append (ht : Mute t) (s : List Char) : isComment (s ++ t) = isComment s :=
  ht.head?_trimStart_append (by simp) s

theorem keeps_append (ht : Mute t) (f : Filters) (s : List Char) :
    keeps f (s ++ t) = keeps f s := by
  rw [keeps, keeps, isDirective_append ht, isDebugCall_append ht, isComment_append ht]

end SpirvToolchain.Ir
