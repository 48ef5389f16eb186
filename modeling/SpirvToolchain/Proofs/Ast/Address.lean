import SpirvToolchain.Dump.Ast
import SpirvToolchain.Proofs.Text.Erase
import SpirvToolchain.Proofs.Text.Runs

/-! Where an address is found in a line, and where it ends. -/
namespace SpirvToolchain.Ast

open Text

variable {c : Char} {s t v : List Char}

/-- What an address starts with. -/
def addressMark : List Char := [' ', '0', 'x']

theorem address_eq_zero (hs : ¬ addressMark <+: s) : address s = 0 := by
  unfold address
  split
  · simp [addressMark] at hs
  · rfl

theorem address_mark_append (s : List Char) :
    address (addressMark ++ s) =
      if s.takeWhile address.isHexDigit = [] then 0
      else (s.takeWhile address.isHexDigit).length + 3 := by
  simp only [addressMark, List.cons_append, List.nil_append, address]
  split
  · next h => rw [if_pos h]
  · next h => rw [if_neg h]

theorem address_cons (hc : c ≠ ' ') (s : List Char) : address (c :: s) = 0 := by
  refine address_eq_zero fun h => ?_
  exact hc (List.cons_prefix_cons.1 h).1.symm

/-- An address that ends before the text does is the same when more follows. -/
theorem address_append (hpos : address s ≠ 0) (hend : address s < s.length) (t : List Char) :
    address (s ++ t) = address s := by
  by_cases hmark : addressMark <+: s
  · obtain ⟨w, rfl⟩ := hmark
    rw [address_mark_append] at hpos hend
    have hshort : (w.takeWhile address.isHexDigit).length ≠ w.length := by
      split at hend
      · next h => simp [h] at hpos
      · intro h
        rw [h, Nat.add_comm, List.length_append] at hend
        exact Nat.lt_irrefl _ hend
    rw [List.append_assoc, address_mark_append, address_mark_append, List.takeWhile_append,
      if_neg hshort]
  · exact absurd (address_eq_zero hmark) hpos

theorem local_address : Local address where
  within s := by
    by_cases hmark : addressMark <+: s
    · obtain ⟨w, rfl⟩ := hmark
      have hlength := (List.takeWhile_prefix address.isHexDigit (l := w)).length_le
      rw [address_mark_append, List.length_append]
      split
      · exact Nat.zero_le _
      · have : addressMark.length = 3 := rfl
        omega
    · rw [address_eq_zero hmark]
      exact Nat.zero_le _
  cut s t hfits := by
    by_cases hmark : addressMark <+: s
    · obtain ⟨w, rfl⟩ := hmark
      rw [List.append_assoc, address_mark_append, List.takeWhile_append] at hfits
      rw [List.append_assoc, address_mark_append, address_mark_append, List.takeWhile_append]
      split at hfits
      · next hw =>
        have hall := (List.takeWhile_prefix address.isHexDigit (l := w)).eq_of_length hw
        have hnone : t.takeWhile address.isHexDigit = [] := by
          split at hfits
          · next h => exact (List.append_eq_nil_iff.1 h).2
          · rw [List.length_append, List.length_append] at hfits
            have : addressMark.length = 3 := rfl
            exact List.length_eq_zero_iff.1 (by omega)
        rw [if_pos hw, hnone, List.append_nil, hall]
      · next hw => rw [if_neg hw]
    · rw [address_eq_zero hmark]
      by_contra hne
      obtain ⟨w, hw⟩ : addressMark <+: s ++ t := by
        by_contra h
        exact hne (address_eq_zero h).symm
      rw [← hw, address_mark_append] at hne hfits
      have hlength : addressMark.length ≤ s.length := by
        split at hfits
        · next h => simp [h] at hne
        · exact Nat.le_trans (Nat.le_add_left 3 _) hfits
      exact hmark (List.prefix_of_prefix_length_le ⟨w, hw⟩ (List.prefix_append s t) hlength)

/-- No address goes over a character that is not in one. -/
theorem apart_address (hmark : c ∉ addressMark) (hdigit : address.isHexDigit c = false)
    (s t : List Char) : Apart address s (c :: t) := by
  refine local_address.apart fun v _ _ => ?_
  by_cases hv : addressMark <+: v
  · obtain ⟨w, rfl⟩ := hv
    have htake := takeWhile_append_of_stops (stops_cons hdigit t) w
    rw [List.append_assoc, address_mark_append, htake, ← address_mark_append]
    exact local_address.within _
  · rw [address_eq_zero fun h => hv ((prefix_append_cons_iff hmark).1 h)]
    exact Nat.zero_le _

theorem marked_address : Marked address ' ' where
  start _ s hc := address_cons hc s
  stays _ t hpos hend := address_append hpos hend t

theorem erase_address_append (hs : ' ' ∉ s) (t : List Char) :
    erase address (s ++ t) = s ++ erase address t :=
  marked_address.erase_append hs t

/-- What addresses leave without a blank is left, however the text goes on. -/
theorem prefix_erase_address (hv : ' ' ∉ erase address v) (t : List Char) :
    erase address v <+: erase address (v ++ t) :=
  marked_address.prefix_erase hv t

end SpirvToolchain.Ast
