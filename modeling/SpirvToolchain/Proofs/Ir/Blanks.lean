import Mathlib.Data.List.DropRight
import SpirvToolchain.Dump.Ir

/-! Blank lines of a dump: which of them go does not depend on lines dropped before or after. -/
namespace SpirvToolchain.Ir

open Text

variable {ls t : List (List Char)} {s : List Char} {trim previous previous' : Bool}

/-- Blank lines put in order: none at the start and the end, and between lines one or none. -/
def tidy (trim : Bool) (ls : List (List Char)) : List (List Char) :=
  dropBlankEnd (dropBlanks trim true ls)

/-- The lines with something to read in them. -/
def inked (ls : List (List Char)) : List (List Char) := ls.filter (!allBlank ·)

theorem dropBlankEnd_eq (ls : List (List Char)) : dropBlankEnd ls = ls.rdropWhile allBlank := rfl

theorem dropBlankEnd_append (ht : ∀ s ∈ t, allBlank s = true) (ls : List (List Char)) :
    dropBlankEnd (ls ++ t) = dropBlankEnd ls := by
  rw [dropBlankEnd, List.reverse_append, List.dropWhile_append_of_pos]
  · rfl
  · simpa using ht

theorem exists_dropBlankEnd_append (ls : List (List Char)) :
    ∃ t, (∀ s ∈ t, allBlank s = true) ∧ dropBlankEnd ls ++ t = ls := by
  induction ls using List.reverseRecOn with
  | nil => exact ⟨[], by simp, rfl⟩
  | append_singleton ls s ih =>
    cases hs : allBlank s with
    | false =>
      have hself : dropBlankEnd (ls ++ [s]) = ls ++ [s] :=
        List.rdropWhile_concat_neg _ _ _ (by simp [hs])
      exact ⟨[], by simp, by rw [hself, List.append_nil]⟩
    | true =>
      obtain ⟨t, ht, heq⟩ := ih
      have hone : ∀ r ∈ [s], allBlank r = true := by simpa using hs
      refine ⟨t ++ [s], List.forall_mem_append.2 ⟨ht, hone⟩, ?_⟩
      rw [dropBlankEnd_append hone, ← List.append_assoc, heq]

theorem dropBlankEnd_of_inked (h : ∀ s ∈ ls, allBlank s = false) : dropBlankEnd ls = ls := by
  rw [dropBlankEnd_eq, List.rdropWhile_eq_self_iff]
  intro hne
  simpa using h _ (List.getLast_mem hne)

theorem dropBlanks_cons_of_inked (hs : allBlank s = false) (ls : List (List Char)) :
    dropBlanks trim previous (s :: ls) = s :: dropBlanks trim false ls := by
  simp [dropBlanks, hs]

theorem dropBlanks_cons_of_blank (hs : allBlank s = true) (h : (trim || previous) = true)
    (ls : List (List Char)) : dropBlanks trim previous (s :: ls) = dropBlanks trim previous ls := by
  rw [dropBlanks, if_pos hs, if_pos h]

/-- The first of some blank lines stays, where nothing is trimmed. -/
theorem dropBlanks_cons_of_first (hs : allBlank s = true) (h : ¬ (trim || previous) = true)
    (ls : List (List Char)) :
    dropBlanks trim previous (s :: ls) = s :: dropBlanks trim true ls := by
  rw [dropBlanks, if_pos hs, if_neg h]

theorem sublist_dropBlanks (trim previous : Bool) (ls : List (List Char)) :
    (dropBlanks trim previous ls).Sublist ls := by
  fun_induction dropBlanks trim previous ls with
  | case1 => exact .slnil
  | case2 previous s ls hs h ih => exact ih.cons s
  | case3 previous s ls hs h ih => exact ih.cons_cons s
  | case4 previous s ls hs ih => exact ih.cons_cons s

theorem exists_tidy_append (trim : Bool) (ls : List (List Char)) :
    ∃ t, (∀ s ∈ t, allBlank s = true) ∧ tidy trim ls ++ t = dropBlanks trim true ls :=
  exists_dropBlankEnd_append _

theorem sublist_tidy (trim : Bool) (ls : List (List Char)) : (tidy trim ls).Sublist ls := by
  obtain ⟨t, -, heq⟩ := exists_tidy_append trim ls
  have hstart : (tidy trim ls).Sublist (dropBlanks trim true ls) := by
    rw [← heq]
    exact List.sublist_append_left _ t
  exact hstart.trans (sublist_dropBlanks trim true ls)

/-- The last line that stays is not blank. -/
theorem getLast?_tidy (trim : Bool) (ls : List (List Char)) :
    ∀ s ∈ (tidy trim ls).getLast?, allBlank s = false := by
  intro s hs
  obtain ⟨hne, rfl⟩ := List.mem_getLast?_eq_getLast hs
  exact Bool.eq_false_iff.2 (List.rdropWhile_last_not allBlank (dropBlanks trim true ls) hne)

theorem dropBlanks_append (ht : ∀ s ∈ t, allBlank s = true) (trim previous : Bool)
    (ls : List (List Char)) :
    ∃ t', (∀ s ∈ t', allBlank s = true) ∧
      dropBlanks trim previous (ls ++ t) = dropBlanks trim previous ls ++ t' := by
  fun_induction dropBlanks trim previous ls with
  | case1 previous =>
    exact ⟨_, fun s hs => ht s ((sublist_dropBlanks trim previous t).subset hs), rfl⟩
  | case2 previous s ls hs h ih =>
    rw [List.cons_append, dropBlanks_cons_of_blank hs h]
    exact ih
  | case3 previous s ls hs h ih =>
    obtain ⟨t', ht', heq⟩ := ih
    refine ⟨t', ht', ?_⟩
    rw [List.cons_append, dropBlanks_cons_of_first hs h, heq, List.cons_append]
  | case4 previous s ls hs ih =>
    obtain ⟨t', ht', heq⟩ := ih
    refine ⟨t', ht', ?_⟩
    rw [List.cons_append, dropBlanks_cons_of_inked (by simpa using hs), heq, List.cons_append]

theorem tidy_append (ht : ∀ s ∈ t, allBlank s = true) (trim : Bool) (ls : List (List Char)) :
    tidy trim (ls ++ t) = tidy trim ls := by
  obtain ⟨t', ht', heq⟩ := dropBlanks_append ht trim true ls
  rw [tidy, heq, dropBlankEnd_append ht', tidy]

theorem dropBlanks_of_inked (h : ∀ s ∈ ls, allBlank s = false) :
    dropBlanks trim previous ls = ls := by
  induction ls generalizing previous with
  | nil => rfl
  | cons s ls ih =>
    obtain ⟨hs, hls⟩ := List.forall_mem_cons.1 h
    rw [dropBlanks_cons_of_inked hs, ih hls]

theorem tidy_of_inked (h : ∀ s ∈ ls, allBlank s = false) : tidy trim ls = ls := by
  rw [tidy, dropBlanks_of_inked h, dropBlankEnd_of_inked h]

theorem inked_dropBlanks (trim previous : Bool) (ls : List (List Char)) :
    inked (dropBlanks trim previous ls) = inked ls := by
  fun_induction dropBlanks trim previous ls with
  | case1 => rfl
  | case2 previous s ls hs h ih => simpa [inked, hs] using ih
  | case3 previous s ls hs h ih => simpa [inked, hs] using ih
  | case4 previous s ls hs ih => simpa [inked, hs] using ih

theorem inked_tidy (trim : Bool) (ls : List (List Char)) : inked (tidy trim ls) = inked ls := by
  obtain ⟨t, ht, heq⟩ := exists_tidy_append trim ls
  have hnone : inked t = [] := by simpa [inked] using ht
  calc inked (tidy trim ls)
      = inked (tidy trim ls) ++ inked t := by rw [hnone, List.append_nil]
    _ = inked (tidy trim ls ++ t) := by rw [inked, inked, inked, List.filter_append]
    _ = inked ls := by rw [heq, inked_dropBlanks]

theorem dropBlanks_true (previous : Bool) (ls : List (List Char)) :
    dropBlanks true previous ls = inked ls := by
  induction ls generalizing previous with
  | nil => rfl
  | cons s ls ih =>
    cases hs : allBlank s with
    | false =>
      rw [dropBlanks_cons_of_inked hs, ih, inked, inked, List.filter_cons_of_pos (by simp [hs])]
    | true =>
      rw [dropBlanks_cons_of_blank hs rfl, ih, inked, inked, List.filter_cons_of_neg (by simp [hs])]

/-- When trimming, no blank line stays at all. -/
theorem tidy_true (ls : List (List Char)) : tidy true ls = inked ls := by
  rw [tidy, dropBlanks_true, dropBlankEnd_of_inked (by simp [inked])]

/-- Lines dropped in between change only which blank lines meet. -/
theorem dropBlanks_filter_dropBlanks {p : List Char → Bool}
    (hp : ∀ s, allBlank s = true → p s = true) (hprevious : previous' = true → previous = true)
    (ls : List (List Char)) :
    dropBlanks false previous ((dropBlanks false previous' ls).filter p) =
      dropBlanks false previous (ls.filter p) := by
  induction ls generalizing previous previous' with
  | nil => rfl
  | cons s ls ih =>
    cases hs : allBlank s with
    | false =>
      rw [dropBlanks_cons_of_inked hs]
      cases hps : p s with
      | false => simpa [hps] using ih (by simp)
      | true => simpa [hps, dropBlanks_cons_of_inked hs] using ih (by simp)
    | true =>
      have hps := hp s hs
      cases previous' with
      | true =>
        obtain rfl := hprevious rfl
        rw [dropBlanks_cons_of_blank hs rfl, List.filter_cons_of_pos hps,
          dropBlanks_cons_of_blank hs rfl, ih id]
      | false =>
        rw [dropBlanks_cons_of_first hs (by decide), List.filter_cons_of_pos hps,
          List.filter_cons_of_pos hps]
        cases previous with
        | true =>
          rw [dropBlanks_cons_of_blank hs rfl, dropBlanks_cons_of_blank hs rfl, ih id]
        | false =>
          rw [dropBlanks_cons_of_first hs (by decide), dropBlanks_cons_of_first hs (by decide),
            ih id]

theorem tidy_filter_tidy {p : List Char → Bool} (hp : ∀ s, allBlank s = true → p s = true)
    (ls : List (List Char)) : tidy false ((tidy false ls).filter p) = tidy false (ls.filter p) := by
  obtain ⟨t, ht, heq⟩ := exists_tidy_append false ls
  have hend : ∀ s ∈ t.filter p, allBlank s = true := fun s hs => ht s (List.mem_of_mem_filter hs)
  calc tidy false ((tidy false ls).filter p)
      = tidy false ((tidy false ls).filter p ++ t.filter p) := (tidy_append hend false _).symm
    _ = tidy false ((dropBlanks false true ls).filter p) := by rw [← List.filter_append, heq]
    _ = tidy false (ls.filter p) := by rw [tidy, dropBlanks_filter_dropBlanks hp id, tidy]

end SpirvToolchain.Ir
