import SpirvToolchain.Proofs.Text.Search

/-! What a text holds once matches are erased: it was there before, or a match stood in it. -/
namespace SpirvToolchain.Text

variable {pattern : Pattern} {s t x v : List Char}

/-- A match lies in the text and is told by itself: it stays when the text is cut after it. -/
structure Local (pattern : Pattern) : Prop where
  within : ∀ s, pattern s ≤ s.length
  cut : ∀ s t, pattern (s ++ t) ≤ s.length → pattern s = pattern (s ++ t)

/-- `x` is what is left of `u ++ (i ++ v)`, where `i` is a match. -/
structure Joins (pattern : Pattern) (x u i v : List Char) : Prop where
  gap : i ≠ []
  matches_gap : pattern (i ++ v) = i.length
  rest : erase pattern v ≠ []
  eq : x = u ++ erase pattern v

/-- Only with a match in it does `x` stand in `s`. -/
def Parted (pattern : Pattern) (x s : List Char) : Prop :=
  ∃ u i v, u ≠ [] ∧ Joins pattern x u i v ∧ u ++ (i ++ v) <:+: s

/-- With a match between its parts, or before them, `x` starts `s`. -/
def OpensParted (pattern : Pattern) (x s : List Char) : Prop :=
  ∃ u i v, Joins pattern x u i v ∧ u ++ (i ++ v) <+: s

theorem Parted.mono (h : Parted pattern x s) (hs : s <:+: t) : Parted pattern x t := by
  obtain ⟨u, i, v, hu, hjoins, hin⟩ := h
  exact ⟨u, i, v, hu, hjoins, hin.trans hs⟩

theorem length_erase_le (pattern : Pattern) (s : List Char) :
    (erase pattern s).length ≤ s.length := by
  rw [erase]
  induction s using scan_induction pattern with
  | nil => exact Nat.le_refl _
  | keep c s hn ih =>
    rw [replace_cons_of_no_match hn]
    exact Nat.succ_le_succ ih
  | skip c s n hn ih =>
    rw [replace_cons_of_match hn, List.nil_append]
    rw [List.length_drop] at ih
    rw [List.length_cons]
    omega

namespace Local

theorem apart (hlocal : Local pattern)
    (h : ∀ v, v ≠ [] → v <:+ s → pattern (v ++ t) ≤ v.length) : Apart pattern s t :=
  fun v hne hv => ⟨(hlocal.cut v t (h v hne hv)).symm, hlocal.within v⟩

/-- A match that starts a text is some of its characters, and the text can be cut after them. -/
theorem match_take_append {c : Char} {n : Nat} {b : List Char} (hlocal : Local pattern)
    (hn : pattern (c :: s) = n + 1) (hs : s.drop n = v ++ b) :
    c :: s = c :: s.take n ++ v ++ b ∧ (c :: s.take n).length = n + 1 ∧
      pattern (c :: s.take n ++ v) = n + 1 := by
  have hlength : (c :: s.take n).length = n + 1 := by
    have hle := hlocal.within (c :: s)
    rw [hn, List.length_cons] at hle
    rw [List.length_cons, List.length_take]
    omega
  have heq : c :: s = c :: s.take n ++ v ++ b := by
    rw [List.append_assoc, ← hs, List.cons_append, List.take_append_drop]
  refine ⟨heq, hlength, ?_⟩
  rw [← hn, heq]
  refine hlocal.cut _ _ ?_
  rw [← heq, hn, List.length_append, hlength]
  exact Nat.le_add_right _ _

/-- What an erased text starts with is left of the start of the text. -/
theorem exists_of_prefix_erase (hlocal : Local pattern) (h : x <+: erase pattern s) :
    ∃ v b, s = v ++ b ∧ erase pattern v = x := by
  rw [erase] at h
  induction s using scan_induction pattern generalizing x with
  | nil => exact ⟨[], [], rfl, (List.prefix_nil.1 h).symm⟩
  | keep c s hn ih =>
    rw [replace_cons_of_no_match hn] at h
    cases x with
    | nil => exact ⟨[], c :: s, rfl, rfl⟩
    | cons d x =>
      obtain ⟨rfl, hrest⟩ := List.cons_prefix_cons.1 h
      obtain ⟨v, b, rfl, hv⟩ := ih hrest
      have hcut : pattern (d :: v) = 0 :=
        (hlocal.cut (d :: v) b (Nat.le_trans (Nat.le_of_eq hn) (Nat.zero_le _))).trans hn
      exact ⟨d :: v, b, rfl, (replace_cons_of_no_match hcut).trans (congrArg _ hv)⟩
  | skip c s n hn ih =>
    rw [replace_cons_of_match hn, List.nil_append] at h
    obtain ⟨v, b, hs, hv⟩ := ih h
    obtain ⟨heq, hlength, hmatch⟩ := hlocal.match_take_append hn hs
    refine ⟨c :: s.take n ++ v, b, heq, ?_⟩
    rw [erase, replace_match_append (List.cons_ne_nil _ _) (hmatch.trans hlength.symm)]
    exact hv

theorem prefix_erase_cases (hlocal : Local pattern) (h : x <+: erase pattern s) :
    x <+: s ∨ ∃ u i v, Joins pattern x u i v ∧ u ++ (i ++ v) <+: s := by
  rw [erase] at h
  induction x generalizing s with
  | nil => exact .inl List.nil_prefix
  | cons d x ih =>
    cases s with
    | nil => simp at h
    | cons c s =>
      cases hn : pattern (c :: s) with
      | zero =>
        rw [replace_cons_of_no_match hn] at h
        obtain ⟨rfl, htail⟩ := List.cons_prefix_cons.1 h
        rcases ih htail with hs | ⟨u, i, v, ⟨hi, hmatch, hrest, rfl⟩, hs⟩
        · exact .inl (List.cons_prefix_cons.2 ⟨rfl, hs⟩)
        · exact .inr ⟨d :: u, i, v, ⟨hi, hmatch, hrest, rfl⟩, List.cons_prefix_cons.2 ⟨rfl, hs⟩⟩
      | succ n =>
        rw [replace_cons_of_match hn, List.nil_append] at h
        obtain ⟨v, b, hs, hv⟩ := hlocal.exists_of_prefix_erase h
        obtain ⟨heq, hlength, hmatch⟩ := hlocal.match_take_append hn hs
        refine .inr ⟨[], c :: s.take n, v, ⟨List.cons_ne_nil _ _, ?_, ?_, hv.symm⟩, b, heq.symm⟩
        · rw [hmatch, hlength]
        · rw [hv]
          exact List.cons_ne_nil d x

/-- What an erased text holds stood in it as it is, or with a match in it. -/
theorem infix_erase_cases (hlocal : Local pattern) (hx : x ≠ []) (h : x <:+: erase pattern s) :
    (∃ a b, s = a ++ (x ++ b) ∧ pattern (x ++ b) = 0) ∨ Parted pattern x s := by
  rw [erase] at h
  induction s using scan_induction pattern with
  | nil => exact absurd (List.infix_nil.1 h) hx
  | keep c s hn ih =>
    rw [replace_cons_of_no_match hn, List.infix_cons_iff] at h
    rcases h with h | h
    · obtain ⟨d, x, rfl⟩ := List.exists_cons_of_ne_nil hx
      obtain ⟨rfl, htail⟩ := List.cons_prefix_cons.1 h
      rcases hlocal.prefix_erase_cases htail with ⟨b, rfl⟩ | ⟨u, i, v, ⟨hi, hmatch, hrest, rfl⟩, hs⟩
      · exact .inl ⟨[], b, rfl, hn⟩
      · exact .inr ⟨d :: u, i, v, List.cons_ne_nil d u, ⟨hi, hmatch, hrest, rfl⟩,
          (List.cons_prefix_cons.2 ⟨rfl, hs⟩).isInfix⟩
    · rcases ih h with ⟨a, b, rfl, hb⟩ | hparted
      · exact .inl ⟨c :: a, b, rfl, hb⟩
      · exact .inr (hparted.mono (List.suffix_cons c s).isInfix)
  | skip c s n hn ih =>
    rw [replace_cons_of_match hn, List.nil_append] at h
    have hsuffix : s.drop n <:+ c :: s := (List.drop_suffix n s).trans (List.suffix_cons c s)
    rcases ih h with ⟨a, b, hs, hb⟩ | hparted
    · obtain ⟨p, hp⟩ := hsuffix
      refine .inl ⟨p ++ a, b, ?_, hb⟩
      rw [List.append_assoc, ← hs, hp]
    · exact .inr (hparted.mono hsuffix.isInfix)

end Local

/-- A match starts with one character, and is over where something else follows it. -/
structure Marked (pattern : Pattern) (mark : Char) : Prop where
  start : ∀ c s, c ≠ mark → pattern (c :: s) = 0
  stays : ∀ s t, pattern s ≠ 0 → pattern s < s.length → pattern (s ++ t) = pattern s

namespace Marked

variable {mark c : Char} {b i u : List Char}

theorem erase_append (hmark : Marked pattern mark) (hs : mark ∉ s) (t : List Char) :
    erase pattern (s ++ t) = s ++ erase pattern t :=
  replace_append_of_mem fun c hc v => hmark.start c v (ne_of_mem_of_not_mem hc hs)

theorem erase_eq_self (hmark : Marked pattern mark) (hs : mark ∉ s) : erase pattern s = s := by
  have hself := hmark.erase_append hs []
  have hnil : erase pattern [] = [] := rfl
  rwa [hnil, List.append_nil] at hself

/-- What matches leave without a mark is left, however the text goes on. -/
theorem prefix_erase (hmark : Marked pattern mark) (hv : mark ∉ erase pattern v) (t : List Char) :
    erase pattern v <+: erase pattern (v ++ t) := by
  rw [erase, erase]
  rw [erase] at hv
  induction v using scan_induction pattern with
  | nil => exact List.nil_prefix
  | keep c v hn ih =>
    rw [replace_cons_of_no_match hn, List.mem_cons, not_or] at hv
    rw [replace_cons_of_no_match hn, List.cons_append,
      replace_cons_of_no_match (hmark.start c _ (Ne.symm hv.1))]
    exact List.cons_prefix_cons.2 ⟨rfl, ih hv.2⟩
  | skip c v n hn ih =>
    rw [replace_cons_of_match hn, List.nil_append] at hv ⊢
    by_cases hend : n < v.length
    · have hmatch : pattern (c :: (v ++ t)) = n + 1 := by
        rw [← hn]
        exact hmark.stays (c :: v) t (by rw [hn]; exact Nat.succ_ne_zero n)
          (by rw [hn]; exact Nat.succ_lt_succ hend)
      rw [List.cons_append, replace_cons_of_match hmatch, List.nil_append,
        List.drop_append_of_le_length (Nat.le_of_lt hend)]
      exact ih hv
    · rw [List.drop_eq_nil_of_le (Nat.le_of_not_lt hend)]
      exact List.nil_prefix

/-- The match between the parts goes, whatever follows them. -/
theorem erase_gap (hmark : Marked pattern mark) (hjoins : Joins pattern x u i v) (b : List Char) :
    erase pattern (i ++ (v ++ b)) = erase pattern (v ++ b) := by
  have hv : v ≠ [] := by
    rintro rfl
    exact hjoins.rest rfl
  have hpos : pattern (i ++ v) ≠ 0 := by
    rw [hjoins.matches_gap]
    exact fun h => hjoins.gap (List.length_eq_zero_iff.1 h)
  have hend : pattern (i ++ v) < (i ++ v).length := by
    have := List.length_pos_iff.2 hv
    rw [hjoins.matches_gap, List.length_append]
    omega
  have hgap : pattern (i ++ (v ++ b)) = i.length := by
    rw [← List.append_assoc, hmark.stays _ b hpos hend, hjoins.matches_gap]
  exact replace_match_append hjoins.gap hgap

theorem prefix_erase_iff (hmark : Marked pattern mark) (hlocal : Local pattern) (hx : mark ∉ x) :
    x <+: erase pattern s ↔ x <+: s ∨ OpensParted pattern x s := by
  refine ⟨hlocal.prefix_erase_cases, ?_⟩
  rintro (⟨t, rfl⟩ | ⟨u, i, v, hjoins, b, rfl⟩)
  · rw [hmark.erase_append hx]
    exact List.prefix_append x _
  · obtain ⟨hu, hv⟩ : mark ∉ u ∧ mark ∉ erase pattern v := by
      rw [hjoins.eq, List.mem_append, not_or] at hx
      exact hx
    rw [hjoins.eq, List.append_assoc, List.append_assoc, hmark.erase_append hu,
      hmark.erase_gap hjoins]
    exact (List.prefix_append_right_inj u).2 (hmark.prefix_erase hv b)

/-- A text that no match goes into is left, if none starts with it. -/
theorem infix_erase (hmark : Marked pattern mark) (hapart : ∀ s t, Apart pattern s (c :: t))
    (hx : mark ∉ x) (hzero : pattern (c :: (x ++ b)) = 0) (a : List Char) :
    c :: x <:+: erase pattern (a ++ c :: (x ++ b)) := by
  refine ⟨erase pattern a, erase pattern b, ?_⟩
  have hcut : erase pattern (a ++ c :: (x ++ b)) =
      erase pattern a ++ erase pattern (c :: (x ++ b)) := replace_append (hapart a (x ++ b))
  have hkeep : erase pattern (c :: (x ++ b)) = c :: erase pattern (x ++ b) :=
    replace_cons_of_no_match hzero
  rw [hcut, hkeep, hmark.erase_append hx, List.append_assoc, List.cons_append]

/-- So is a text that a match stands in, if none starts with its first part. -/
theorem infix_erase_of_parted (hmark : Marked pattern mark)
    (hapart : ∀ s t, Apart pattern s (c :: t)) (hx : mark ∉ x)
    (hzero : ∀ u i v b, Joins pattern (c :: x) (c :: u) i v → pattern (c :: (u ++ (i ++ b))) = 0)
    (h : Parted pattern (c :: x) s) : c :: x <:+: erase pattern s := by
  obtain ⟨u, i, v, hu, hjoins, a, b, rfl⟩ := h
  obtain ⟨d, u, rfl⟩ := List.exists_cons_of_ne_nil hu
  have heq := hjoins.eq
  rw [List.cons_append, List.cons.injEq] at heq
  obtain ⟨rfl, hrest⟩ := heq
  obtain ⟨hu, hv⟩ : mark ∉ u ∧ mark ∉ erase pattern v := by
    rw [hrest, List.mem_append, not_or] at hx
    exact hx
  have hsplit : a ++ (c :: u ++ (i ++ v)) ++ b = a ++ c :: (u ++ (i ++ (v ++ b))) := by simp
  have hcut : erase pattern (a ++ c :: (u ++ (i ++ (v ++ b)))) =
      erase pattern a ++ erase pattern (c :: (u ++ (i ++ (v ++ b)))) := replace_append (hapart a _)
  have hkeep : erase pattern (c :: (u ++ (i ++ (v ++ b)))) =
      c :: erase pattern (u ++ (i ++ (v ++ b))) :=
    replace_cons_of_no_match (hzero u i v (v ++ b) hjoins)
  obtain ⟨r, hr⟩ := hmark.prefix_erase hv b
  refine ⟨erase pattern a, r, ?_⟩
  rw [hsplit, hcut, hkeep, hmark.erase_append hu, hmark.erase_gap hjoins, ← hr, hrest]
  simp

end Marked

end SpirvToolchain.Text
