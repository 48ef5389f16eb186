import Mathlib.Data.List.Basic
import SpirvToolchain.Text.Search

/-! Replacing in two texts put together: each is replaced on its own, unless a match joins them. -/
namespace SpirvToolchain.Text

variable {pattern : Pattern} {new s t p : List Char} {c : Char}

/-- A text is read as a replacement reads it: past one character, or past a match. -/
theorem scan_induction {P : List Char → Prop} (pattern : Pattern) (nil : P [])
    (keep : ∀ c s, pattern (c :: s) = 0 → P s → P (c :: s))
    (skip : ∀ c s n, pattern (c :: s) = n + 1 → P (s.drop n) → P (c :: s)) (s : List Char) :
    P s := by
  match s with
  | [] => exact nil
  | c :: s =>
    cases hn : pattern (c :: s) with
    | zero => exact keep c s hn (scan_induction pattern nil keep skip s)
    | succ n => exact skip c s n hn (scan_induction pattern nil keep skip (s.drop n))
termination_by s.length
decreasing_by all_goals simp only [List.length_cons, List.length_drop]; omega

/-- Whatever `s` ends in matches the same when `t` follows it. -/
def Apart (pattern : Pattern) (s t : List Char) : Prop :=
  ∀ v, v ≠ [] → v <:+ s → pattern (v ++ t) = pattern v ∧ pattern v ≤ v.length

theorem Apart.of_suffix {s' : List Char} (h : Apart pattern s t) (hs : s' <:+ s) :
    Apart pattern s' t :=
  fun v hne hv => h v hne (hv.trans hs)

theorem replace_append (h : Apart pattern s t) :
    replace pattern new (s ++ t) = replace pattern new s ++ replace pattern new t := by
  induction s using scan_induction pattern with
  | nil => rfl
  | keep c s hn ih =>
    obtain ⟨hmatch, -⟩ := h (c :: s) (List.cons_ne_nil c s) (List.suffix_refl _)
    rw [List.cons_append] at hmatch ⊢
    rw [replace_cons_of_no_match (hmatch.trans hn), replace_cons_of_no_match hn,
      ih (h.of_suffix (List.suffix_cons c s)), List.cons_append]
  | skip c s n hn ih =>
    obtain ⟨hmatch, hlength⟩ := h (c :: s) (List.cons_ne_nil c s) (List.suffix_refl _)
    have hle : n ≤ s.length := by
      rw [hn, List.length_cons] at hlength
      omega
    have hrest : s.drop n <:+ c :: s := (List.drop_suffix n s).trans (List.suffix_cons c s)
    rw [List.cons_append] at hmatch ⊢
    rw [replace_cons_of_match (hmatch.trans hn), replace_cons_of_match hn,
      List.drop_append_of_le_length hle, ih (h.of_suffix hrest), List.append_assoc]

theorem replace_match_append (hs : s ≠ []) (h : pattern (s ++ t) = s.length) :
    replace pattern new (s ++ t) = new ++ replace pattern new t := by
  obtain ⟨c, s, rfl⟩ := List.exists_cons_of_ne_nil hs
  rw [List.length_cons, List.cons_append] at h
  rw [List.cons_append, replace_cons_of_match h, List.drop_left]

/-- A text in which nothing starts a match stays as it is, whatever follows it. -/
theorem replace_append_of_no_match (h : ∀ v, v ≠ [] → v <:+ s → pattern (v ++ t) = 0) :
    replace pattern new (s ++ t) = s ++ replace pattern new t := by
  induction s with
  | nil => rfl
  | cons c s ih =>
    have hmatch : pattern (c :: (s ++ t)) = 0 := h (c :: s) (List.cons_ne_nil c s) (List.suffix_refl _)
    have hrest := ih fun v hne hv => h v hne (hv.trans (List.suffix_cons c s))
    rw [List.cons_append, replace_cons_of_no_match hmatch, hrest, List.cons_append]

/-- So does a text whose characters start no match. -/
theorem replace_append_of_mem (h : ∀ c ∈ s, ∀ v, pattern (c :: v) = 0) :
    replace pattern new (s ++ t) = s ++ replace pattern new t := by
  refine replace_append_of_no_match fun v hne hv => ?_
  obtain ⟨c, v, rfl⟩ := List.exists_cons_of_ne_nil hne
  exact h c (hv.subset List.mem_cons_self) _

theorem replace_eq_self (h : ∀ v, v ≠ [] → v <:+ s → pattern v = 0) :
    replace pattern new s = s := by
  have hself : replace pattern new (s ++ []) = s ++ replace pattern new [] :=
    replace_append_of_no_match (by simpa using h)
  simpa using hself

theorem replace_eq_nil_iff (hnew : new ≠ []) : replace pattern new s = [] ↔ s = [] := by
  refine ⟨fun h => ?_, fun h => by rw [h, replace_nil]⟩
  cases s with
  | nil => rfl
  | cons c s =>
    cases hn : pattern (c :: s) with
    | zero => simp [replace_cons_of_no_match hn] at h
    | succ n => simp [replace_cons_of_match hn, hnew] at h

/-- A replaced text ends as it did, or as what was put in. -/
theorem getLast?_replace (hnew : new ≠ []) (s : List Char) :
    (replace pattern new s).getLast? = s.getLast? ∨
      (replace pattern new s).getLast? = new.getLast? := by
  induction s using scan_induction pattern with
  | nil => exact .inl rfl
  | keep c s hn ih =>
    rw [replace_cons_of_no_match hn]
    by_cases hs : s = []
    · subst hs
      exact .inl rfl
    · have hne : replace pattern new s ≠ [] := fun h => hs ((replace_eq_nil_iff hnew).1 h)
      rw [List.getLast?_cons_of_ne_nil hne, List.getLast?_cons_of_ne_nil hs]
      exact ih
  | skip c s n hn ih =>
    rw [replace_cons_of_match hn]
    by_cases hs : s.drop n = []
    · rw [hs, replace_nil, List.append_nil]
      exact .inr rfl
    · have hne : replace pattern new (s.drop n) ≠ [] := fun h => hs ((replace_eq_nil_iff hnew).1 h)
      have hlast (a : List Char) {b : List Char} (hb : b ≠ []) :
          (a ++ b).getLast? = b.getLast? := by
        rw [List.getLast?_append, List.getLast?_eq_some_getLast hb]
        rfl
      obtain ⟨a, ha⟩ := (List.drop_suffix n s).trans (List.suffix_cons c s)
      rw [hlast new hne, ← ha, hlast a hs]
      exact ih

theorem mem_of_mem_replaceFrom {k : Nat} (h : c ∈ replaceFrom pattern new k s) :
    c ∈ new ∨ c ∈ s := by
  induction s generalizing k with
  | nil => simp [replaceFrom] at h
  | cons d s ih =>
    cases k with
    | succ k => exact (ih h).imp_right (List.mem_cons_of_mem d)
    | zero =>
      rw [replaceFrom] at h
      split at h
      · rcases List.mem_cons.1 h with rfl | h
        · exact .inr List.mem_cons_self
        · exact (ih h).imp_right (List.mem_cons_of_mem d)
      · rcases List.mem_append.1 h with h | h
        · exact .inl h
        · exact (ih h).imp_right (List.mem_cons_of_mem d)

/-- Nothing comes into a text but what is put for a match. -/
theorem mem_of_mem_replace (h : c ∈ replace pattern new s) : c ∈ new ∨ c ∈ s :=
  mem_of_mem_replaceFrom h

theorem mem_of_mem_erase (h : c ∈ erase pattern s) : c ∈ s :=
  (mem_of_mem_replace h).resolve_left List.not_mem_nil

theorem literal_eq_zero (h : ¬ p <+: s) : literal p s = 0 := by
  rw [literal, if_neg (by simpa using h)]

theorem literal_eq_length (h : p <+: s) : literal p s = p.length := by
  rw [literal, if_pos (by simpa using h)]

theorem literal_cons_eq_zero {d : Char} (hp : p.head? = some d) (hc : c ≠ d) (s : List Char) :
    literal p (c :: s) = 0 := by
  obtain ⟨p, rfl⟩ := List.head?_eq_some_iff.1 hp
  exact literal_eq_zero fun h => hc (List.cons_prefix_cons.1 h).1.symm

/-- A piece of text is not looked for in one without its first character. -/
theorem replace_literal_append {d : Char} (hp : p.head? = some d) (hs : d ∉ s) (t : List Char) :
    replace (literal p) new (s ++ t) = s ++ replace (literal p) new t :=
  replace_append_of_mem fun _ hc => literal_cons_eq_zero hp (ne_of_mem_of_not_mem hc hs)

/-- A piece of text that does not occur is replaced nowhere. -/
theorem replace_literal_of_absent (h : ¬ p <:+: s) : replace (literal p) new s = s :=
  replace_eq_self fun _ _ hv => literal_eq_zero fun hp => h (hp.isInfix.trans hv.isInfix)

theorem prefix_append_cons_iff (hc : c ∉ p) : p <+: s ++ c :: t ↔ p <+: s := by
  refine ⟨fun h => ?_, fun h => h.trans (List.prefix_append s _)⟩
  rcases List.prefix_or_prefix_of_prefix h (List.prefix_append s (c :: t)) with hp | hs
  · exact hp
  · obtain ⟨r, rfl⟩ := hs
    cases r with
    | nil => simp
    | cons d r =>
      rw [List.prefix_append_right_inj, List.cons_prefix_cons] at h
      simp [h.1] at hc

theorem infix_append_cons_iff (hc : c ∉ p) : p <:+: s ++ c :: t ↔ p <:+: s ∨ p <:+: t := by
  refine ⟨fun h => ?_, fun h => ?_⟩
  · have hnil {q : List Char} (hq : c ∉ q) (h : q <+: c :: t) : q = [] := by
      have hstart : q <+: [] := (prefix_append_cons_iff (s := []) hq).1 h
      exact List.prefix_nil.1 hstart
    rcases List.infix_append_iff.1 h with h | h | ⟨a, b, rfl, ha, hb⟩
    · exact .inl h
    · rcases List.infix_cons_iff.1 h with h | h
      · rw [hnil hc h]
        exact .inl List.nil_infix
      · exact .inr h
    · rw [hnil (fun h => hc (List.mem_append_right a h)) hb, List.append_nil]
      exact .inl ha.isInfix
  · rcases h with h | h
    · exact h.trans (List.prefix_append s (c :: t)).isInfix
    · exact h.trans ((List.suffix_cons c t).trans (List.suffix_append s _)).isInfix

/-- A text starts with one thing or another, unless one of them starts with the other. -/
theorem not_prefix_of_other {q : List Char} (h : p <+: s) (hp : ¬ p <+: q) (hq : ¬ q <+: p) :
    ¬ q <+: s :=
  fun hs => (List.prefix_or_prefix_of_prefix h hs).elim hp hq

theorem isPrefixOf?_append (p t : List Char) : p.isPrefixOf? (p ++ t) = some t :=
  List.isPrefixOf?_eq_some_iff_append_eq.2 rfl

theorem isPrefixOf?_eq_none (h : ¬ p <+: s) : p.isPrefixOf? s = none := by
  rw [Option.eq_none_iff_forall_not_mem]
  intro rest hrest
  rw [Option.mem_def, List.isPrefixOf?_eq_some_iff_append_eq] at hrest
  exact h ⟨rest, hrest⟩

/-- What a text starts with does not change when something else follows it. -/
theorem isPrefixOf_append_of_head (ht : ∀ c ∈ t.head?, c ∉ p) (s : List Char) :
    p.isPrefixOf (s ++ t) = p.isPrefixOf s := by
  cases t with
  | nil => rw [List.append_nil]
  | cons c t =>
    rw [Bool.eq_iff_iff, List.isPrefixOf_iff_prefix, List.isPrefixOf_iff_prefix,
      prefix_append_cons_iff (ht c rfl)]

theorem occursIn_append_of_head (ht : ∀ c ∈ t.head?, c ∉ p) (hnone : occursIn p t = false)
    (s : List Char) : occursIn p (s ++ t) = occursIn p s := by
  induction s with
  | nil =>
    have hp : p ≠ [] := by
      rintro rfl
      cases t <;> simp [occursIn] at hnone
    have hnil : occursIn p [] = false := by simp [occursIn, hp]
    rw [List.nil_append, hnone, hnil]
  | cons c s ih =>
    have hstart := isPrefixOf_append_of_head ht (c :: s)
    rw [List.cons_append] at hstart ⊢
    rw [occursIn, occursIn, hstart, ih]

theorem occursIn_cons_of_notMem {p : List Char} (hc : c ∉ t) : occursIn (c :: p) t = false := by
  induction t with
  | nil => rfl
  | cons d t ih =>
    simp only [List.mem_cons, not_or] at hc
    simp [occursIn, List.isPrefixOf, hc.1, ih hc.2]

theorem occursIn_iff : occursIn p s = true ↔ p <:+: s := by
  induction s with
  | nil => rw [occursIn, List.isEmpty_iff, List.infix_nil]
  | cons c s ih =>
    rw [occursIn, Bool.or_eq_true, ih, List.isPrefixOf_iff_prefix, List.infix_cons_iff]

/-- No occurrence of a piece of text goes over a character that is not in it. -/
theorem apart_literal (hc : c ∉ p) (s t : List Char) : Apart (literal p) s (c :: t) := by
  intro v _ _
  by_cases hp : p <+: v
  · rw [literal_eq_length hp, literal_eq_length ((prefix_append_cons_iff hc).2 hp)]
    exact ⟨rfl, hp.length_le⟩
  · rw [literal_eq_zero hp, literal_eq_zero fun h => hp ((prefix_append_cons_iff hc).1 h)]
    exact ⟨rfl, Nat.zero_le _⟩

/-- What a replaced text starts with was there before, up to the first match. -/
theorem exists_of_prefix_replace {first : Char} {w : List Char} (hfirst : first ∉ w)
    (h : w <+: replace pattern (first :: new) s) :
    ∃ b, s = w ++ b ∧ ∀ v, v ≠ [] → v <:+ w → pattern (v ++ b) = 0 := by
  induction w generalizing s with
  | nil => exact ⟨s, rfl, fun v hne hv => absurd (List.suffix_nil.1 hv) hne⟩
  | cons d w ih =>
    rw [List.mem_cons, not_or] at hfirst
    cases s with
    | nil => simp at h
    | cons c s =>
      cases hn : pattern (c :: s) with
      | succ n =>
        rw [replace_cons_of_match hn, List.cons_append, List.cons_prefix_cons] at h
        exact absurd h.1.symm hfirst.1
      | zero =>
        rw [replace_cons_of_no_match hn, List.cons_prefix_cons] at h
        obtain ⟨rfl, h⟩ := h
        obtain ⟨b, rfl, hb⟩ := ih hfirst.2 h
        refine ⟨b, rfl, fun v hne hv => ?_⟩
        rcases List.suffix_cons_iff.1 hv with rfl | hv
        · exact hn
        · exact hb v hne hv

/-- A text without the start of the replacement has had no match. -/
theorem eq_of_replace_eq {first : Char} {w : List Char} (hfirst : first ∉ w)
    (h : replace pattern (first :: new) s = w) : s = w := by
  have hstart : w <+: replace pattern (first :: new) s := h ▸ List.prefix_refl w
  obtain ⟨b, rfl, hb⟩ := exists_of_prefix_replace hfirst hstart
  rw [replace_append_of_no_match hb, List.append_right_eq_self,
    replace_eq_nil_iff (List.cons_ne_nil first new)] at h
  rw [h, List.append_nil]

/-- Only the piece itself becomes the replacement alone. -/
theorem replace_literal_eq_new_iff {first : Char} (hp : p ≠ []) (hfirst : first ∉ new)
    (hs : s ≠ first :: new) : replace (literal p) (first :: new) s = first :: new ↔ s = p := by
  have hwhole (t : List Char) : literal p (p ++ t) = p.length :=
    literal_eq_length (List.prefix_append p t)
  constructor
  · intro h
    by_cases hstart : p <+: s
    · obtain ⟨t, rfl⟩ := hstart
      rw [replace_match_append hp (hwhole t), List.append_right_eq_self,
        replace_eq_nil_iff (List.cons_ne_nil first new)] at h
      rw [h, List.append_nil]
    · cases s with
      | nil => cases h
      | cons c s =>
        rw [replace_cons_of_no_match (literal_eq_zero hstart), List.cons.injEq] at h
        obtain ⟨rfl, h⟩ := h
        exact absurd (congrArg (c :: ·) (eq_of_replace_eq hfirst h)) hs
  · rintro rfl
    have happend : replace (literal s) (first :: new) (s ++ []) = first :: new ++ [] :=
      replace_match_append hp (hwhole [])
    rwa [List.append_nil, List.append_nil] at happend

/-- What is found in a replaced text, and is not of the replacement, was there before. -/
theorem exists_of_infix_replace {first last : Char} {w : List Char} (hfirst : first ∉ w)
    (hlast : last ∉ w) (hnew : ¬ w <:+: new)
    (h : w <:+: replace pattern (first :: (new ++ [last])) s) :
    ∃ a b, s = a ++ (w ++ b) ∧ ∀ v, v ≠ [] → v <:+ w → pattern (v ++ b) = 0 := by
  induction s using scan_induction pattern with
  | nil =>
    rw [replace_nil, List.infix_nil] at h
    exact absurd (h ▸ List.nil_infix) hnew
  | keep c s hn ih =>
    have hkeep := h
    rw [replace_cons_of_no_match hn, List.infix_cons_iff, ← replace_cons_of_no_match hn] at hkeep
    rcases hkeep with hkeep | hkeep
    · obtain ⟨b, hb⟩ := exists_of_prefix_replace hfirst hkeep
      exact ⟨[], b, hb⟩
    · obtain ⟨a, b, rfl, hb⟩ := ih hkeep
      exact ⟨c :: a, b, rfl, hb⟩
  | skip c s n hn ih =>
    have hskip : w <:+: [] ++ first ::
        (new ++ last :: replace pattern (first :: (new ++ [last])) (s.drop n)) := by
      simpa [replace_cons_of_match hn] using h
    rw [infix_append_cons_iff hfirst, infix_append_cons_iff hlast] at hskip
    rcases hskip with hskip | hskip | hskip
    · rw [List.infix_nil] at hskip
      exact absurd (hskip ▸ List.nil_infix) hnew
    · exact absurd hskip hnew
    · obtain ⟨a, b, hs, hb⟩ := ih hskip
      refine ⟨c :: (s.take n ++ a), b, ?_, hb⟩
      rw [List.cons_append, List.append_assoc, ← hs, List.take_append_drop]

theorem not_infix_replace_literal {first last : Char} (hfirst : first ∉ p) (hlast : last ∉ p)
    (hnew : ¬ p <:+: new) (s : List Char) :
    ¬ p <:+: replace (literal p) (first :: (new ++ [last])) s := by
  intro h
  obtain ⟨a, b, -, hb⟩ := exists_of_infix_replace hfirst hlast hnew h
  have hp : p ≠ [] := fun hp => hnew (hp ▸ List.nil_infix)
  have hmatch := hb p hp (List.suffix_refl p)
  rw [literal_eq_length (List.prefix_append p b)] at hmatch
  exact hp (List.length_eq_zero_iff.1 hmatch)

end SpirvToolchain.Text
