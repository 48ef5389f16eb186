import Mathlib.Data.List.Basic
import Mathlib.Data.List.Induction
import SpirvToolchain.Proofs.Ir.Squash
import SpirvToolchain.Proofs.Text.Runs

/-! What trimming does inside a line: each run of white space becomes one space. -/
namespace SpirvToolchain.Ir

open Text

variable {a b s t x y : List Char} {c d : Char}

/-- Each run of white space as one space. -/
def collapse : List Char → List Char
  | [] => []
  | c :: cs =>
    if isBlank c then if cs.head?.any isBlank then collapse cs else ' ' :: collapse cs
    else c :: collapse cs

theorem collapse_cons_of_inked (hc : isBlank c = false) (s : List Char) :
    collapse (c :: s) = c :: collapse s := by
  simp [collapse, hc]

theorem collapse_cons_of_blank (hc : isBlank c = true) (s : List Char) :
    collapse (c :: s) = if s.head?.any isBlank then collapse s else ' ' :: collapse s := by
  simp [collapse, hc]

theorem collapse_append_cons (hc : isBlank c = false) (s t : List Char) :
    collapse (s ++ c :: t) = collapse s ++ c :: collapse t := by
  induction s with
  | nil => exact collapse_cons_of_inked hc t
  | cons d s ih =>
    rw [List.cons_append]
    cases hd : isBlank d with
    | false => rw [collapse_cons_of_inked hd, collapse_cons_of_inked hd, ih, List.cons_append]
    | true =>
      have hhead : (s ++ c :: t).head?.any isBlank = s.head?.any isBlank := by
        cases s with
        | nil => exact hc
        | cons e s => rfl
      rw [collapse_cons_of_blank hd, collapse_cons_of_blank hd, hhead, ih]
      split <;> rfl

/-- White space is put in for white space, at every place in the text. -/
theorem exists_of_collapse_append (h : collapse s = a ++ b) :
    ∃ u v, s = u ++ v ∧ collapse u = a ∧ collapse v = b := by
  induction s generalizing a with
  | nil =>
    obtain ⟨rfl, rfl⟩ := List.append_eq_nil_iff.1 h.symm
    exact ⟨[], [], rfl, rfl, rfl⟩
  | cons c s ih =>
    cases a with
    | nil => exact ⟨[], c :: s, rfl, rfl, h⟩
    | cons e a =>
      cases hc : isBlank c with
      | false =>
        rw [collapse_cons_of_inked hc, List.cons_append, List.cons.injEq] at h
        obtain ⟨rfl, h⟩ := h
        obtain ⟨u, v, rfl, rfl, rfl⟩ := ih h
        exact ⟨c :: u, v, rfl, collapse_cons_of_inked hc u, rfl⟩
      | true =>
        rw [collapse_cons_of_blank hc] at h
        split at h
        · next hs =>
          obtain ⟨u, v, rfl, hu, rfl⟩ := ih h
          have hne : u ≠ [] := by
            rintro rfl
            cases hu
          obtain ⟨d, u, rfl⟩ := List.exists_cons_of_ne_nil hne
          have hd : (d :: u).head?.any isBlank = true := hs
          refine ⟨c :: d :: u, v, rfl, ?_, rfl⟩
          rw [collapse_cons_of_blank hc, if_pos hd, hu]
        · next hs =>
          rw [List.cons_append, List.cons.injEq] at h
          obtain ⟨rfl, h⟩ := h
          obtain ⟨u, v, rfl, rfl, rfl⟩ := ih h
          have hu : ¬ u.head?.any isBlank = true := by
            cases u with
            | nil => simp
            | cons d u => exact hs
          refine ⟨c :: u, v, rfl, ?_, rfl⟩
          rw [collapse_cons_of_blank hc, if_neg hu]

theorem collapse_of_inked (hs : ∀ c ∈ s, isBlank c = false) : collapse s = s := by
  induction s with
  | nil => rfl
  | cons c s ih =>
    obtain ⟨hc, hs⟩ := List.forall_mem_cons.1 hs
    rw [collapse_cons_of_inked hc, ih hs]

theorem collapse_append_of_inked (hs : ∀ c ∈ s, isBlank c = false) (t : List Char) :
    collapse (s ++ t) = s ++ collapse t := by
  induction s with
  | nil => rfl
  | cons c s ih =>
    obtain ⟨hc, hs⟩ := List.forall_mem_cons.1 hs
    rw [List.cons_append, collapse_cons_of_inked hc, ih hs, List.cons_append]

/-- All that is not white space is left. -/
theorem mem_collapse_iff (hc : isBlank c = false) : c ∈ collapse s ↔ c ∈ s := by
  induction s with
  | nil => rfl
  | cons d s ih =>
    cases hd : isBlank d with
    | false => rw [collapse_cons_of_inked hd, List.mem_cons, List.mem_cons, ih]
    | true =>
      have hne : c ≠ d := by
        rintro rfl
        simp [hc] at hd
      have hspace : c ≠ ' ' := by
        rintro rfl
        simp [isBlank_space] at hc
      rw [collapse_cons_of_blank hd]
      split <;> simp [ih, hne, hspace]

theorem forall_blank_collapse_iff :
    (∀ c ∈ collapse s, isBlank c = true) ↔ ∀ c ∈ s, isBlank c = true := by
  constructor
  · intro h c hc
    by_contra hinked
    exact hinked (h c ((mem_collapse_iff (by simpa using hinked)).2 hc))
  · intro h c hc
    by_contra hinked
    exact hinked (h c ((mem_collapse_iff (by simpa using hinked)).1 hc))

/-- A text that is collapsed to one without white space is that one. -/
theorem eq_of_collapse_eq (h : collapse s = x) (hx : ∀ c ∈ x, isBlank c = false) : s = x := by
  induction s generalizing x with
  | nil => exact h
  | cons c s ih =>
    cases hc : isBlank c with
    | false =>
      rw [collapse_cons_of_inked hc] at h
      obtain rfl := h
      rw [List.forall_mem_cons] at hx
      rw [← ih rfl hx.2]
    | true =>
      rw [collapse_cons_of_blank hc] at h
      split at h
      · next hs =>
        obtain rfl := ih h hx
        cases s with
        | nil => simp at hs
        | cons d s =>
          have hd : isBlank d = false := hx d List.mem_cons_self
          simp [hd] at hs
      · obtain rfl := h
        have hspace := hx ' ' List.mem_cons_self
        simp [isBlank_space] at hspace

theorem collapse_eq_space_iff : collapse s = [' '] ↔ Run isBlank s := by
  constructor
  · intro h
    refine ⟨?_, forall_blank_collapse_iff.1 ?_⟩
    · rintro rfl
      cases h
    · rw [h]
      exact List.forall_mem_singleton.2 isBlank_space
  · rintro ⟨hne, hs⟩
    induction s with
    | nil => exact absurd rfl hne
    | cons c s ih =>
      obtain ⟨hc, hs⟩ := List.forall_mem_cons.1 hs
      rw [collapse_cons_of_blank hc]
      cases s with
      | nil => rfl
      | cons d s =>
        have hd : isBlank d = true := hs d List.mem_cons_self
        rw [if_pos (by simpa using hd), ih (List.cons_ne_nil d s) hs]

/-- A squashed line is the collapsed one, but for the white space at its ends. -/
theorem exists_collapse_eq (s : List Char) :
    ∃ lead trail, collapse s = lead ++ (spaced (words s) ++ trail) ∧
      (∀ c ∈ lead, isBlank c = true) ∧ (∀ c ∈ trail, isBlank c = true) ∧
      (s.head?.any isBlank = false → lead = []) ∧
      (words s ≠ [] → s.head?.any isBlank = true → lead = [' ']) := by
  induction s using word_induction with
  | nil => exact ⟨[], [], rfl, by simp⟩
  | blank c s hc ih =>
    obtain ⟨lead, trail, heq, hlead, htrail, hnone, hone⟩ := ih
    rw [collapse_cons_of_blank hc, words_cons_of_blank hc]
    cases hs : s.head?.any isBlank with
    | true =>
      refine ⟨lead, trail, heq, hlead, htrail, fun h => ?_, fun hne _ => hone hne hs⟩
      simp [hc] at h
    | false =>
      obtain rfl := hnone hs
      refine ⟨[' '], trail, by simp [heq], by simp [isBlank_space], htrail, fun h => ?_, fun _ _ => rfl⟩
      simp [hc] at h
  | word w s hw hs ih =>
    obtain ⟨lead, trail, heq, hlead, htrail, -, hone⟩ := ih
    have hhead : (w ++ s).head?.any isBlank = false := by
      obtain ⟨c, w, rfl⟩ := List.exists_cons_of_ne_nil hw.1
      exact hw.2 c List.mem_cons_self
    have hnone : ¬ (w ++ s).head?.any isBlank = true := by
      rw [hhead]
      exact Bool.false_ne_true
    rw [collapse_append_of_inked hw.2, heq, words_append hw hs]
    cases hws : words s with
    | nil =>
      refine ⟨[], lead ++ trail, by simp [spaced], by simp, ?_, fun _ => rfl, fun _ h => absurd h hnone⟩
      exact List.forall_mem_append.2 ⟨hlead, htrail⟩
    | cons w' ws =>
      have hblank : s.head?.any isBlank = true := by
        cases s with
        | nil => cases hws
        | cons c s => exact hs c rfl
      obtain rfl := hone (by simp [hws]) hblank
      refine ⟨[], trail, ?_, by simp, htrail, fun _ => rfl, fun _ h => absurd h hnone⟩
      simp [spaced, List.intercalate_cons_cons]

/-- A text with white space neither at its start nor at its end. -/
structure Edged (x : List Char) : Prop where
  head : ∃ c t, x = c :: t ∧ isBlank c = false
  last : ∃ t d, x = t ++ [d] ∧ isBlank d = false

theorem not_edged_of_head (hc : isBlank c = true) (s : List Char) : ¬ Edged (c :: s) := by
  rintro ⟨⟨d, t, heq, hd⟩, -⟩
  obtain ⟨rfl, -⟩ := List.cons.inj heq
  simp [hc] at hd

theorem not_edged_of_last (hd : isBlank d = true) (s : List Char) : ¬ Edged (s ++ [d]) := by
  rintro ⟨-, t, e, heq, he⟩
  obtain ⟨-, hlast⟩ := List.append_inj' heq rfl
  obtain ⟨rfl, -⟩ := List.cons.inj hlast
  simp [hd] at he

theorem head?_collapse (hc : isBlank c = true) (s : List Char) :
    ∃ t, collapse (c :: s) = ' ' :: t := by
  induction s generalizing c with
  | nil => exact ⟨[], collapse_eq_space_iff.2 ⟨List.cons_ne_nil c [], by simpa using hc⟩⟩
  | cons d s ih =>
    rw [collapse_cons_of_blank hc]
    split
    · next hd => exact ih hd
    · exact ⟨_, rfl⟩

theorem getLast?_collapse (hd : isBlank d = true) (s : List Char) :
    ∃ t, collapse (s ++ [d]) = t ++ [' '] := by
  induction s with
  | nil => exact ⟨[], collapse_eq_space_iff.2 ⟨List.cons_ne_nil d [], by simpa using hd⟩⟩
  | cons c s ih =>
    obtain ⟨t, ht⟩ := ih
    cases hc : isBlank c with
    | false => exact ⟨c :: t, by rw [List.cons_append, collapse_cons_of_inked hc, ht, List.cons_append]⟩
    | true =>
      rw [List.cons_append, collapse_cons_of_blank hc, ht]
      split
      · exact ⟨t, rfl⟩
      · exact ⟨' ' :: t, rfl⟩

namespace Edged

theorem of_collapse (h : Edged (collapse y)) : Edged y where
  head := by
    cases y with
    | nil =>
      obtain ⟨⟨c, t, heq, -⟩, -⟩ := h
      cases heq
    | cons c y =>
      refine ⟨c, y, rfl, Bool.eq_false_iff.2 fun hc => ?_⟩
      obtain ⟨t, ht⟩ := head?_collapse hc y
      rw [ht] at h
      exact not_edged_of_head isBlank_space t h
  last := by
    obtain rfl | ⟨y, d, rfl⟩ := List.eq_nil_or_concat' y
    · obtain ⟨⟨c, t, heq, -⟩, -⟩ := h
      cases heq
    · refine ⟨y, d, rfl, Bool.eq_false_iff.2 fun hd => ?_⟩
      obtain ⟨t, ht⟩ := getLast?_collapse hd y
      rw [ht] at h
      exact not_edged_of_last isBlank_space t h

theorem prefix_append_iff (hx : Edged x) (ht : ∀ c ∈ t, isBlank c = true) :
    x <+: s ++ t ↔ x <+: s := by
  induction t using List.reverseRecOn with
  | nil => rw [List.append_nil]
  | append_singleton t c ih =>
    obtain ⟨ht, hc⟩ := List.forall_mem_append.1 ht
    rw [← List.append_assoc, List.prefix_concat_iff, ih ht, or_iff_right]
    rintro rfl
    exact not_edged_of_last (hc c List.mem_cons_self) _ hx

theorem infix_append_iff (hx : Edged x) (ht : ∀ c ∈ t, isBlank c = true) :
    x <:+: s ++ t ↔ x <:+: s := by
  induction t using List.reverseRecOn with
  | nil => rw [List.append_nil]
  | append_singleton t c ih =>
    obtain ⟨ht, hc⟩ := List.forall_mem_append.1 ht
    rw [← List.append_assoc, List.infix_concat_iff, ih ht, or_iff_right]
    rintro ⟨u, hu⟩
    obtain ⟨y, d, rfl, hd⟩ := hx.last
    rw [← List.append_assoc] at hu
    obtain ⟨-, hlast⟩ := List.append_inj' hu rfl
    obtain ⟨rfl, -⟩ := List.cons.inj hlast
    simp [hc d] at hd

theorem not_prefix_cons (hx : Edged x) (hc : isBlank c = true) (t : List Char) :
    ¬ x <+: c :: t := by
  intro h
  obtain ⟨d, y, rfl, hd⟩ := hx.head
  obtain ⟨rfl, -⟩ := List.cons_prefix_cons.1 h
  simp [hc] at hd

theorem append_infix_iff (hx : Edged x) (hs : ∀ c ∈ s, isBlank c = true) :
    x <:+: s ++ t ↔ x <:+: t := by
  induction s with
  | nil => rfl
  | cons c s ih =>
    obtain ⟨hc, hs⟩ := List.forall_mem_cons.1 hs
    rw [List.cons_append, List.infix_cons_iff, ih hs, or_iff_right (hx.not_prefix_cons hc _)]

theorem collapse_prefix (hy : Edged y) (h : y <+: s) : collapse y <+: collapse s := by
  obtain ⟨t, rfl⟩ := h
  obtain ⟨u, d, rfl, hd⟩ := hy.last
  rw [List.append_assoc, List.singleton_append, collapse_append_cons hd, collapse_append_cons hd]
  exact ⟨collapse t, by simp [collapse]⟩

theorem collapse_infix (hy : Edged y) (h : y <:+: s) : collapse y <:+: collapse s := by
  obtain ⟨u, t, rfl⟩ := h
  have hstart := hy.collapse_prefix (List.prefix_append y t)
  obtain ⟨c, y, rfl, hc⟩ := hy.head
  rw [List.append_assoc, List.cons_append, collapse_append_cons hc, ← collapse_cons_of_inked hc,
    ← List.cons_append]
  exact hstart.isInfix.trans (List.suffix_append _ _).isInfix

end Edged

theorem squash_eq_spaced (hs : s.head?.any isBlank = false) : squash s = spaced (words s) := by
  rw [squash_eq, hs]
  rfl

theorem exists_squash_eq (s : List Char) :
    ∃ lead, squash s = lead ++ spaced (words s) ∧ ∀ c ∈ lead, isBlank c = true := by
  rw [squash_eq]
  split
  · exact ⟨[' ', ' '], rfl, by simp [isBlank_space]⟩
  · exact ⟨[], rfl, by simp⟩

/-- Inside a line squashing is collapsing. -/
theorem infix_squash_iff (hx : Edged x) :
    x <:+: squash s ↔ ∃ y, collapse y = x ∧ y <:+: s := by
  obtain ⟨lead, hsquash, hlead⟩ := exists_squash_eq s
  obtain ⟨lead', trail, hcollapse, hlead', htrail, -⟩ := exists_collapse_eq s
  have hinner : x <:+: squash s ↔ x <:+: collapse s := by
    rw [hsquash, hcollapse, hx.append_infix_iff hlead, hx.append_infix_iff hlead',
      hx.infix_append_iff htrail]
  rw [hinner]
  constructor
  · rintro ⟨a, b, hab⟩
    obtain ⟨u, t, rfl, hu, -⟩ := exists_of_collapse_append hab.symm
    obtain ⟨u, y, rfl, -, hy⟩ := exists_of_collapse_append hu
    exact ⟨y, hy, u, t, rfl⟩
  · rintro ⟨y, rfl, hy⟩
    exact hx.of_collapse.collapse_infix hy

theorem prefix_squash_iff (hx : Edged x) :
    x <+: squash s ↔ ∃ y, collapse y = x ∧ y <+: s := by
  have hinner : x <+: squash s ↔ x <+: collapse s := by
    cases hs : s.head?.any isBlank with
    | false =>
      obtain ⟨lead, trail, hcollapse, -, htrail, hnone, -⟩ := exists_collapse_eq s
      obtain rfl := hnone hs
      rw [squash_eq_spaced hs, hcollapse, List.nil_append, hx.prefix_append_iff htrail]
    | true =>
      obtain ⟨c, s, rfl, hc⟩ : ∃ c s', s = c :: s' ∧ isBlank c = true := by
        cases s with
        | nil => simp at hs
        | cons c s => exact ⟨c, s, rfl, by simpa using hs⟩
      obtain ⟨t, ht⟩ := head?_collapse hc s
      have hindented : ¬ x <+: squash (c :: s) := by
        rw [squash_eq, hs]
        cases spaced (words (c :: s)) with
        | nil =>
          obtain ⟨d, y, rfl, -⟩ := hx.head
          simp
        | cons d r => exact hx.not_prefix_cons isBlank_space _
      rw [ht]
      exact iff_of_false hindented (hx.not_prefix_cons isBlank_space t)
  rw [hinner]
  constructor
  · rintro ⟨b, hb⟩
    obtain ⟨y, t, rfl, hy, -⟩ := exists_of_collapse_append hb.symm
    exact ⟨y, hy, t, rfl⟩
  · rintro ⟨y, rfl, hy⟩
    exact hx.of_collapse.collapse_prefix hy

end SpirvToolchain.Ir
