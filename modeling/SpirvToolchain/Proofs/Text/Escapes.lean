import SpirvToolchain.Proofs.Text.Ansi
import SpirvToolchain.Proofs.Text.Erase
import SpirvToolchain.Proofs.Text.Runs

/-! Escape sequences that one pass leaves: those that a sequence stood in. -/
namespace SpirvToolchain.Text.Ansi

variable {c : Char} {e s t u v : List Char}

/-- One escape sequence and nothing else. -/
def IsSequence (e : List Char) : Prop :=
  ∃ ps c, e = escape :: '[' :: (ps ++ [c]) ∧ (∀ p ∈ ps, isParameter p = true) ∧ c.isAlpha = true

def HoldsSequence (s : List Char) : Prop := ∃ e, IsSequence e ∧ e <:+: s

/-- A match stands between the parts of an escape sequence. -/
def Interrupted (pattern : Pattern) (s : List Char) : Prop :=
  ∃ e, IsSequence e ∧ Parted pattern e s

/-- Whether a sequence, once it is opened, can go on with the character. -/
def continues (c : Char) : Bool := c == '[' || isParameter c || c.isAlpha

theorem Interrupted.mono {pattern : Pattern} (h : Interrupted pattern s) (hs : s <:+: t) :
    Interrupted pattern t := by
  obtain ⟨e, he, hparted⟩ := h
  exact ⟨e, he, hparted.mono hs⟩

theorem isParameter_eq_false (hc : c.isAlpha = true) : isParameter c = false := by
  have hlarge : 65 ≤ c.toNat := by
    rcases Bool.or_eq_true_iff.1 hc with h | h
    · have hupper : 'A'.val ≤ c.val ∧ c.val ≤ 'Z'.val := of_decide_eq_true h
      exact UInt32.le_iff_toNat_le.1 hupper.1
    · have hlower : 'a'.val ≤ c.val := of_decide_eq_true (Bool.and_eq_true_iff.1 h).1
      exact Nat.le_trans (by decide) (UInt32.le_iff_toNat_le.1 hlower)
  rw [isParameter, Bool.or_eq_false_iff, Bool.eq_false_iff, beq_eq_false_iff_ne]
  refine ⟨fun hdigit => ?_, ?_⟩
  · have hsmall : c.toNat ≤ 57 := (Char.isDigit_iff_toNat.1 hdigit).2
    omega
  · rintro rfl
    cases hc

theorem IsSequence.eq_cons (he : IsSequence e) :
    ∃ e', e = escape :: e' ∧ ∀ c ∈ e', continues c = true := by
  obtain ⟨ps, c, rfl, hps, hc⟩ := he
  refine ⟨_, rfl, fun d hd => ?_⟩
  simp only [List.mem_cons, List.mem_append, List.not_mem_nil, or_false] at hd
  rcases hd with rfl | hd | rfl
  · decide
  · simp [continues, hps d hd]
  · simp [continues, hc]

theorem IsSequence.of_cons (he : IsSequence (c :: e)) :
    c = escape ∧ ∀ d ∈ e, continues d = true := by
  obtain ⟨e', heq, hcontinues⟩ := he.eq_cons
  obtain ⟨rfl, rfl⟩ := List.cons.inj heq
  exact ⟨rfl, hcontinues⟩

theorem IsSequence.ne_nil (he : IsSequence e) : e ≠ [] := by
  obtain ⟨e', rfl, -⟩ := he.eq_cons
  exact List.cons_ne_nil escape e'

theorem IsSequence.notMem (he : IsSequence e) (hc : continues c = false) (hescape : c ≠ escape) :
    c ∉ e := by
  obtain ⟨e', rfl, hcontinues⟩ := he.eq_cons
  rw [List.mem_cons, not_or]
  exact ⟨hescape, fun hmem => by simp [hcontinues c hmem] at hc⟩

theorem IsSequence.sequence_append (he : IsSequence e) (t : List Char) :
    sequence (e ++ t) = e.length := by
  obtain ⟨ps, c, rfl, hps, hc⟩ := he
  have hstops : Stops isParameter (c :: t) := stops_cons (isParameter_eq_false hc) t
  simp [sequence, takeWhile_all_append hps hstops, dropWhile_all_append hps hstops, hc]

theorem sequence_cases (s : List Char) :
    sequence s = 0 ∨ ∃ e t, IsSequence e ∧ s = e ++ t := by
  fun_cases sequence s with
  | case1 s c rest hrest hc =>
    have hs := List.takeWhile_append_dropWhile (p := isParameter) (l := s)
    rw [hrest] at hs
    have he : IsSequence (escape :: '[' :: (s.takeWhile isParameter ++ [c])) :=
      ⟨_, c, rfl, fun _ => List.mem_takeWhile_imp, hc⟩
    exact .inr ⟨_, rest, he, by simp [hs]⟩
  | _ => exact .inl rfl

theorem sequence_append (h : sequence s ≠ 0) (t : List Char) : sequence (s ++ t) = sequence s := by
  obtain h0 | ⟨e, r, he, rfl⟩ := sequence_cases s
  · exact absurd h0 h
  · rw [List.append_assoc, he.sequence_append, he.sequence_append]

theorem local_sequence : Local sequence where
  within s := by
    obtain h | ⟨e, t, he, rfl⟩ := sequence_cases s
    · rw [h]
      exact Nat.zero_le _
    · rw [he.sequence_append, List.length_append]
      exact Nat.le_add_right _ _
  cut s t hfits := by
    by_cases hs : sequence s = 0
    · obtain h | ⟨e, r, he, heq⟩ := sequence_cases (s ++ t)
      · rw [hs, h]
      · rw [heq, he.sequence_append] at hfits
        obtain ⟨r', rfl⟩ : e <+: s :=
          List.prefix_of_prefix_length_le ⟨r, heq.symm⟩ (List.prefix_append s t) hfits
        rw [List.append_assoc, he.sequence_append, he.sequence_append]
    · exact (sequence_append hs t).symm

/-- No sequence goes over a character that only starts one, or has no place in one. -/
theorem apart_sequence (hc : continues c = false) (s t : List Char) :
    Apart sequence s (c :: t) := by
  refine local_sequence.apart fun v hne _ => ?_
  obtain h | ⟨e, r, he, heq⟩ := sequence_cases (v ++ c :: t)
  · rw [h]
    exact Nat.zero_le _
  · rw [heq, he.sequence_append]
    obtain ⟨e', rfl, hcontinues⟩ := he.eq_cons
    obtain ⟨d, v, rfl⟩ := List.exists_cons_of_ne_nil hne
    have hnot : c ∉ e' := fun hmem => by simp [hcontinues c hmem] at hc
    have hin : e' ++ r = v ++ c :: t := (List.cons.inj heq).2.symm
    have hstart : e' <+: v := (prefix_append_cons_iff hnot).1 ⟨r, hin⟩
    exact Nat.succ_le_succ hstart.length_le

theorem strip_sequence_append (he : IsSequence e) (t : List Char) : strip (e ++ t) = strip t :=
  replace_match_append he.ne_nil (he.sequence_append t)

theorem strip_append_escape (s t : List Char) :
    strip (s ++ escape :: t) = strip s ++ strip (escape :: t) :=
  replace_append (apart_sequence (by decide) s t)

/-- A text that no escape is left of does not end in a part of a sequence. -/
theorem strip_append_of_notMem (hv : escape ∉ strip v) (b : List Char) :
    strip (v ++ b) = strip v ++ strip b := by
  induction v using scan_induction sequence with
  | nil => rfl
  | keep c v hn ih =>
    have hkept : strip (c :: v) = c :: strip v := replace_cons_of_no_match hn
    rw [hkept, List.mem_cons, not_or] at hv
    rw [hkept, List.cons_append, strip_cons (Ne.symm hv.1), ih hv.2, List.cons_append]
  | skip c v n hn ih =>
    have hmatch : sequence (c :: (v ++ b)) = n + 1 := by
      rw [← hn]
      exact sequence_append (by rw [hn]; exact Nat.succ_ne_zero n) b
    have hle : n ≤ v.length := by
      have hwithin := local_sequence.within (c :: v)
      rw [hn, List.length_cons] at hwithin
      omega
    have hstrip : strip (c :: v) = strip (v.drop n) := replace_cons_of_match hn
    have hstrip' : strip (c :: (v ++ b)) = strip ((v ++ b).drop n) := replace_cons_of_match hmatch
    rw [hstrip] at hv ⊢
    rw [List.cons_append, hstrip', List.drop_append_of_le_length hle, ih hv]

theorem exists_eq_escape_cons (hs : s ≠ []) (h : sequence (s ++ t) ≠ 0) :
    ∃ s', s = escape :: s' := by
  obtain h0 | ⟨e, r, he, heq⟩ := sequence_cases (s ++ t)
  · exact absurd h0 h
  · obtain ⟨e', rfl, -⟩ := he.eq_cons
    obtain ⟨c, s, rfl⟩ := List.exists_cons_of_ne_nil hs
    obtain ⟨rfl, -⟩ := List.cons.inj heq
    exact ⟨s, rfl⟩

/-- A sequence that is not at its end is none yet. -/
theorem sequence_opening {r : List Char} (he : IsSequence (u ++ r)) (hr : r ≠ []) :
    sequence u = 0 := by
  by_contra hu
  have hwhole : sequence (u ++ r) = (u ++ r).length := by
    simpa using he.sequence_append []
  have hpart := local_sequence.within u
  rw [← sequence_append hu r, hwhole, List.length_append] at hpart
  have hpos := List.length_pos_iff.2 hr
  omega

/-- What stands before the gap in a sequence is read as it is. -/
theorem strip_opening_append {r : List Char} (he : IsSequence (u ++ r)) (hr : r ≠ [])
    (t : List Char) : strip (u ++ escape :: t) = u ++ strip (escape :: t) := by
  refine replace_append_of_no_match fun v hne hv => ?_
  rw [(apart_sequence (by decide) v t v hne (List.suffix_refl v)).1]
  cases u with
  | nil => exact absurd (List.suffix_nil.1 hv) hne
  | cons c u =>
    rcases List.suffix_cons_iff.1 hv with rfl | hv
    · exact sequence_opening he hr
    · obtain ⟨d, v, rfl⟩ := List.exists_cons_of_ne_nil hne
      have hd := he.of_cons.2 d (List.mem_append_left r (hv.subset List.mem_cons_self))
      refine sequence_cons ?_ v
      rintro rfl
      exact absurd hd (by decide)

theorem infix_strip_of_parted (he : IsSequence e) (h : Parted sequence e s) : e <:+: strip s := by
  obtain ⟨u, i, v, hu, ⟨hi, hmatch, hrest, rfl⟩, a, b, rfl⟩ := h
  have hgap : sequence (i ++ v) ≠ 0 := by
    rw [hmatch]
    exact fun h => hi (List.length_eq_zero_iff.1 h)
  have hgap' : sequence (i ++ (v ++ b)) = i.length := by
    rw [← List.append_assoc, sequence_append hgap, hmatch]
  obtain ⟨c, u, rfl⟩ := List.exists_cons_of_ne_nil hu
  obtain ⟨rfl, hcontinues⟩ := he.of_cons
  obtain ⟨i', hi'⟩ := exists_eq_escape_cons hi hgap
  have hclosed : escape ∉ strip v := fun hmem =>
    absurd (hcontinues escape (List.mem_append_right u hmem)) (by decide)
  have hopening : strip (escape :: u ++ (i ++ (v ++ b))) = escape :: u ++ strip (i ++ (v ++ b)) := by
    rw [hi']
    exact strip_opening_append he hrest _
  have hskip : strip (i ++ (v ++ b)) = strip v ++ strip b := by
    rw [strip, erase, replace_match_append hi hgap', List.nil_append]
    exact strip_append_of_notMem hclosed b
  refine ⟨strip a, strip b, ?_⟩
  symm
  calc strip (a ++ (escape :: u ++ (i ++ v)) ++ b)
      = strip (a ++ escape :: (u ++ (i ++ (v ++ b)))) := by simp
    _ = strip a ++ strip (escape :: u ++ (i ++ (v ++ b))) := strip_append_escape a _
    _ = strip a ++ (escape :: u ++ erase sequence v) ++ strip b := by
      rw [hopening, hskip]
      simp [strip]

/-- One pass takes away every sequence but those that a sequence stood in. -/
theorem holdsSequence_strip_iff (s : List Char) :
    HoldsSequence (strip s) ↔ Interrupted sequence s := by
  constructor
  · rintro ⟨e, he, hin⟩
    refine ⟨e, he, ?_⟩
    rcases local_sequence.infix_erase_cases he.ne_nil hin with ⟨a, b, -, hb⟩ | hparted
    · rw [he.sequence_append] at hb
      exact absurd (List.length_eq_zero_iff.1 hb) he.ne_nil
    · exact hparted
  · rintro ⟨e, he, hparted⟩
    exact ⟨e, he, infix_strip_of_parted he hparted⟩

/-- Only what holds a sequence becomes shorter. -/
theorem strip_eq_self_iff (s : List Char) : strip s = s ↔ ¬ HoldsSequence s := by
  constructor
  · rintro h ⟨e, he, a, b, rfl⟩
    obtain ⟨e', rfl, -⟩ := he.eq_cons
    have hstrip : strip (a ++ escape :: e' ++ b) = strip a ++ strip b := by
      rw [List.append_assoc, List.cons_append, strip_append_escape, ← List.cons_append,
        strip_sequence_append he]
    have hlength := congrArg List.length (hstrip.symm.trans h)
    have ha := length_erase_le sequence a
    have hb := length_erase_le sequence b
    simp only [strip, List.length_append, List.length_cons] at hlength
    omega
  · intro h
    refine replace_eq_self fun v _ hv => ?_
    obtain h0 | ⟨e, t, he, rfl⟩ := sequence_cases v
    · exact h0
    · exact absurd ⟨e, he, (List.prefix_append e t).isInfix.trans hv.isInfix⟩ h

end SpirvToolchain.Text.Ansi
