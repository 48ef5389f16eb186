import SpirvToolchain.Text.Lines
import SpirvToolchain.Text.Search

/-! Words of a text: the text between them is white space, and what has none lies in one word. -/
namespace SpirvToolchain.Text

variable {w p s : List Char} {c : Char} {ws : List (List Char)}

/-- A word: some characters, none of them white space. -/
def IsWord (w : List Char) : Prop := w ≠ [] ∧ ∀ c ∈ w, isBlank c = false

/-- No word goes on into `s`. -/
def StartsBlank (s : List Char) : Prop := ∀ c ∈ s.head?, isBlank c = true

-- Only the characters of `w` are looked at, never those there are.
instance (w : List Char) : Decidable (IsWord w) :=
  @instDecidableAnd _ _ _ (List.decidableBAll (isBlank · = false) w)

theorem startsBlank_nil : StartsBlank [] := by simp [StartsBlank]

theorem startsBlank_cons (hc : isBlank c = true) (s : List Char) : StartsBlank (c :: s) := by
  simpa [StartsBlank] using hc

theorem exists_word_append (hc : isBlank c = false) (s : List Char) :
    ∃ w t, IsWord w ∧ StartsBlank t ∧ c :: s = w ++ t ∧ t.length ≤ s.length := by
  have hone : IsWord [c] := ⟨List.cons_ne_nil c [], by simpa using hc⟩
  induction s generalizing c with
  | nil => exact ⟨[c], [], hone, startsBlank_nil, rfl, Nat.le_refl _⟩
  | cons d s ih =>
    cases hd : isBlank d with
    | true => exact ⟨[c], d :: s, hone, startsBlank_cons hd s, rfl, Nat.le_refl _⟩
    | false =>
      obtain ⟨w, t, hw, ht, heq, hlen⟩ := ih hd ⟨List.cons_ne_nil d [], by simpa using hd⟩
      have hword : IsWord (c :: w) := ⟨List.cons_ne_nil c w, List.forall_mem_cons.2 ⟨hc, hw.2⟩⟩
      exact ⟨c :: w, t, hword, ht, by rw [heq, List.cons_append], Nat.le_succ_of_le hlen⟩

/-- A text is empty, or starts with white space, or with a word that ends there. -/
theorem word_induction {P : List Char → Prop} (nil : P [])
    (blank : ∀ c s, isBlank c = true → P s → P (c :: s))
    (word : ∀ w s, IsWord w → StartsBlank s → P s → P (w ++ s)) (s : List Char) : P s := by
  match s with
  | [] => exact nil
  | c :: s =>
    cases hc : isBlank c with
    | true => exact blank c s hc (word_induction nil blank word s)
    | false =>
      obtain ⟨w, t, hw, ht, heq, hlen⟩ := exists_word_append hc s
      have hshorter : t.length < (c :: s).length := Nat.lt_succ_of_le hlen
      rw [heq]
      exact word w t hw ht (word_induction nil blank word t)
termination_by s.length

theorem words_append (hw : IsWord w) (hs : StartsBlank s) : words (w ++ s) = w :: words s := by
  obtain ⟨hne, hw⟩ := hw
  induction w with
  | nil => exact absurd rfl hne
  | cons c w ih =>
    obtain ⟨hc, hw⟩ := List.forall_mem_cons.1 hw
    cases w with
    | nil =>
      have hends : (s.head?.map isBlank).getD true = true := by
        cases s with
        | nil => rfl
        | cons d s => exact hs d rfl
      simp [words, hc, hends]
    | cons d w =>
      have hd : isBlank d = false := hw d List.mem_cons_self
      rw [List.cons_append, words, ih (List.cons_ne_nil d w) hw]
      simp [hc, hd, consFirst]

theorem words_append_of_allBlank {t : List Char} (ht : allBlank t = true) (s : List Char) :
    words (s ++ t) = words s := by
  induction s using word_induction with
  | nil => exact words_eq_nil ht
  | blank c s hc ih => rw [List.cons_append, words_cons_of_blank hc, ih, words_cons_of_blank hc]
  | word w s hw hs ih =>
    have hblank : StartsBlank (s ++ t) := by
      cases s with
      | nil =>
        intro c hc
        exact List.all_eq_true.1 ht c (List.mem_of_mem_head? hc)
      | cons c s => exact hs
    rw [List.append_assoc, words_append hw hblank, ih, words_append hw hs]

theorem isWord_of_mem_words (hw : w ∈ words s) : IsWord w := by
  induction s using word_induction with
  | nil => cases hw
  | blank c s hc ih => exact ih (by rwa [words_cons_of_blank hc] at hw)
  | word w' s hw' hs ih =>
    rw [words_append hw' hs] at hw
    rcases List.mem_cons.1 hw with rfl | hw
    · exact hw'
    · exact ih hw

theorem mem_of_mem_words (hw : w ∈ words s) (hc : c ∈ w) : c ∈ s := by
  induction s using word_induction with
  | nil => cases hw
  | blank d s hd ih =>
    rw [words_cons_of_blank hd] at hw
    exact List.mem_cons_of_mem d (ih hw)
  | word v s hv hs ih =>
    rw [words_append hv hs] at hw
    rcases List.mem_cons.1 hw with rfl | hw
    · exact List.mem_append_left s hc
    · exact List.mem_append_right v (ih hw)

theorem words_eq_nil_iff : words s = [] ↔ allBlank s = true := by
  refine ⟨fun h => ?_, words_eq_nil⟩
  induction s using word_induction with
  | nil => rfl
  | blank c s hc ih =>
    rw [words_cons_of_blank hc] at h
    simpa [allBlank, hc] using ih h
  | word w s hw hs => simp [words_append hw hs] at h

theorem words_trimStart (s : List Char) : words (trimStart s) = words s := by
  induction s with
  | nil => rfl
  | cons c s ih =>
    by_cases hc : isBlank c = true
    · rw [words_cons_of_blank hc, ← ih]
      simp [trimStart, hc]
    · simp [trimStart, hc]

/-- Words with one space between them are the words of what they make up. -/
theorem words_intercalate (hws : ∀ w ∈ ws, IsWord w) : words ([' '].intercalate ws) = ws := by
  induction ws with
  | nil => rfl
  | cons w ws ih =>
    obtain ⟨hw, hws⟩ := List.forall_mem_cons.1 hws
    cases ws with
    | nil =>
      rw [List.intercalate_singleton, ← List.append_nil w, words_append hw startsBlank_nil]
      simp [words]
    | cons w' ws =>
      rw [List.intercalate_cons_cons, List.append_assoc, List.singleton_append,
        words_append hw (startsBlank_cons isBlank_space _),
        words_cons_of_blank isBlank_space, ih hws]

theorem isPrefixOf_nil (hp : IsWord p) : p.isPrefixOf [] = false := by
  cases p with
  | nil => exact absurd rfl hp.1
  | cons d p => rfl

theorem isPrefixOf_append (hp : ∀ c ∈ p, isBlank c = false) (hs : StartsBlank s) (w : List Char) :
    p.isPrefixOf (w ++ s) = p.isPrefixOf w := by
  induction w generalizing p with
  | nil =>
    cases p with
    | nil => simp
    | cons d p =>
      cases s with
      | nil => rfl
      | cons c s =>
        have hne : d ≠ c := by
          rintro rfl
          simp [hs d rfl] at hp
        simp [List.isPrefixOf, hne]
  | cons c w ih =>
    cases p with
    | nil => simp
    | cons d p =>
      have hp := (List.forall_mem_cons.1 hp).2
      simp [List.isPrefixOf, ih hp]

theorem trimStart_append (hw : IsWord w) (s : List Char) : trimStart (w ++ s) = w ++ s := by
  obtain ⟨hne, hw⟩ := hw
  cases w with
  | nil => exact absurd rfl hne
  | cons c w =>
    have hc : isBlank c = false := hw c List.mem_cons_self
    simp [trimStart, hc]

/-- What a text starts with, white space aside, is what its first word starts with. -/
theorem isPrefixOf_trimStart (hp : IsWord p) (s : List Char) :
    p.isPrefixOf (trimStart s) = (words s).head?.any p.isPrefixOf := by
  induction s using word_induction with
  | nil => exact isPrefixOf_nil hp
  | blank c s hc ih =>
    rw [words_cons_of_blank hc, ← ih]
    simp [trimStart, hc]
  | word w s hw hs =>
    rw [trimStart_append hw, words_append hw hs, isPrefixOf_append hp.2 hs]
    rfl

/-- What has no white space in it occurs in one of the words, or not at all. -/
theorem occursIn_eq_any_words (hp : IsWord p) (s : List Char) :
    occursIn p s = (words s).any (occursIn p) := by
  have hnil : occursIn p [] = false := by simp [occursIn, hp.1]
  induction s using word_induction with
  | nil => exact hnil
  | blank c s hc ih =>
    have hstart : p.isPrefixOf (c :: s) = false := by
      rw [← isPrefixOf_nil hp]
      exact isPrefixOf_append hp.2 (startsBlank_cons hc s) []
    rw [words_cons_of_blank hc, ← ih, occursIn, hstart, Bool.false_or]
  | word w s hw hs ih =>
    have happend : ∀ w, occursIn p (w ++ s) = (occursIn p w || occursIn p s) := by
      intro w
      induction w with
      | nil => simp [hnil]
      | cons c w ih =>
        have hstart := isPrefixOf_append hp.2 hs (c :: w)
        rw [List.cons_append] at hstart ⊢
        rw [occursIn, occursIn, hstart, ih, Bool.or_assoc]
    rw [happend, words_append hw hs, ih, List.any_cons]

end SpirvToolchain.Text
