import SpirvToolchain.Dump.Ir
import SpirvToolchain.Proofs.Text.Lines
import SpirvToolchain.Proofs.Text.Words

/-! A line with its white space squashed has the same words, and the filters go by these. -/
namespace SpirvToolchain.Ir

open Text

variable {f : Filters} {s : List Char} {c : Char}

/-- Words with one space between them. -/
def spaced (ws : List (List Char)) : List Char := [' '].intercalate ws

theorem words_spaced (s : List Char) : words (spaced (words s)) = words s :=
  words_intercalate fun _ => isWord_of_mem_words

theorem head?_spaced (s : List Char) : (spaced (words s)).head?.any isBlank = false := by
  cases hws : words s with
  | nil => rfl
  | cons w ws =>
    have hw : IsWord w := isWord_of_mem_words (hws ▸ List.mem_cons_self)
    obtain ⟨c, cs, rfl⟩ := List.exists_cons_of_ne_nil hw.1
    have hc : isBlank c = false := hw.2 c List.mem_cons_self
    cases ws <;> simpa [spaced] using hc

theorem squash_eq (s : List Char) :
    squash s =
      if s.head?.any isBlank && !(spaced (words s)).isEmpty then ' ' :: ' ' :: spaced (words s)
      else spaced (words s) := rfl

theorem words_squash (s : List Char) : words (squash s) = words s := by
  rw [squash_eq]
  split
  · rw [words_cons_of_blank isBlank_space, words_cons_of_blank isBlank_space, words_spaced]
  · exact words_spaced s

theorem squash_squash (s : List Char) : squash (squash s) = squash s := by
  have hone := squash_eq s
  have htwo := squash_eq (squash s)
  rw [words_squash] at htwo
  by_cases h : (s.head?.any isBlank && !(spaced (words s)).isEmpty) = true
  · rw [if_pos h] at hone
    rw [Bool.and_eq_true] at h
    rw [htwo, hone, if_pos (by simp [isBlank_space, h.2])]
  · rw [if_neg h] at hone
    rw [htwo, hone, head?_spaced]
    rfl

theorem squash_append_of_allBlank {t : List Char} (ht : allBlank t = true) (s : List Char) :
    squash (s ++ t) = squash s := by
  rw [squash_eq, squash_eq, words_append_of_allBlank ht]
  cases s with
  | nil => simp [spaced, words]
  | cons c s => rfl

theorem allBlank_squash (s : List Char) : allBlank (squash s) = allBlank s := by
  rw [Bool.eq_iff_iff, ← words_eq_nil_iff, ← words_eq_nil_iff, words_squash]

theorem spaced_eq_nil_iff (s : List Char) : spaced (words s) = [] ↔ allBlank s = true := by
  refine ⟨fun h => ?_, fun h => by rw [words_eq_nil h]; rfl⟩
  rw [← words_eq_nil_iff, ← words_spaced, h]
  rfl

/-- A line is indented exactly if it was, unless nothing is left of it. -/
theorem head?_squash (hs : allBlank s = false) :
    (squash s).head?.any isBlank = s.head?.any isBlank := by
  have hinked : (spaced (words s)).isEmpty = false := by
    rw [List.isEmpty_eq_false_iff, Ne, spaced_eq_nil_iff, hs]
    exact Bool.false_ne_true
  rw [squash_eq, hinked]
  cases hindent : s.head?.any isBlank with
  | true => exact isBlank_space
  | false => exact head?_spaced s

/-- A call of the debugger is told by the first word, or by any word. -/
theorem isDebugCall_eq (s : List Char) :
    isDebugCall s = ((words s).any (occursIn "@llvm.dbg.".toList) ||
      (words s).head?.any "#dbg_".toList.isPrefixOf) := by
  rw [isDebugCall, occursIn_eq_any_words (by decide), words_trimStart,
    isPrefixOf_trimStart (by decide)]

theorem isComment_eq (s : List Char) :
    isComment s = (words s).head?.any [';'].isPrefixOf := by
  rw [← isPrefixOf_trimStart (by decide), isComment]
  cases trimStart s with
  | nil => rfl
  | cons c cs =>
    have hhead : ((c :: cs).head? == some ';') = (c == ';') := rfl
    have hstart : [';'].isPrefixOf (c :: cs) = (';' == c) := by simp [List.isPrefixOf]
    rw [hhead, hstart, Bool.beq_comm]

theorem keeps_squash (hf : f.directives = false) (s : List Char) :
    keeps f (squash s) = keeps f s := by
  simp only [keeps, hf, Bool.false_and, isDebugCall_eq, isComment_eq, words_squash]

theorem keeps_of_allBlank (hf : f.directives = false) (hs : allBlank s = true) :
    keeps f s = true := by
  have hwords := words_eq_nil hs
  simp [keeps, hf, isDebugCall_eq, isComment_eq, hwords]

/-- Squashing brings in nothing but spaces. -/
theorem mem_of_mem_squash (hc : c ∈ squash s) : c = ' ' ∨ c ∈ s := by
  have hspaced : c ∈ spaced (words s) → c = ' ' ∨ c ∈ s := fun h =>
    (mem_of_mem_intercalate h).imp List.mem_singleton.1 fun ⟨_, hw, hmem⟩ =>
      mem_of_mem_words hw hmem
  rw [squash_eq] at hc
  split at hc
  · rcases List.mem_cons.1 hc with hc | hc
    · exact .inl hc
    · exact (List.mem_cons.1 hc).elim .inl hspaced
  · exact hspaced hc

end SpirvToolchain.Ir
