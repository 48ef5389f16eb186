/-! Finding a piece of text and replacing every occurrence, scanned from the left. -/
namespace SpirvToolchain.Text

/-- Whether `piece` occurs somewhere in the text. -/
def occursIn (piece : List Char) : List Char → Bool
  | [] => piece.isEmpty
  | c :: cs => piece.isPrefixOf (c :: cs) || occursIn piece cs

/-- The text before and after the first `mark`. -/
def splitFirst (mark : Char) : List Char → Option (List Char × List Char)
  | [] => none
  | c :: cs =>
    if c = mark then some ([], cs) else (splitFirst mark cs).map fun p => (c :: p.1, p.2)

/-- A pattern, given by the length of its match at the start of a text; `0` is no match. -/
abbrev Pattern := List Char → Nat

/-- Puts `new` for each match, leaving out the next `skip` characters, which belong to one. -/
def replaceFrom (pattern : Pattern) (new : List Char) : Nat → List Char → List Char
  | _, [] => []
  | skip + 1, _ :: cs => replaceFrom pattern new skip cs
  | 0, c :: cs =>
    match pattern (c :: cs) with
    | 0 => c :: replaceFrom pattern new 0 cs
    | n + 1 => new ++ replaceFrom pattern new n cs

def replace (pattern : Pattern) (new s : List Char) : List Char :=
  replaceFrom pattern new 0 s

def erase (pattern : Pattern) (s : List Char) : List Char :=
  replace pattern [] s

/-- The pattern that matches `piece` itself. -/
def literal (piece : List Char) : Pattern := fun s =>
  if piece.isPrefixOf s then piece.length else 0

@[simp] theorem replace_nil (pattern : Pattern) (new : List Char) : replace pattern new [] = [] := rfl

theorem replace_cons_of_no_match {pattern : Pattern} {new : List Char} {c : Char} {cs : List Char}
    (h : pattern (c :: cs) = 0) : replace pattern new (c :: cs) = c :: replace pattern new cs := by
  simp [replace, replaceFrom, h]

theorem replaceFrom_eq_drop (pattern : Pattern) (new : List Char) (n : Nat) (s : List Char) :
    replaceFrom pattern new n s = replace pattern new (s.drop n) := by
  induction n generalizing s with
  | zero => rfl
  | succ n ih =>
    cases s with
    | nil => rfl
    | cons c cs => simpa [replaceFrom] using ih cs

theorem replace_cons_of_match {pattern : Pattern} {new : List Char} {c : Char} {cs : List Char}
    {n : Nat} (h : pattern (c :: cs) = n + 1) :
    replace pattern new (c :: cs) = new ++ replace pattern new (cs.drop n) := by
  rw [replace, replaceFrom, h]
  simp [replaceFrom_eq_drop]

theorem splitFirst_append {mark : Char} {s : List Char} {p : List Char × List Char}
    (h : splitFirst mark s = some p) : s = p.1 ++ mark :: p.2 ∧ mark ∉ p.1 := by
  induction s generalizing p with
  | nil => simp [splitFirst] at h
  | cons c cs ih =>
    by_cases hc : c = mark
    · simp only [splitFirst, hc, if_true, Option.some.injEq] at h
      subst h
      simp [hc]
    · simp only [splitFirst, hc, if_false, Option.map_eq_some_iff] at h
      obtain ⟨q, hq, rfl⟩ := h
      obtain ⟨hs, hm⟩ := ih hq
      refine ⟨by simp [hs], ?_⟩
      simp [Ne.symm hc, hm]

theorem splitFirst_eq_none {mark : Char} {s : List Char} (h : splitFirst mark s = none) :
    mark ∉ s := by
  induction s with
  | nil => exact List.not_mem_nil
  | cons c cs ih =>
    by_cases hc : c = mark
    · simp [splitFirst, hc] at h
    · simp only [splitFirst, hc, if_false, Option.map_eq_none_iff] at h
      simp [Ne.symm hc, ih h]

theorem splitFirst_append_cons {mark : Char} {a : List Char} (b : List Char) (h : mark ∉ a) :
    splitFirst mark (a ++ mark :: b) = some (a, b) := by
  induction a with
  | nil => simp [splitFirst]
  | cons c cs ih =>
    simp only [List.mem_cons, not_or] at h
    simp [splitFirst, Ne.symm h.1, ih h.2]

end SpirvToolchain.Text
