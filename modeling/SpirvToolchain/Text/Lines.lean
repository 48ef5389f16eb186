import SpirvToolchain.Text.Blank

/-! Lines and words of a text. -/
namespace SpirvToolchain.Text

/-- Puts `c` in front of the first piece. -/
def consFirst (c : Char) : List (List Char) → List (List Char)
  | [] => [[c]]
  | piece :: rest => (c :: piece) :: rest

/--
The lines of a text. A newline ends a line, together with one carriage return before it;
what follows the last newline is a line of its own unless it is empty.
-/
def lines : List Char → List (List Char)
  | [] => []
  | '\n' :: cs => [] :: lines cs
  | '\r' :: '\n' :: cs => [] :: lines cs
  | c :: cs => consFirst c (lines cs)

/-- The words of a text: its longest runs without white space. -/
def words : List Char → List (List Char)
  | [] => []
  | c :: cs =>
    if isBlank c then words cs
    else if (cs.head?.map isBlank).getD true then [c] :: words cs
    else consFirst c (words cs)

/-- Lines as one text, with a newline between neighbours. -/
def unlines (ls : List (List Char)) : List Char :=
  ['\n'].intercalate ls

def trimReturns (s : List Char) : List Char :=
  (s.reverse.dropWhile (· == '\r')).reverse

@[simp] theorem lines_nil : lines [] = [] := by simp [lines]

@[simp] theorem lines_newline (cs : List Char) : lines ('\n' :: cs) = [] :: lines cs := by
  simp [lines]

theorem words_cons_of_blank {c : Char} (h : isBlank c = true) (cs : List Char) :
    words (c :: cs) = words cs := by
  simp [words, h]

theorem words_eq_nil {s : List Char} (h : allBlank s = true) : words s = [] := by
  induction s with
  | nil => rfl
  | cons c cs ih =>
    simp only [allBlank, List.all_cons, Bool.and_eq_true] at h
    rw [words_cons_of_blank h.1]
    exact ih h.2

end SpirvToolchain.Text
