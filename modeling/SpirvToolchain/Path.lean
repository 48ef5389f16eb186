/-! Paths as text: joining, the last name and the directory above. -/
namespace SpirvToolchain.Path

def separator : Char := '/'

def isAbsolute (p : List Char) : Bool := p.head? == some separator

/-- The pieces between separators; there is always one more piece than separators. -/
def segments : List Char → List (List Char)
  | [] => [[]]
  | c :: cs =>
    if c = separator then [] :: segments cs
    else match segments cs with
      | [] => [[c]]
      | s :: rest => (c :: s) :: rest

def unsegments (ss : List (List Char)) : List Char :=
  [separator].intercalate ss

/-- A segment that names nothing: an empty one, or a dot. -/
def isIdle (s : List Char) : Bool := s = [] || s = ['.']

/-- Without the idle segments at the end. -/
def dropIdle (ss : List (List Char)) : List (List Char) :=
  (ss.reverse.dropWhile isIdle).reverse

/-- The root, or a dot that leads a relative path; both stay whatever follows them. -/
def head (p : List Char) : List Char :=
  if isAbsolute p then [separator]
  else if p = ['.'] ∨ ['.', separator].isPrefixOf p then ['.']
  else []

def body (p : List Char) : List (List Char) :=
  dropIdle (segments (p.drop (head p).length))

/-- The last name of a path, unless the path ends at the root or going up. -/
def nameOf? (p : List Char) : Option (List Char) :=
  (body p).getLast?.filter (· ≠ ['.', '.'])

/-- The path without its last part; the root and the empty path have none. -/
def directoryOf? (p : List Char) : Option (List Char) :=
  match body p with
  | [] => if head p = ['.'] then some [] else none
  | b :: bs => some (head p ++ unsegments (dropIdle (b :: bs).dropLast))

/-- `p` looked up in `dir`; an absolute `p` stands on its own. -/
def joinOf (dir p : List Char) : List Char :=
  if isAbsolute p ∨ dir = [] then p
  else if dir.getLast? = some separator then dir ++ p
  else dir ++ separator :: p

def join (dir p : String) : String := String.ofList (joinOf dir.toList p.toList)

def parent? (p : String) : Option String := (directoryOf? p.toList).map String.ofList

/-- The directory of a path, empty when it has none. -/
def parent (p : String) : String := (parent? p).getD ""

def fileName? (p : String) : Option String := (nameOf? p.toList).map String.ofList

theorem segments_ne_nil (p : List Char) : segments p ≠ [] := by
  cases p with
  | nil => simp [segments]
  | cons c cs => simp only [segments]; split <;> (try split) <;> simp

theorem unsegments_segments (p : List Char) : unsegments (segments p) = p := by
  induction p with
  | nil => rfl
  | cons c cs ih =>
    simp only [segments]
    have hne := segments_ne_nil cs
    split
    · next h =>
      subst h
      cases hs : segments cs with
      | nil => exact absurd hs hne
      | cons s rest =>
        rw [hs] at ih
        cases rest <;> simp_all [unsegments, List.intercalate, List.intersperse]
    · cases hs : segments cs with
      | nil => exact absurd hs hne
      | cons s rest =>
        rw [hs] at ih
        cases rest <;> simp_all [unsegments, List.intercalate, List.intersperse]

end SpirvToolchain.Path
