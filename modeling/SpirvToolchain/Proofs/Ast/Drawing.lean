import SpirvToolchain.Proofs.Ast.Address
import SpirvToolchain.Proofs.Text.Ansi

/-! Trees as the compiler draws them, and what is left of a drawing without escapes. -/
namespace SpirvToolchain.Ast

open Text

inductive Node
  | node (label : List Char) (children : List Node)

def Node.label : Node → List Char
  | node label _ => label

def Node.children : Node → List Node
  | node _ children => children

/-- The branch to a child. -/
def branch (last : Bool) : List Char := if last then ['`', '-'] else ['|', '-']

/-- What stands below the branch to a child, before all that is below that child. -/
def column (last : Bool) : List Char := if last then [' ', ' '] else ['|', ' ']

mutual

/-- The lines below a node, which tells for itself and those above it which ones come last. -/
def Node.descendants (lasts : List Bool) : Node → List (List Char)
  | .node _ children => drawn lasts children

def drawn (lasts : List Bool) : List Node → List (List Char)
  | [] => []
  | n :: ns =>
    (lasts.flatMap column ++ branch ns.isEmpty ++ n.label)
      :: n.descendants (lasts ++ [ns.isEmpty]) ++ drawn lasts ns

end

/-- A tree as the compiler draws it: no branch leads to the root. -/
def Node.drawing (t : Node) : List (List Char) := t.label :: drawn [] t.children

/-- A child of the root, with all that is drawn above it. -/
structure Child where
  above : List (List Char)
  last : Bool
  node : Node

def Child.line (c : Child) : List Char := branch c.last ++ c.node.label

def Child.descendants (c : Child) : List (List Char) := c.node.descendants [c.last]

def Child.lines (c : Child) : List (List Char) := c.line :: c.descendants

def childrenFrom (above : List (List Char)) : List Node → List Child
  | [] => []
  | n :: ns =>
    let c : Child := ⟨above, ns.isEmpty, n⟩
    c :: childrenFrom (above ++ c.lines) ns

/-- The children of the root, in order. -/
def Node.drawnChildren (t : Node) : List Child := childrenFrom [t.label] t.children

theorem drawn_nil (above : List (List Char)) (ns : List Node) :
    drawn [] ns = (childrenFrom above ns).flatMap Child.lines := by
  induction ns generalizing above with
  | nil => rfl
  | cons n ns ih =>
    rw [drawn, childrenFrom, List.flatMap_cons, ← ih]
    rfl

theorem Node.drawing_eq (t : Node) :
    t.drawing = t.label :: t.drawnChildren.flatMap Child.lines := by
  rw [drawing, drawn_nil [t.label], drawnChildren]

/-- The lines below a child are drawn right of the column of that child. -/
def Indented (line : List Char) : Prop :=
  ∃ last c rest, isBranch c = true ∧ line = column last ++ c :: rest

theorem starts_with_branch (lasts : List Bool) (last : Bool) (label : List Char) :
    ∃ c rest, isBranch c = true ∧ lasts.flatMap column ++ branch last ++ label = c :: rest := by
  cases lasts with
  | nil => cases last <;> exact ⟨_, _, by decide, rfl⟩
  | cons next lasts => cases next <;> exact ⟨_, _, by decide, rfl⟩

theorem indented_cons (last : Bool) (lasts : List Bool) (last' : Bool) (label : List Char) :
    Indented ((last :: lasts).flatMap column ++ branch last' ++ label) := by
  obtain ⟨c, rest, hc, hrest⟩ := starts_with_branch lasts last' label
  exact ⟨last, c, rest, hc, by simp [← hrest]⟩

mutual

theorem Node.indented_of_mem_descendants {line : List Char} (last : Bool) (lasts : List Bool) :
    ∀ n : Node, line ∈ n.descendants (last :: lasts) → Indented line
  | .node _ children, h => indented_of_mem_drawn last lasts children (by simpa [Node.descendants] using h)

theorem indented_of_mem_drawn {line : List Char} (last : Bool) (lasts : List Bool) :
    ∀ ns : List Node, line ∈ drawn (last :: lasts) ns → Indented line
  | [], h => by simp [drawn] at h
  | n :: ns, h => by
    simp only [drawn, List.cons_append, List.mem_cons, List.mem_append] at h
    rcases h with rfl | h | h
    · exact indented_cons last lasts _ _
    · exact n.indented_of_mem_descendants last _ h
    · exact indented_of_mem_drawn last lasts ns h

end

variable {c : Char} {s : List Char}

theorem plain_cons (hc : c ≠ Ansi.escape) (hblank : c ≠ ' ') (s : List Char) :
    plain (c :: s) = c :: plain s := by
  rw [plain, Ansi.strip_cons hc, erase, replace_cons_of_no_match (address_cons hblank _)]
  rfl

/-- A blank goes only where it starts an address. -/
theorem plain_blank_cons (hc : c ≠ Ansi.escape) (hzero : c ≠ '0') (s : List Char) :
    plain (' ' :: c :: s) = ' ' :: plain (c :: s) := by
  have haddress : address (' ' :: c :: Ansi.strip s) = 0 := by
    unfold address
    split <;> simp_all
  rw [plain, Ansi.strip_cons (by decide), Ansi.strip_cons hc, erase, replace_cons_of_no_match haddress,
    plain, Ansi.strip_cons hc]
  rfl

theorem plain_blank_branch (hc : isBranch c = true) (s : List Char) :
    plain (' ' :: c :: s) = ' ' :: plain (c :: s) := by
  refine plain_blank_cons ?_ ?_ s
  · rintro rfl
    simp [isBranch, Ansi.escape] at hc
  · rintro rfl
    simp [isBranch] at hc

theorem plain_branch (last : Bool) (s : List Char) :
    plain (branch last ++ s) = branch last ++ plain s := by
  cases last <;>
    exact (plain_cons (by decide) (by decide) _).trans
      (congrArg _ (plain_cons (by decide) (by decide) _))

theorem plain_column (hc : isBranch c = true) (last : Bool) (s : List Char) :
    plain (column last ++ c :: s) = column last ++ plain (c :: s) := by
  -- The last blank of a column stands before a branch or another column, never before a label.
  cases last with
  | false =>
    exact (plain_cons (by decide) (by decide) _).trans (congrArg _ (plain_blank_branch hc s))
  | true =>
    exact (plain_blank_branch (by decide) _).trans (congrArg _ (plain_blank_branch hc s))

theorem isTopLevel_plain_branch (last : Bool) (s : List Char) :
    isTopLevel (plain (branch last ++ s)) = true := by
  rw [plain_branch]
  cases last <;> rfl

/-- A line below a child opens neither a declaration nor a tree. -/
theorem Indented.plain_eq {line : List Char} (h : Indented line) :
    isTopLevel (plain line) = false ∧ isRoot (plain line) = false := by
  obtain ⟨last, c, rest, hc, rfl⟩ := h
  rw [plain_column hc]
  cases last <;> exact ⟨rfl, rfl⟩

end SpirvToolchain.Ast
