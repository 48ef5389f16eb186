/-! Argument lists; every change gives a new list. -/
namespace SpirvToolchain.Arguments

/-- Adds `arg` at the end unless the list holds it already. -/
def withOnce (args : List String) (arg : String) : List String :=
  if arg ∈ args then args else args ++ [arg]

/-- Drops every occurrence of `arg`. -/
def without (args : List String) (arg : String) : List String :=
  args.filter (· ≠ arg)

/-- Puts `new` for the first occurrence of `old`. -/
def replaced (args : List String) (old new : String) : List String :=
  match args with
  | [] => []
  | a :: rest => if a = old then new :: rest else a :: replaced rest old new

theorem withOnce_of_mem {args : List String} {arg : String} (h : arg ∈ args) :
    withOnce args arg = args := by
  simp [withOnce, h]

theorem replaced_append {pre : List String} {old new : String} (post : List String)
    (h : old ∉ pre) : replaced (pre ++ old :: post) old new = pre ++ new :: post := by
  induction pre with
  | nil => simp [replaced]
  | cons a rest ih =>
    simp only [List.mem_cons, not_or] at h
    simp [replaced, Ne.symm h.1, ih h.2]

end SpirvToolchain.Arguments
