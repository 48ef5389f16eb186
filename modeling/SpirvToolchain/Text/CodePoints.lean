/-! Sets of characters, written as inclusive ranges of code points. -/
namespace SpirvToolchain.Text

abbrev CodePoints := List (Nat × Nat)

def CodePoints.has (s : CodePoints) (c : Char) : Bool :=
  s.any fun r => r.1 ≤ c.toNat && c.toNat ≤ r.2

theorem CodePoints.has_iff {s : CodePoints} {c : Char} :
    s.has c = true ↔ ∃ r ∈ s, r.1 ≤ c.toNat ∧ c.toNat ≤ r.2 := by
  simp [CodePoints.has]

end SpirvToolchain.Text
