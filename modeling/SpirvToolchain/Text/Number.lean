/-! Decimal numbers as text, bounded by the word that holds them. -/
namespace SpirvToolchain.Text

def digitsValue (ds : List Char) : Nat :=
  ds.foldl (fun n c => 10 * n + (c.toNat - '0'.toNat)) 0

/-- The number `ds` writes: ASCII digits, at least one, below `2 ^ 32`. -/
def word32? (ds : List Char) : Option Nat :=
  if ds ≠ [] ∧ ds.all Char.isDigit ∧ digitsValue ds < 0x100000000 then some (digitsValue ds) else none

end SpirvToolchain.Text
