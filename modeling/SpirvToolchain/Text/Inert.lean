import SpirvToolchain.Text.Quoted

/-! Text that is safe on a terminal: characters that could start a command to it are spelled out. -/
namespace SpirvToolchain.Text.Inert

/-- Bell, backspace, form feed, escape and delete, and every control character outside ASCII. -/
def steers (c : Char) : Bool :=
  c ∈ ['\x07', '\x08', '\x0c', '\x1b', '\x7f'] || (0x80 ≤ c.toNat && c.toNat < 0xA0)

/-- The character as its code, in two hexadecimal digits within ASCII. -/
def spell (c : Char) : List Char :=
  if c.toNat < 0x80 then
    ['\\', 'x', Nat.digitChar (c.toNat / 16), Nat.digitChar (c.toNat % 16)]
  else Quoted.codePoint c

def encodeChar (c : Char) : List Char := if steers c then spell c else [c]

def encode (s : List Char) : List Char := s.flatMap encodeChar

end SpirvToolchain.Text.Inert

namespace SpirvToolchain.Text

def inert (s : String) : String := String.ofList (Inert.encode s.toList)

end SpirvToolchain.Text
