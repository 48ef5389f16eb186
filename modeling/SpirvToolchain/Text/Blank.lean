import SpirvToolchain.Text.CodePoints

/-! White space: the characters with the property White_Space. -/
namespace SpirvToolchain.Text

/-- White space outside ASCII. -/
def wideBlanks : CodePoints :=
  [(0x85, 0x85), (0xA0, 0xA0), (0x1680, 0x1680), (0x2000, 0x200A), (0x2028, 0x2029),
   (0x202F, 0x202F), (0x205F, 0x205F), (0x3000, 0x3000)]

def isBlank (c : Char) : Bool :=
  if c.toNat < 128 then c == ' ' || (9 ≤ c.toNat && c.toNat ≤ 13) else wideBlanks.has c

def trimStart (s : List Char) : List Char :=
  s.dropWhile isBlank

/-- A text with nothing but white space in it. -/
def allBlank (s : List Char) : Bool :=
  s.all isBlank

theorem isBlank_space : isBlank ' ' = true := by decide

theorem isBlank_newline : isBlank '\n' = true := by decide

theorem isBlank_return : isBlank '\r' = true := by decide

end SpirvToolchain.Text
