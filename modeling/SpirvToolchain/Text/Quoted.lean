import SpirvToolchain.Text.Graphic

/-! Quoted text, as messages show a value a user gave. -/
namespace SpirvToolchain.Text.Quoted

/-- The code point in lower-case hexadecimal, between braces. -/
def codePoint (c : Char) : List Char :=
  '\\' :: 'u' :: '\x7b' :: (Nat.toDigits 16 c.toNat ++ ['\x7d'])

def encodeChar (c : Char) : List Char :=
  if c = '"' then ['\\', '"']
  else if c = '\\' then ['\\', '\\']
  else if c = '\n' then ['\\', 'n']
  else if c = '\r' then ['\\', 'r']
  else if c = '\t' then ['\\', 't']
  else if c = '\x00' then ['\\', '0']
  else if isGraphic c then [c]
  else codePoint c

/-- Between double quotes; a character that is not graphic is written as its code point. -/
def encode (s : List Char) : List Char :=
  '"' :: (s.flatMap encodeChar ++ ['"'])

end SpirvToolchain.Text.Quoted

namespace SpirvToolchain.Text

def quote (s : String) : String := String.ofList (Quoted.encode s.toList)

/-- A value that may be absent: `Some("x")` or `None`. -/
def quoteOption : Option String → String
  | some s => "Some(" ++ quote s ++ ")"
  | none => "None"

end SpirvToolchain.Text
