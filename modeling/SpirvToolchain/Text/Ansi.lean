import SpirvToolchain.Text.Search

/-! Terminal escape sequences: removing those a tool printed, adding colour to our own lines. -/
namespace SpirvToolchain.Text.Ansi

def escape : Char := '\x1b'

def isParameter (c : Char) : Bool := c.isDigit || c == ';'

/-- `ESC [`, then digits and semicolons, then an ASCII letter. -/
def sequence : Pattern
  | e :: '[' :: s =>
    if e = escape then
      match s.dropWhile isParameter with
      | c :: _ => if c.isAlpha then (s.takeWhile isParameter).length + 3 else 0
      | [] => 0
    else 0
  | _ => 0

/-- Removes every escape sequence, in one pass from the left. -/
def strip (s : List Char) : List Char := erase sequence s

inductive Style
  | red | green | yellow | blue | bold
  deriving DecidableEq, Repr

def Style.code : Style → String
  | .bold => "1"
  | .red => "31"
  | .green => "32"
  | .yellow => "33"
  | .blue => "34"

/-- `text` in the given style, or as it is when colours are off. -/
def paint (colours : Bool) (style : Style) (text : String) : String :=
  if colours then
    String.singleton escape ++ "[" ++ style.code ++ "m" ++ text ++ String.singleton escape ++ "[0m"
  else text

end SpirvToolchain.Text.Ansi
