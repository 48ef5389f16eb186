import SpirvToolchain.Text.Utf8

/-! Scripts: files whose first line names the program that is to run them. -/
namespace SpirvToolchain

open Text (Utf8.Octets)

/-- The path of an interpreter, and what it is given before the path of the script. -/
structure Interpreter where
  path : String
  argument : Option String := none
  deriving DecidableEq, Repr

namespace Interpreter

def isSpace (b : UInt8) : Bool := b = 0x20 || b = 0x09

def trimEnd (line : Utf8.Octets) : Utf8.Octets := (line.reverse.dropWhile isSpace).reverse

def textOf (octets : Utf8.Octets) : String := String.ofList (Text.Utf8.decodeLossy octets)

/-- Octets at the start of a file in which the name of an interpreter has to end. -/
def window : Nat := 256

/-- The name goes up to the first space; all that follows is one argument. -/
def ofLine (line : Utf8.Octets) : Interpreter where
  path := textOf (line.takeWhile (!isSpace ·))
  argument :=
    let rest := line.dropWhile (!isSpace ·)
    if rest = [] then none else some (textOf (rest.dropWhile isSpace))

/-- A line without the spaces at its end, which has to hold a name. -/
def ofTrimmed? (line : Utf8.Octets) : Option Interpreter :=
  if trimEnd line = [] then none else some (ofLine (trimEnd line))

/--
The interpreter of a script, after `#!`. A line that fills the window is cut inside the name, and
names nothing, unless a space ends that; its last octet is passed over. A line that the file or a
null octet cuts short of that is taken as it is, even when it is empty.
-/
def parse? : Utf8.Octets → Option Interpreter
  | 0x23 :: 0x21 :: rest =>
    let seen := rest.take (window - 2)
    let first := seen.takeWhile fun b => b ≠ 0x0A && b ≠ 0x00
    let line := first.dropWhile isSpace
    if seen[first.length]? = some 0x0A then ofTrimmed? line
    else if first.length < window - 3 then some (ofLine line)
    else if first.length = window - 2 && line.all (!isSpace ·) then none
    else ofTrimmed? ((first.take (window - 3)).dropWhile isSpace)
  | _ => none

end Interpreter

end SpirvToolchain
