import SpirvToolchain.Process
import SpirvToolchain.Text.Ansi
import SpirvToolchain.Text.Digit
import SpirvToolchain.Text.Lines
import SpirvToolchain.Text.Number

/-! What a request came to: the tools' output as lines, with the places they point at. -/
namespace SpirvToolchain

open Text

/-- The place in the source that a line is about, and what it says of it. -/
structure Tag where
  line : Nat
  column : Option Nat
  text : String
  deriving DecidableEq, Repr

structure Line where
  text : String
  tag : Option Tag := none
  deriving DecidableEq, Repr

/-- Stands in the output for the path of the source. -/
def sourceName : List Char := "<source>".toList

/--
Reads `<source>:LINE:COLUMN: text` or `<source>:LINE: text`. Digits of any script belong to a
number, but only ASCII ones below `2 ^ 32` have a value: without a line there is no tag.
-/
def Tag.parse? (s : List Char) : Option Tag := do
  let rest ← (sourceName ++ [':']).isPrefixOf? s
  let .cons ':' after := rest.dropWhile isDigit | none
  let line ← word32? (rest.takeWhile isDigit)
  match after.takeWhile isDigit, after.dropWhile isDigit with
  | c :: cs, ':' :: text => some ⟨line, word32? (c :: cs), String.ofList (trimStart text)⟩
  | _, _ => some ⟨line, none, String.ofList (trimStart after)⟩

/-- One line as reports show it, unless it is blank. -/
def Line.ofRaw? (input : Option String) (raw : List Char) : Option Line :=
  let plain := Ansi.strip (trimReturns raw)
  let shown := match input with
    | some path => if path = "" then plain else replace (literal path.toList) sourceName plain
    | none => plain
  if allBlank shown then none else some ⟨String.ofList shown, Tag.parse? shown⟩

/--
The lines of a tool's output that are not blank, free of terminal escapes, with the input path
shown as `<source>`.
-/
def parseOutput (text : String) (input : Option String) : List Line :=
  (lines text.toList).filterMap (Line.ofRaw? input)

def joinLines (ls : List Line) : String :=
  String.ofList (unlines (ls.map (·.text.toList)))

structure Compilation where
  code : Int := 0
  stdout : List Line := []
  stderr : List Line := []
  /-- The path of the source, as a text: a path that is no Unicode text has no place here. -/
  inputFilename : Option String := none
  timedOut : Bool := false
  truncated : Bool := false
  deriving DecidableEq, Repr

namespace Compilation

def ofOutput (o : ExecOutput) (input : String) : Compilation where
  code := o.code
  stdout := parseOutput o.stdout (some input)
  stderr := parseOutput o.stderr (some input)
  inputFilename := some input
  timedOut := o.timedOut
  truncated := o.truncated

/-- Adds the output of a later tool and takes over its exit code. -/
def append (c : Compilation) (o : ExecOutput) : Compilation where
  code := o.code
  stdout := c.stdout ++ parseOutput o.stdout c.inputFilename
  stderr := c.stderr ++ parseOutput o.stderr c.inputFilename
  inputFilename := c.inputFilename
  timedOut := c.timedOut || o.timedOut
  truncated := c.truncated || o.truncated

def success (c : Compilation) : Bool := c.code = 0

def stdoutText (c : Compilation) : String := joinLines c.stdout

def stderrText (c : Compilation) : String := joinLines c.stderr

end Compilation

end SpirvToolchain
