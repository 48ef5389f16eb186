import SpirvToolchain.Dump
import SpirvToolchain.Json.Printer

/-! What the user sees of a result: lines in colour on two streams, or one JSON document. -/
namespace SpirvToolchain

/-- Text for the two output streams. -/
structure Printout where
  stdout : String := ""
  stderr : String := ""
  deriving DecidableEq, Repr

namespace Printout

def append (a b : Printout) : Printout := ⟨a.stdout ++ b.stdout, a.stderr ++ b.stderr⟩

instance : Append Printout := ⟨append⟩

def onStdout (text : String) : Printout := { stdout := text }

def onStderr (text : String) : Printout := { stderr := text }

end Printout

namespace Tag

/-- Errors are red, warnings yellow, other lines about the source bold. -/
def style (t : Tag) : Text.Ansi.Style :=
  if "error".toList.isPrefixOf t.text.toList then .red
  else if "warning".toList.isPrefixOf t.text.toList then .yellow
  else .bold

def toJson (t : Tag) : Json :=
  .record [("line", .nat t.line), ("column", t.column.elim .null Json.nat), ("text", .str t.text)]

end Tag

namespace Line

def render (colours : Bool) (l : Line) : String :=
  match l.tag with
  | some t => Text.Ansi.paint colours t.style l.text
  | none => l.text

/-- A line without a tag has no member for one. -/
def toJson (l : Line) : Json :=
  .record (("text", .str l.text) :: (l.tag.map fun t => ("tag", t.toJson)).toList)

end Line

/-- Each line with a newline after it. -/
def renderLines (colours : Bool) (ls : List Line) : String :=
  String.join (ls.map fun l => l.render colours ++ "\n")

/--
A document, with a line end after it. It can always be written: a path is a text here, so the one
value that has no document, a path that is no Unicode text, does not occur.
-/
def printJson (v : Json) : Printout := .onStdout (v.print ++ "\n")

namespace Compilation

/-- The lines of each stream on its own stream, then what is wrong with the run as a whole. -/
def render (colours : Bool) (c : Compilation) : Printout where
  stdout := renderLines colours c.stdout
  stderr :=
    renderLines colours c.stderr
      ++ (if c.timedOut then Text.Ansi.paint colours .red "✗" ++ " Process timed out\n" else "")
      ++ (if c.truncated then Text.Ansi.paint colours .blue "ℹ" ++ " Output was truncated\n" else "")

def members (c : Compilation) : List (String × Json) :=
  [("code", .int c.code),
    ("stdout", .array (c.stdout.map Line.toJson)),
    ("stderr", .array (c.stderr.map Line.toJson)),
    ("input_filename", c.inputFilename.elim .null Json.str),
    ("timed_out", .bool c.timedOut),
    ("truncated", .bool c.truncated)]

/-- The result with the text it led to, which has no member when there is none. -/
def report (c : Compilation) (spirv : Option String) : Json :=
  .record (c.members ++ (spirv.map fun s => ("spirv", Json.str s)).toList)

end Compilation

namespace Dump

def toJson (d : Dump) : Json :=
  .record [("code", .int d.code), ("lines", .array (d.lines.map Line.toJson))]

/-- The dump itself is output, the complaints of a compiler that failed are not. -/
def render (colours : Bool) (d : Dump) : Printout :=
  if d.success then .onStdout (renderLines colours d.lines)
  else .onStderr (renderLines colours d.lines)

def print (colours json : Bool) (d : Dump) : Printout :=
  if json then printJson d.toJson else d.render colours

end Dump

end SpirvToolchain
