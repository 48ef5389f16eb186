import SpirvToolchain.Compilation
import SpirvToolchain.Request
import SpirvToolchain.Text.Word

/-! Intermediate representation as text, filtered line by line. -/
namespace SpirvToolchain.Ir

open Text

def isNameChar (c : Char) : Bool := isWord c || c == '.'

def isDefinedNameChar (c : Char) : Bool := isNameChar c || c == '-'

/-- A line that defines metadata: `!name =`, with white space around. -/
def isMetadataDefinition (s : List Char) : Bool :=
  match trimStart s with
  | '!' :: c :: rest =>
    isDefinedNameChar c && (trimStart (rest.dropWhile isDefinedNameChar)).head? == some '='
  | _ => false

/-- A line that starts a group of attributes: `attributes #N`. -/
def isAttributeGroup (s : List Char) : Bool :=
  match "attributes #".toList.isPrefixOf? s with
  | some rest => rest.head?.any isDigit
  | none => false

/-- A comma and the metadata it attaches: `, !name !N`. -/
def attachment : Pattern
  | ',' :: s =>
    match trimStart s with
    | '!' :: name =>
      let run := name.takeWhile isNameChar
      match name.dropWhile isNameChar with
      | ' ' :: '!' :: ds =>
        if run ≠ [] ∧ ds.head?.any isDigit then
          (s.takeWhile isBlank).length + run.length + (ds.takeWhile isDigit).length + 4
        else 0
      | _ => 0
    | _ => 0
  | _ => 0

def isDirective (s : List Char) : Bool := isMetadataDefinition s || isAttributeGroup s

def isDebugCall (s : List Char) : Bool :=
  occursIn "@llvm.dbg.".toList (trimStart s) || "#dbg_".toList.isPrefixOf (trimStart s)

def isComment (s : List Char) : Bool := (trimStart s).head? == some ';'

/-- Whether a line stays at all. -/
def keeps (f : Filters) (s : List Char) : Bool :=
  !(f.directives && isDirective s) && !(f.debugCalls && isDebugCall s)
    && !(f.commentOnly && isComment s)

/-- The words of a line with one space between them, indented by two if it was indented. -/
def squash (s : List Char) : List Char :=
  let text := [' '].intercalate (words s)
  if s.head?.any isBlank && !text.isEmpty then ' ' :: ' ' :: text else text

/-- What is left of a line that stays. -/
def reduce (f : Filters) (s : List Char) : List Char :=
  let text := if f.directives then erase attachment s else s
  if f.trim then squash text else text

/-- Runs of blank lines become one, or none when trimming; none stays at the start. -/
def dropBlanks (trim : Bool) (previousBlank : Bool) : List (List Char) → List (List Char)
  | [] => []
  | s :: rest =>
    if allBlank s then
      if trim || previousBlank then dropBlanks trim previousBlank rest
      else s :: dropBlanks trim true rest
    else s :: dropBlanks trim false rest

def dropBlankEnd (ls : List (List Char)) : List (List Char) :=
  (ls.reverse.dropWhile allBlank).reverse

/-- The lines left of a text. -/
def filter (f : Filters) (ir : List Char) : List (List Char) :=
  dropBlankEnd (dropBlanks f.trim true (((lines ir).filter (keeps f)).map (reduce f)))

/-- The filtered lines; a text with a NUL in it is no text. -/
def process (ir : String) (f : Filters) : Except Failure (List Line) :=
  if '\x00' ∈ ir.toList then
    .error (.postProcessing "IR output is binary, expected textual LLVM IR")
  else .ok ((filter f ir.toList).map fun s => { text := String.ofList s })

end SpirvToolchain.Ir
