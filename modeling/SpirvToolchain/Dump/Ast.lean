import SpirvToolchain.Compilation
import SpirvToolchain.Text.Word

/-! Syntax tree dumps, reduced to the declarations of the source itself. -/
namespace SpirvToolchain.Ast

open Text

/-- A space and a node's address: ` 0x` and hexadecimal digits in lower case. -/
def address : Pattern
  | ' ' :: '0' :: 'x' :: s =>
    match s.takeWhile isHexDigit with
    | [] => 0
    | ds => ds.length + 3
  | _ => 0
where
  isHexDigit (c : Char) : Bool := c.isDigit || ('a' ≤ c && c ≤ 'f')

/-- A line without terminal escapes and addresses. -/
def plain (s : List Char) : List Char := erase address (Ansi.strip s)

/-- Where a node's source range starts. -/
inductive Location
  | invalid
  | sameFile
  | file (name : List Char)
  deriving DecidableEq, Repr

def isBranch (c : Char) : Bool := c == '|' || c == ' ' || c == '`'

/-- The label of a node: what follows the branches drawn to it. -/
def label? (s : List Char) : Option (List Char) :=
  let branches := s.takeWhile isBranch
  match s.dropWhile isBranch with
  | '-' :: rest => if branches.getLast?.any (· ≠ ' ') then some rest else none
  | rest => some rest

/-- What follows the kind of a node and the mark that opens its range, up to the line's end. -/
def range? (s : List Char) : Option (List Char) := do
  let .cons c cs ← label? s | none
  if c.isAlpha then
    let .cons ' ' (.cons '<' rest) := cs.dropWhile isWord | none
    if '\n' ∈ rest then none else some rest
  else none

def Location.ofRange (s : List Char) : Location :=
  if "<invalid sloc>".toList.isPrefixOf s ∨ "scratch space".toList.isPrefixOf s then .invalid
  else if "line:".toList.isPrefixOf s ∨ "col:".toList.isPrefixOf s then .sameFile
  else if sourceName.isPrefixOf s then .file sourceName
  else .file (s.takeWhile (· ≠ ':'))

def location? (s : List Char) : Option Location := (range? s).map .ofRange

def isTopLevel (s : List Char) : Bool :=
  ['|', '-'].isPrefixOf s || ['`', '-'].isPrefixOf s

/-- A line that no branch leads to: the root of the tree. -/
def isRoot (s : List Char) : Bool := !(s.head?.any isBranch)

/-- What the lines read so far say of the next one. -/
structure Scan where
  file : Option (List Char) := none
  keep : Bool := true
  deriving DecidableEq, Repr

/-- A range names a file only where the file changes, so the last name is carried along. -/
def Scan.file? (st : Scan) : Option Location → Option (List Char)
  | some (.file name) => some name
  | some .sameFile => st.file
  | _ => none

def Scan.next (st : Scan) (s : List Char) : Scan where
  file := match location? s with
    | some (.file name) => some name
    | _ => st.file
  keep :=
    if isTopLevel s then st.file? (location? s) = some sourceName
    else if isRoot s then true
    else st.keep

def keptFrom (st : Scan) : List (List Char) → List (List Char)
  | [] => []
  | s :: rest =>
    let st := st.next s
    if st.keep then s :: keptFrom st rest else keptFrom st rest

/-- The root and the top-level declarations of the source, each with all that is below it. -/
def filter (ls : List Line) : List Line :=
  (keptFrom {} (ls.map fun l => plain l.text.toList)).map fun s => { text := String.ofList s }

/-- The filtered dump, or the compiler's complaints when it failed. -/
def process (c : Compilation) : List Line :=
  if c.success then filter c.stdout
  else { text := "Error generating AST: " ++ toString c.code } :: c.stderr

end SpirvToolchain.Ast
