/-! The spelling of TOML: blanks, comments, keys and strings. -/
namespace SpirvToolchain.Toml

/-- What was read, and what follows it. -/
abbrev Reading (α : Type) := α × List Char

def isSpace (c : Char) : Bool := c == ' ' || c == '\t'

def skipSpace (s : List Char) : List Char := s.dropWhile isSpace

/-- Characters that stand for themselves in comments and strings: no controls but the tab. -/
def isPrintable (c : Char) : Bool := c == '\t' || (0x20 ≤ c.toNat && c.toNat ≠ 0x7F)

/-- Past a newline, if one is here. -/
def newline? : List Char → Option (List Char)
  | '\n' :: s => some s
  | '\r' :: '\n' :: s => some s
  | _ => none

/-- Past a newline, or at the end. -/
def lineEnd? : List Char → Option (List Char)
  | [] => some []
  | s => newline? s

/-- Past a comment, if one is here. -/
def skipComment : List Char → List Char
  | '#' :: s => s.dropWhile isPrintable
  | s => s

/-- Past the rest of a line that may hold blanks and a comment. -/
def lineRest? (s : List Char) : Option (List Char) := lineEnd? (skipComment (skipSpace s))

/-- Past blanks, newlines and comments, as between the items of an array. -/
def skipLines (inComment : Bool) : List Char → Option (List Char)
  | [] => if inComment then none else some []
  | '\n' :: s => skipLines false s
  | '\r' :: '\n' :: s => skipLines false s
  | c :: s =>
    if inComment then (if isPrintable c then skipLines true s else none)
    else if isSpace c then skipLines false s
    else if c = '#' then skipLines true s
    else if c = '\r' then none
    else some (c :: s)

def isHex (c : Char) : Bool :=
  c.isDigit || ('a' ≤ c && c ≤ 'f') || ('A' ≤ c && c ≤ 'F')

def digitValue (c : Char) : Nat :=
  if c.isDigit then c.toNat - '0'.toNat
  else if 'a' ≤ c then c.toNat - 'a'.toNat + 10
  else c.toNat - 'A'.toNat + 10

/-- The number that digits write in a base. -/
def numberOf (base : Nat) (ds : List Char) : Nat :=
  ds.foldl (fun n d => base * n + digitValue d) 0

/-- The character of a code point in hexadecimal; surrogates are none. -/
def charOf? (ds : List Char) : Option Char :=
  let n := numberOf 16 ds
  if ds.all isHex ∧ (n < 0xD800 ∨ (0xDFFF < n ∧ n < 0x110000)) then some (Char.ofNat n) else none

def escaped? : Char → Option Char
  | 'b' => some '\x08'
  | 't' => some '\t'
  | 'n' => some '\n'
  | 'f' => some '\x0c'
  | 'r' => some '\r'
  | '"' => some '"'
  | '\\' => some '\\'
  | _ => none

def prepend (c : Char) (r : Option (Reading (List Char))) : Option (Reading (List Char)) :=
  r.map fun p => (c :: p.1, p.2)

/-- The body of a string in double quotes, on one line. -/
def basicBody : List Char → Option (Reading (List Char))
  | [] => none
  | '"' :: s => some ([], s)
  | '\\' :: 'u' :: a :: b :: c :: d :: s =>
    (charOf? [a, b, c, d]).bind fun x => prepend x (basicBody s)
  | '\\' :: 'U' :: a :: b :: c :: d :: e :: f :: g :: h :: s =>
    (charOf? [a, b, c, d, e, f, g, h]).bind fun x => prepend x (basicBody s)
  | '\\' :: e :: s => (escaped? e).bind fun x => prepend x (basicBody s)
  | c :: s => if isPrintable c then prepend c (basicBody s) else none

/-- The body of a string in single quotes, on one line. -/
def literalBody : List Char → Option (Reading (List Char))
  | [] => none
  | c :: s =>
    if c = '\'' then some ([], s)
    else if isPrintable c then prepend c (literalBody s)
    else none

/-- At most two more quotes right after the three that close a string belong to it. -/
def closing (quote : Char) : List Char → List Char × List Char
  | a :: b :: s =>
    if a = quote then (if b = quote then ([a, b], s) else ([a], b :: s)) else ([], a :: b :: s)
  | [a] => if a = quote then ([a], []) else ([], [a])
  | [] => ([], [])

/-- Whether a backslash here ends the line, so that the blanks up to the next text go with it. -/
def endsLine (s : List Char) : Bool := (newline? (skipSpace s)).isSome

/-- The body of a string in three double quotes; `joining` skips blanks after a joined line. -/
def basicLines (joining : Bool) : List Char → Option (Reading (List Char))
  | [] => none
  | '"' :: '"' :: '"' :: s => some (closing '"' s)
  | '\n' :: s => if joining then basicLines true s else prepend '\n' (basicLines false s)
  | '\r' :: '\n' :: s => if joining then basicLines true s else prepend '\n' (basicLines false s)
  | '\\' :: 'u' :: a :: b :: c :: d :: s =>
    (charOf? [a, b, c, d]).bind fun x => prepend x (basicLines false s)
  | '\\' :: 'U' :: a :: b :: c :: d :: e :: f :: g :: h :: s =>
    (charOf? [a, b, c, d, e, f, g, h]).bind fun x => prepend x (basicLines false s)
  | '\\' :: e :: s =>
    if endsLine (e :: s) then basicLines true (e :: s)
    else (escaped? e).bind fun x => prepend x (basicLines false s)
  | c :: s =>
    if joining && isSpace c then basicLines true s
    else if isPrintable c then prepend c (basicLines false s)
    else none

/-- The body of a string in three single quotes. -/
def literalLines : List Char → Option (Reading (List Char))
  | [] => none
  | '\'' :: '\'' :: '\'' :: s => some (closing '\'' s)
  | '\n' :: s => prepend '\n' (literalLines s)
  | '\r' :: '\n' :: s => prepend '\n' (literalLines s)
  | c :: s => if isPrintable c then prepend c (literalLines s) else none

def asText (r : Option (Reading (List Char))) : Option (Reading String) := r.map fun p => (String.ofList p.1, p.2)

/-- A newline right after the opening quotes is not part of the string. -/
def afterOpening (s : List Char) : List Char := (newline? s).getD s

def string : List Char → Option (Reading String)
  | '"' :: '"' :: '"' :: s => asText (basicLines false (afterOpening s))
  | '"' :: s => asText (basicBody s)
  | '\'' :: '\'' :: '\'' :: s => asText (literalLines (afterOpening s))
  | '\'' :: s => asText (literalBody s)
  | _ => none

def isBare (c : Char) : Bool := c.isAlphanum || c == '_' || c == '-'

def simpleKey : List Char → Option (Reading String)
  | '"' :: s => asText (basicBody s)
  | '\'' :: s => asText (literalBody s)
  | s =>
    let name := s.takeWhile isBare
    if name = [] then none else some (String.ofList name, s.dropWhile isBare)

/-- The deepest nesting of values, and the longest dotted key, stay below this. -/
def depthLimit : Nat := 80

/-- Keys with dots between them; `fuel` bounds their number. -/
def dottedKey : Nat → List Char → Option (Reading (List String))
  | 0, _ => none
  | fuel + 1, s => do
    let (key, s) ← simpleKey (skipSpace s)
    match skipSpace s with
    | '.' :: s =>
      let (path, s) ← dottedKey fuel s
      return (key :: path, s)
    | s => return ([key], s)

/-- A key, as the path to it and its own name. -/
def key (s : List Char) : Option (Reading (List String × String)) := do
  let (path, s) ← dottedKey (depthLimit - 1) s
  let last ← path.getLast?
  return ((path.dropLast, last), s)

end SpirvToolchain.Toml
