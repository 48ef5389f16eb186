import SpirvToolchain.Json.Basic

/-! Reading JSON. -/
namespace SpirvToolchain.Json

def isSpace (c : Char) : Bool := c == ' ' || c == '\n' || c == '\t' || c == '\r'

def skip (s : List Char) : List Char := s.dropWhile isSpace

def hexValue? (c : Char) : Option Nat :=
  if c.isDigit then some (c.toNat - '0'.toNat)
  else if 'a' ≤ c ∧ c ≤ 'f' then some (c.toNat - 'a'.toNat + 10)
  else if 'A' ≤ c ∧ c ≤ 'F' then some (c.toNat - 'A'.toNat + 10)
  else none

def hexValues? : List Char → Option Nat
  | [] => some 0
  | ds => ds.foldlM (fun n d => (hexValue? d).map (16 * n + ·)) 0

/-- A part of a string: a character as it is, or a 16-bit unit written in hexadecimal. -/
inductive Piece
  | plain (c : Char)
  | unit (n : Nat)
  deriving DecidableEq, Repr

def escaped? : Char → Option Char
  | '"' => some '"'
  | '\\' => some '\\'
  | '/' => some '/'
  | 'b' => some '\x08'
  | 'f' => some '\x0c'
  | 'n' => some '\n'
  | 'r' => some '\r'
  | 't' => some '\t'
  | _ => none

/-- The pieces up to the closing quote, and what follows it. -/
def pieces : List Char → Option (List Piece × List Char)
  | [] => none
  | '"' :: s => some ([], s)
  | '\\' :: 'u' :: a :: b :: c :: d :: s => do
    let n ← hexValues? [a, b, c, d]
    let (ps, rest) ← pieces s
    return (.unit n :: ps, rest)
  | '\\' :: e :: s => do
    let c ← escaped? e
    let (ps, rest) ← pieces s
    return (.plain c :: ps, rest)
  | c :: s =>
    if c.toNat < 0x20 then none
    else do
      let (ps, rest) ← pieces s
      return (.plain c :: ps, rest)

def isHigh (n : Nat) : Bool := 0xD800 ≤ n && n ≤ 0xDBFF

def isLow (n : Nat) : Bool := 0xDC00 ≤ n && n ≤ 0xDFFF

/-- The characters of the pieces: two halves of a surrogate pair make one, a lone half none. -/
def joinPieces : List Piece → Option (List Char)
  | [] => some []
  | .plain c :: ps => (joinPieces ps).map (c :: ·)
  | .unit h :: .unit l :: ps =>
    if isHigh h then
      if isLow l then
        (joinPieces ps).map (Char.ofNat (0x10000 + (h - 0xD800) * 0x400 + (l - 0xDC00)) :: ·)
      else none
    else if isLow h then none
    else (joinPieces (.unit l :: ps)).map (Char.ofNat h :: ·)
  | .unit n :: ps => if isHigh n || isLow n then none else (joinPieces ps).map (Char.ofNat n :: ·)

/-- A string, after its opening quote. -/
def string (s : List Char) : Option (Text × List Char) :=
  (pieces s).map fun p => ((joinPieces p.1).map String.ofList, p.2)

/-- At least one digit. -/
def digits (s : List Char) : Option (List Char × List Char) :=
  let ds := s.takeWhile Char.isDigit
  if ds = [] then none else some (ds, s.dropWhile Char.isDigit)

def wholePart : List Char → Option (List Char × List Char)
  | '0' :: s => some (['0'], s)
  | s => digits s

def fraction : List Char → Option (List Char × List Char)
  | '.' :: s => (digits s).map fun p => ('.' :: p.1, p.2)
  | s => some ([], s)

def exponent : List Char → Option (List Char × List Char)
  | e :: s =>
    if e = 'e' ∨ e = 'E' then
      match s with
      | '+' :: s => (digits s).map fun p => (e :: '+' :: p.1, p.2)
      | '-' :: s => (digits s).map fun p => (e :: '-' :: p.1, p.2)
      | s => (digits s).map fun p => (e :: p.1, p.2)
    else some ([], e :: s)
  | [] => some ([], [])

def naturalOf (ds : List Char) : Nat :=
  ds.foldl (fun n c => 10 * n + (c.toNat - '0'.toNat)) 0

def unsigned (negative : Bool) (s : List Char) : Option (Json × List Char) := do
  let (whole, s) ← wholePart s
  let (frac, s) ← fraction s
  let (exp, s) ← exponent s
  let sign := if negative then ['-'] else []
  if frac = [] ∧ exp = [] ∧ ¬ (negative ∧ whole = ['0']) then
    let n : Int := naturalOf whole
    return (.int (if negative then -n else n), s)
  else return (.decimal (String.ofList (sign ++ whole ++ frac ++ exp)), s)

def number : List Char → Option (Json × List Char)
  | '-' :: s => unsigned true s
  | s => unsigned false s

/-- What follows `word`, with the value that the word stands for. -/
def word (w : String) (v : Json) (s : List Char) : Option (Json × List Char) :=
  (w.toList.isPrefixOf? s).map fun rest => (v, rest)

mutual

def value : Nat → List Char → Option (Json × List Char)
  | 0, _ => none
  | fuel + 1, s =>
    match skip s with
    | 'n' :: s => word "ull" .null s
    | 't' :: s => word "rue" (.bool true) s
    | 'f' :: s => word "alse" (.bool false) s
    | '"' :: s => (string s).map fun p => (.text p.1, p.2)
    | '[' :: s =>
      match skip s with
      | ']' :: s => some (.array [], s)
      | s => (items fuel s).map fun p => (.array p.1, p.2)
    | '\x7b' :: s =>
      match skip s with
      | '\x7d' :: s => some (.object [], s)
      | s => (members fuel s).map fun p => (.object p.1, p.2)
    | s => number s

/-- One value or more, up to the closing bracket. -/
def items : Nat → List Char → Option (List Json × List Char)
  | 0, _ => none
  | fuel + 1, s => do
    let (v, s) ← value fuel s
    match skip s with
    | ',' :: s =>
      let (vs, s) ← items fuel s
      return (v :: vs, s)
    | ']' :: s => return ([v], s)
    | _ => none

/-- One member or more, up to the closing brace. -/
def members : Nat → List Char → Option (List (Text × Json) × List Char)
  | 0, _ => none
  | fuel + 1, s => do
    let '"' :: s := skip s | none
    let (k, s) ← string s
    let ':' :: s := skip s | none
    let (v, s) ← value fuel s
    match skip s with
    | ',' :: s =>
      let (ms, s) ← members fuel s
      return ((k, v) :: ms, s)
    | '\x7d' :: s => return ([(k, v)], s)
    | _ => none

end

/-- Fuel that no document exhausts: a bracket and an item take a character each. -/
def fuelFor (s : List Char) : Nat := 2 * s.length + 2

/-- The value of a whole document. -/
def parse? (text : String) : Option Json := do
  let (v, rest) ← value (fuelFor text.toList) text.toList
  if skip rest = [] then some v else none

end SpirvToolchain.Json
