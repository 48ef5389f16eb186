import SpirvToolchain.Toml.Text
import SpirvToolchain.Toml.Value

/-! Numbers, dates and truth values of TOML. -/
namespace SpirvToolchain.Toml

/-- Digits with single underscores between them, after the first. -/
def moreDigits (ok : Char → Bool) : List Char → Option (Reading (List Char))
  | [] => some ([], [])
  | ['_'] => none
  | '_' :: c :: s => if ok c then prepend c (moreDigits ok s) else none
  | c :: s => if ok c then prepend c (moreDigits ok s) else some ([], c :: s)

def digits (ok : Char → Bool) : List Char → Option (Reading (List Char))
  | [] => none
  | c :: s => if ok c then prepend c (moreDigits ok s) else none

/-- A sign, if there is one: whether it is a minus, and the rest. -/
def sign : List Char → Bool × List Char
  | '-' :: s => (true, s)
  | '+' :: s => (false, s)
  | s => (false, s)

/-- Digits of a decimal number; a leading zero stands alone. -/
def decimalDigits : List Char → Option (Reading (List Char))
  | '0' :: s => some (['0'], s)
  | s => digits Char.isDigit s

/-- A whole number, if it fits a signed 64-bit word. -/
def fitting (i : Int) (s : List Char) : Option (Reading Value) :=
  if -0x8000000000000000 ≤ i ∧ i < 0x8000000000000000 then some (.int i, s) else none

def inBase (base : Nat) (ok : Char → Bool) (s : List Char) : Option (Reading Value) :=
  (digits ok s).bind fun p => fitting (numberOf base p.1) p.2

def integer : List Char → Option (Reading Value)
  | '0' :: 'x' :: s => inBase 16 isHex s
  | '0' :: 'o' :: s => inBase 8 (fun c => '0' ≤ c && c ≤ '7') s
  | '0' :: 'b' :: s => inBase 2 (fun c => c == '0' || c == '1') s
  | s => do
    let (negative, s) := sign s
    let (ds, s) ← decimalDigits s
    let n : Int := numberOf 10 ds
    fitting (if negative then -n else n) s

/-- Whether `m * 10 ^ e` is too large for a double, rounding half to even. -/
def tooLarge (m : Nat) (e : Int) : Bool :=
  let magnitude : Int := (Nat.toDigits 10 m).length + e
  if m = 0 ∨ magnitude < 300 then false
  else if 400 < magnitude then true
  else decide (Nat.pow 2 1024 - Nat.pow 2 970 ≤ m * Nat.pow 10 e.toNat / Nat.pow 10 (-e).toNat)

def exponent? : List Char → Option (Option (Reading Int))
  | c :: s =>
    if c = 'e' ∨ c = 'E' then
      let (negative, s) := sign s
      some ((digits Char.isDigit s).map fun p =>
        let n : Int := numberOf 10 p.1
        (if negative then -n else n, p.2))
    else none
  | [] => none

def fraction? : List Char → Option (Option (Reading (List Char)))
  | '.' :: s => some (digits Char.isDigit s)
  | _ => none

/-- A number with a fraction or an exponent; only the negative ones may be infinite. -/
def finite (negative : Bool) (m : Nat) (e : Int) (s : List Char) : Option (Reading Value) :=
  if !negative && tooLarge m e then none
  else some (.float (toString m ++ "e" ++ toString e), s)

def decimal (s : List Char) : Option (Reading Value) := do
  let (negative, s) := sign s
  let (whole, s) ← decimalDigits s
  match fraction? s with
  | some r =>
    let (frac, s) ← r
    let m := numberOf 10 (whole ++ frac)
    match exponent? s with
    | some r =>
      let (e, s) ← r
      finite negative m (e - frac.length) s
    | none => finite negative m (-frac.length) s
  | none =>
    let (e, s) ← (exponent? s).join
    finite negative (numberOf 10 whole) e s

/-- `inf` and `nan`, with or without a sign. -/
def special (s : List Char) : Option (Reading Value) :=
  match (sign s).2 with
  | 'i' :: 'n' :: 'f' :: s => some (.float "inf", s)
  | 'n' :: 'a' :: 'n' :: s => some (.float "nan", s)
  | _ => none

/-- A number of exactly `count` digits. -/
def fixed (count : Nat) (s : List Char) : Option (Reading Nat) :=
  let ds := s.take count
  if ds.length = count ∧ ds.all Char.isDigit then some (numberOf 10 ds, s.drop count) else none

/-- Past one of the given characters. -/
def oneOf (cs : List Char) : List Char → Option (List Char)
  | c :: s => if c ∈ cs then some s else none
  | [] => none

def isLeap (year : Nat) : Bool := year % 4 = 0 && (year % 100 ≠ 0 || year % 400 = 0)

def daysIn (year month : Nat) : Nat :=
  if month = 2 then (if isLeap year then 29 else 28)
  else if month ∈ [4, 6, 9, 11] then 30
  else 31

def date? (s : List Char) : Option (List Char) := do
  let (year, s) ← fixed 4 s
  let s ← oneOf ['-'] s
  let (month, s) ← fixed 2 s
  let s ← oneOf ['-'] s
  let (day, s) ← fixed 2 s
  if 1 ≤ month ∧ month ≤ 12 ∧ 1 ≤ day ∧ day ≤ daysIn year month then some s else none

/-- The decimals of a second, if they are there. -/
def afterSeconds (s : List Char) : List Char :=
  match s with
  | '.' :: ds => if ds.head?.any Char.isDigit then ds.dropWhile Char.isDigit else s
  | _ => s

def hourMinute? (s : List Char) : Option (List Char) := do
  let (hour, s) ← fixed 2 s
  let s ← oneOf [':'] s
  let (minute, s) ← fixed 2 s
  if hour ≤ 23 ∧ minute ≤ 59 then some s else none

def time? (s : List Char) : Option (List Char) := do
  let s ← hourMinute? s
  let s ← oneOf [':'] s
  let (second, s) ← fixed 2 s
  if second ≤ 60 then some (afterSeconds s) else none

/-- Past an offset from universal time, if one is here; `none` when it is malformed. -/
def offset? : List Char → Option (List Char)
  | 'Z' :: s => some s
  | 'z' :: s => some s
  | '+' :: s => hourMinute? s
  | '-' :: s => hourMinute? s
  | s => some s

/-- Whether two digits and a colon are here, which only a time can start with. -/
def startsTime (s : List Char) : Bool :=
  match fixed 2 s with
  | some (hour, ':' :: _) => hour ≤ 23
  | _ => false

/-- Whether four digits and a dash are here, which only a date can start with. -/
def startsDate (s : List Char) : Bool :=
  match fixed 4 s with
  | some (_, '-' :: _) => true
  | _ => false

def dateTime? (s : List Char) : Option (List Char) := do
  let s ← date? s
  match oneOf ['T', 't', ' '] s with
  | some after => if startsTime after then offset? (← time? after) else some s
  | none => some s

def numeric (s : List Char) : Option (Reading Value) :=
  if startsDate s then (dateTime? s).map fun s => (.moment, s)
  else if startsTime s then (time? s).map fun s => (.moment, s)
  else decimal s <|> special s <|> integer s

def truth (s : List Char) : Option (Reading Value) :=
  match "true".toList.isPrefixOf? s, "false".toList.isPrefixOf? s with
  | some s, _ => some (.bool true, s)
  | none, some s => some (.bool false, s)
  | none, none => none

def scalar (s : List Char) : Option (Reading Value) :=
  match s with
  | '"' :: _ => (string s).map fun p => (.text p.1, p.2)
  | '\'' :: _ => (string s).map fun p => (.text p.1, p.2)
  | 't' :: _ => truth s
  | 'f' :: _ => truth s
  | _ => numeric s

end SpirvToolchain.Toml
