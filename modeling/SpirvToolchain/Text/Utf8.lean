/-!
UTF-8. Reading never fails: an octet sequence that cannot be continued becomes one replacement
character, and reading goes on with the octet that broke it.
-/
namespace SpirvToolchain.Text.Utf8

abbrev Octets := List UInt8

def replacement : Char := '\uFFFD'

def encodeChar (c : Char) : Octets :=
  let n := c.toNat
  if n < 0x80 then [n.toUInt8]
  else if n < 0x800 then [(0xC0 + n / 0x40).toUInt8, (0x80 + n % 0x40).toUInt8]
  else if n < 0x10000 then
    [(0xE0 + n / 0x1000).toUInt8, (0x80 + n / 0x40 % 0x40).toUInt8, (0x80 + n % 0x40).toUInt8]
  else
    [(0xF0 + n / 0x40000).toUInt8, (0x80 + n / 0x1000 % 0x40).toUInt8,
      (0x80 + n / 0x40 % 0x40).toUInt8, (0x80 + n % 0x40).toUInt8]

def encode (s : List Char) : Octets := s.flatMap encodeChar

/-- A character begun: its bits so far, the octets still to come, and the range of the next one. -/
structure Begun where
  bits : Nat
  missing : Nat
  low : Nat
  high : Nat
  deriving DecidableEq, Repr

/-- Characters completed by an octet, and the character it leaves begun. -/
abbrev Outcome := List Char × Option Begun

/--
An octet where a character starts. The ranges of the second octet rule out overlong forms,
surrogates and numbers above `10FFFF`.
-/
def lead (b : UInt8) : Outcome :=
  let n := b.toNat
  if n < 0x80 then ([Char.ofNat n], none)
  else if 0xC2 ≤ n ∧ n ≤ 0xDF then ([], some ⟨n - 0xC0, 1, 0x80, 0xBF⟩)
  else if 0xE0 ≤ n ∧ n ≤ 0xEF then
    ([], some ⟨n - 0xE0, 2, if n = 0xE0 then 0xA0 else 0x80, if n = 0xED then 0x9F else 0xBF⟩)
  else if 0xF0 ≤ n ∧ n ≤ 0xF4 then
    ([], some ⟨n - 0xF0, 3, if n = 0xF0 then 0x90 else 0x80, if n = 0xF4 then 0x8F else 0xBF⟩)
  else ([replacement], none)

def Begun.next (p : Begun) (b : UInt8) : Outcome :=
  if p.low ≤ b.toNat ∧ b.toNat ≤ p.high then
    let bits := p.bits * 0x40 + (b.toNat - 0x80)
    if p.missing ≤ 1 then ([Char.ofNat bits], none) else ([], some ⟨bits, p.missing - 1, 0x80, 0xBF⟩)
  else (replacement :: (lead b).1, (lead b).2)

def step : Option Begun → UInt8 → Outcome
  | none, b => lead b
  | some p, b => p.next b

def decodeFrom : Option Begun → Octets → List Char
  | none, [] => []
  | some _, [] => [replacement]
  | state, b :: bs => (step state b).1 ++ decodeFrom (step state b).2 bs

/-- The text of `bs`, with one replacement character for each maximal broken sequence. -/
def decodeLossy (bs : Octets) : List Char := decodeFrom none bs

/-- The text of `bs` when they are valid: writing that text gives them back. -/
def decode? (bs : Octets) : Option (List Char) :=
  if encode (decodeLossy bs) = bs then some (decodeLossy bs) else none

end SpirvToolchain.Text.Utf8
