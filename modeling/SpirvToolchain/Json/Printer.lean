import SpirvToolchain.Json.Basic

/-! Writing JSON, two spaces for each level. -/
namespace SpirvToolchain.Json

def hexDigit (n : Nat) : Char := Nat.digitChar n

/-- A character inside a string; only quotes, backslashes and controls are escaped. -/
def escapeChar (c : Char) : List Char :=
  if c = '"' then ['\\', '"']
  else if c = '\\' then ['\\', '\\']
  else if c = '\x08' then ['\\', 'b']
  else if c = '\x0c' then ['\\', 'f']
  else if c = '\n' then ['\\', 'n']
  else if c = '\r' then ['\\', 'r']
  else if c = '\t' then ['\\', 't']
  else if c.toNat < 0x20 then
    ['\\', 'u', '0', '0', hexDigit (c.toNat / 16), hexDigit (c.toNat % 16)]
  else [c]

def quoted (s : List Char) : List Char := '"' :: (s.flatMap escapeChar ++ ['"'])

def quotedText : Text → List Char
  | some s => quoted s.toList
  | none => ['"', '\\', 'u', 'd', '8', '0', '0', '"']

def indent (n : Nat) : List Char := '\n' :: List.replicate (2 * n) ' '

mutual

/-- The text of a value that stands at the given level. -/
def pretty (level : Nat) : Json → List Char
  | .null => "null".toList
  | .bool b => (if b then "true" else "false").toList
  | .int i => (toString i).toList
  | .decimal s => s.toList
  | .text s => quotedText s
  | .array [] => ['[', ']']
  | .array (v :: vs) =>
    '[' :: (indent (level + 1) ++ pretty (level + 1) v ++ prettyItems (level + 1) vs
      ++ indent level ++ [']'])
  | .object [] => ['\x7b', '\x7d']
  | .object (m :: ms) =>
    '\x7b' :: (indent (level + 1) ++ prettyMember (level + 1) m ++ prettyMembers (level + 1) ms
      ++ indent level ++ ['\x7d'])

def prettyItems (level : Nat) : List Json → List Char
  | [] => []
  | v :: vs => ',' :: (indent level ++ pretty level v ++ prettyItems level vs)

def prettyMember (level : Nat) : Text × Json → List Char
  | (k, v) => quotedText k ++ ':' :: ' ' :: pretty level v

def prettyMembers (level : Nat) : List (Text × Json) → List Char
  | [] => []
  | m :: ms => ',' :: (indent level ++ prettyMember level m ++ prettyMembers level ms)

end

def print (v : Json) : String := String.ofList (pretty 0 v)

end SpirvToolchain.Json
