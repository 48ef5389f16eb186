import SpirvToolchain.Dict
import SpirvToolchain.Json.Basic

/-! Reading domain values out of JSON: each type from one shape, records field by field. -/
namespace SpirvToolchain.Json

/-- Where the formats that carry these values differ. -/
structure Dialect where
  /-- Items of a list past the last field of the record it writes are passed over. -/
  surplusItems : Bool
  /-- What stands after the name of a choice that takes no value. -/
  isUnit : Json → Bool

def text? : Json → Option String
  | .text s => s
  | _ => none

def bool? : Json → Option Bool
  | .bool b => some b
  | _ => none

/-- A whole number that fits a word of 64 bits. -/
def word64? : Json → Option UInt64
  | .int i => if 0 ≤ i ∧ i < 0x10000000000000000 then some (.ofNat i.toNat) else none
  | _ => none

def list? {α : Type} (item? : Json → Option α) : Json → Option (List α)
  | .array items => items.mapM item?
  | _ => none

def member? (m : Text × Json) : Option (String × Json) := m.1.map fun k => (k, m.2)

/-- The members of an object, all with readable keys. -/
def members? : Json → Option (List (String × Json))
  | .object ms => ms.mapM member?
  | _ => none

/-- Any keys; of members with one key the last counts. -/
def dict? {α : Type} (value? : Json → Option α) (j : Json) : Option (Dict α) := do
  let ms ← members? j
  let entries ← ms.mapM fun m => (value? m.2).map fun v => (m.1, v)
  return .ofList entries

/-- The members of a record that its type knows. -/
abbrev Fields := List (String × Json)

/--
A record with the given field names: an object that has none of them twice, its other members
passed over, or a list of the fields in order, which may stop early.
-/
def fields? (d : Dialect) (names : List String) : Json → Option Fields
  | .object ms => do
    let known := (← ms.mapM member?).filter (·.1 ∈ names)
    if (known.map (·.1)).Nodup then some known else none
  | .array items =>
    if d.surplusItems ∨ items.length ≤ names.length then some (names.zip items) else none
  | _ => none

/-- A field's value; one that is left out has its default. -/
def Fields.get {α : Type} (fs : Fields) (name : String) (value? : Json → Option α) (default : α) :
    Option α :=
  match fs.lookup name with
  | some j => value? j
  | none => some default

/-- The value of a field that may not be left out. -/
def Fields.need {α : Type} (fs : Fields) (name : String) (value? : Json → Option α) : Option α :=
  (fs.lookup name).bind value?

end SpirvToolchain.Json
