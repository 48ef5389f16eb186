/-! JSON values, as a document writes them. -/
namespace SpirvToolchain

namespace Json

/-- The text of a string; `none` when its escapes leave half of a surrogate pair. -/
abbrev Text := Option String

end Json

/--
A JSON value. Whole numbers have a value; `-0` and numbers with a fraction or an exponent keep
their spelling. Members of an object keep their order, and a key may occur twice.
-/
inductive Json
  | null
  | bool (b : Bool)
  | int (i : Int)
  | decimal (spelling : String)
  | text (s : Json.Text)
  | array (items : List Json)
  | object (members : List (Json.Text × Json))
  deriving Repr, Inhabited

namespace Json

def str (s : String) : Json := .text (some s)

def strs (ss : List String) : Json := .array (ss.map str)

def nat (n : Nat) : Json := .int n

/-- An object whose keys are texts. -/
def record (members : List (String × Json)) : Json :=
  .object (members.map fun m => (some m.1, m.2))

end Json

end SpirvToolchain
