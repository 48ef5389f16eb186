import SpirvToolchain.Json.Basic

/-! TOML values, and tables as they grow while a document is read. -/
namespace SpirvToolchain.Toml

inductive Value
  | text (s : String)
  | int (i : Int)
  | float (spelling : String)
  | bool (b : Bool)
  | moment
  | array (items : List Value)
  | table (entries : List (String × Value))
  deriving Repr, Inhabited

/--
How a table came to be: written under its own header (or as a value), implied by the header of
one below it, or by a dotted key.
-/
inductive Origin
  | written | implied | dotted
  deriving DecidableEq, Repr

mutual

/-- What a key of a growing table holds; a list of tables grows at its end. -/
inductive Item
  | value (v : Value)
  | table (t : Table)
  | tables (ts : List Table)

inductive Table
  | mk (origin : Origin) (entries : List (String × Item))

end

namespace Table

def empty (origin : Origin) : Table := ⟨origin, []⟩

def origin : Table → Origin
  | ⟨o, _⟩ => o

def entries : Table → List (String × Item)
  | ⟨_, es⟩ => es

def get? (t : Table) (key : String) : Option Item := t.entries.lookup key

/-- Gives a key a new item, in place of the one it has. -/
def put (t : Table) (key : String) (item : Item) : Table :=
  if t.entries.any (·.1 == key) then
    ⟨t.origin, t.entries.map fun e => if e.1 = key then (key, item) else e⟩
  else ⟨t.origin, t.entries ++ [(key, item)]⟩

def remove (t : Table) (key : String) : Table :=
  ⟨t.origin, t.entries.filter (·.1 ≠ key)⟩

/--
Changes the table at the end of a path, made where it is missing. The path leads through the
last table of a list and never through a value; a dotted key cannot lead through a table that
is written elsewhere.
-/
def modify (dotted : Bool) (change : Table → Option Table) : List String → Table → Option Table
  | [], t => change t
  | key :: path, t =>
    match t.get? key with
    | none =>
      (modify dotted change path (empty (if dotted then .dotted else .implied))).map fun sub =>
        t.put key (.table sub)
    | some (.table sub) =>
      if dotted ∧ sub.origin = .written then none
      else (modify dotted change path sub).map fun sub => t.put key (.table sub)
    | some (.tables ts) =>
      match ts.getLast? with
      | none => none
      | some last =>
        (modify dotted change path last).map fun last => t.put key (.tables (ts.dropLast ++ [last]))
    | some (.value _) => none

/-- The table at the end of a path that leads to one. -/
def find? : List String → Table → Option Table
  | [], t => some t
  | key :: path, t =>
    match t.get? key with
    | some (.table sub) => find? path sub
    | some (.tables ts) => ts.getLast?.bind (find? path)
    | _ => none

/--
Adds a value under a key and the path before it. Each key is given once, and a path of dotted
keys ends in a table that only dotted keys made.
-/
def addEntry (path : List String) (key : String) (v : Value) (t : Table) : Option Table :=
  t.modify true (fun t =>
    if (t.origin = .dotted ↔ path = []) ∨ (t.get? key).isSome then none
    else some (t.put key (.value v))) path

end Table

mutual

def Item.toValue : Item → Value
  | .value v => v
  | .table t => t.toValue
  | .tables ts => .array (tablesToValues ts)

def Table.toValue : Table → Value
  | ⟨_, es⟩ => .table (entriesToValues es)

def tablesToValues : List Table → List Value
  | [] => []
  | t :: ts => t.toValue :: tablesToValues ts

def entriesToValues : List (String × Item) → List (String × Value)
  | [] => []
  | (k, i) :: es => (k, i.toValue) :: entriesToValues es

end

mutual

/-- The same value in JSON; a date is a record whose one member no type knows. -/
def Value.toJson : Value → Json
  | .text s => .str s
  | .int i => .int i
  | .float spelling => .decimal spelling
  | .bool b => .bool b
  | .moment => .record [("moment", .null)]
  | .array vs => .array (valuesToJson vs)
  | .table es => .object (entriesToJson es)

def valuesToJson : List Value → List Json
  | [] => []
  | v :: vs => v.toJson :: valuesToJson vs

def entriesToJson : List (String × Value) → List (Json.Text × Json)
  | [] => []
  | (k, v) :: es => (some k, v.toJson) :: entriesToJson es

end

end SpirvToolchain.Toml
