import SpirvToolchain.Toml.Scalar

/-! Whole TOML documents: statements, and the table they build. -/
namespace SpirvToolchain.Toml

/-- The table of an inline table's members. -/
def inlineTable (members : List ((List String × String) × Value)) : Option Value :=
  (members.foldlM (fun (t : Table) m => t.addEntry m.1.1 m.1.2 m.2) (Table.empty .written)).map Table.toValue

mutual

/-- A value with less than `depth` values around each other in it. -/
def value : Nat → Nat → List Char → Option (Reading Value)
  | 0, _, _ => none
  | fuel + 1, depth, s =>
    match s with
    | '[' :: s =>
      match depth with
      | 0 => none
      | depth + 1 => (items fuel depth s).map fun p => (.array p.1, p.2)
    | '\x7b' :: s =>
      match depth with
      | 0 => none
      | depth + 1 => do
        let (ms, s) ← match skipSpace s with
          | '\x7d' :: s => some ([], s)
          | _ => members fuel depth s
        let v ← inlineTable ms
        return (v, s)
    | s => scalar s

/-- Items of an array up to its closing bracket; a comma may follow the last. -/
def items : Nat → Nat → List Char → Option (Reading (List Value))
  | 0, _, _ => none
  | fuel + 1, depth, s => do
    match ← skipLines false s with
    | ']' :: s => return ([], s)
    | s =>
      let (v, s) ← value fuel depth s
      match ← skipLines false s with
      | ',' :: s =>
        let (vs, s) ← items fuel depth s
        return (v :: vs, s)
      | ']' :: s => return ([v], s)
      | _ => none

/-- Members of an inline table up to its closing brace; no comma may follow the last. -/
def members : Nat → Nat → List Char → Option (Reading (List ((List String × String) × Value)))
  | 0, _, _ => none
  | fuel + 1, depth, s => do
    let (k, s) ← key s
    let s ← oneOf ['='] s
    let (v, s) ← value fuel depth (skipSpace s)
    match skipSpace s with
    | ',' :: s =>
      let (ms, s) ← members fuel depth s
      return ((k, v) :: ms, s)
    | '\x7d' :: s => return ([(k, v)], s)
    | _ => none

end

inductive Statement
  | entry (path : List String) (key : String) (value : Value)
  | header (path : List String) (key : String)
  | listHeader (path : List String) (key : String)

/-- A statement, up to the end of its line. -/
def statement (fuel : Nat) (s : List Char) : Option (Reading Statement) :=
  match s with
  | '[' :: '[' :: s => do
    let ((path, k), s) ← key s
    let s ← oneOf [']'] s
    let s ← lineRest? (← oneOf [']'] s)
    return (.listHeader path k, s)
  | '[' :: s => do
    let ((path, k), s) ← key s
    let s ← lineRest? (← oneOf [']'] s)
    return (.header path k, s)
  | s => do
    let ((path, k), s) ← key s
    let s ← oneOf ['='] s
    let (v, s) ← value fuel (depthLimit - 1) (skipSpace s)
    return (.entry path k v, ← lineRest? s)

/-- The statements of a document; a line may also hold a comment only. -/
def statements : Nat → List Char → Option (List Statement)
  | 0, _ => none
  | fuel + 1, s =>
    match skipSpace s with
    | [] => some []
    | '#' :: s => (lineRest? ('#' :: s)).bind (statements fuel)
    | s =>
      match newline? s with
      | some s => statements fuel s
      | none => do
        let (st, s) ← statement fuel s
        return st :: (← statements fuel s)

/-- A document half read: the table so far, and the section that is still open. -/
structure Draft where
  root : Table := .empty .written
  current : Table := .empty .written
  path : List String := []
  key : Option String := none
  inList : Bool := false

namespace Draft

/-- Puts the open section in its place. -/
def close (d : Draft) : Option Table :=
  match d.key with
  | none => some d.current
  | some key =>
    d.root.modify false (fun t =>
      match d.inList, t.get? key with
      | true, some (.tables ts) => some (t.put key (.tables (ts ++ [d.current])))
      | true, none => some (t.put key (.tables [d.current]))
      | true, _ => none
      | false, _ => some (t.put key (.table d.current))) d.path

/-- Opens the section of a header: a new table, or one that headers below it have implied. -/
def openTable (root : Table) (path : List String) (key : String) : Option Draft := do
  let root' ← root.modify false (fun t =>
    match t.get? key with
    | none => some t
    | some (.table sub) => if sub.origin = .implied then some (t.remove key) else none
    | _ => none) path
  let sub := match (root.find? path).bind (·.get? key) with
    | some (.table sub) => sub.entries
    | _ => []
  return { root := root', current := ⟨.written, sub⟩, path, key := some key }

/-- Opens the next table of a list. -/
def openList (root : Table) (path : List String) (key : String) : Option Draft := do
  let root ← root.modify false (fun t =>
    match t.get? key with
    | none => some (t.put key (.tables []))
    | some (.tables _) => some t
    | _ => none) path
  return { root, path, key := some key, inList := true }

def step (d : Draft) : Statement → Option Draft
  | .entry path key v => (d.current.addEntry path key v).map fun t => { d with current := t }
  | .header path key => do openTable (← d.close) path key
  | .listHeader path key => do openList (← d.close) path key

end Draft

/-- The table of a document. -/
def parse? (text : String) : Option Value := do
  let s := match text.toList with
    | '\uFEFF' :: s => s
    | s => s
  let sts ← statements (2 * s.length + 2) s
  let d ← sts.foldlM Draft.step {}
  return (← d.close).toValue

end SpirvToolchain.Toml
