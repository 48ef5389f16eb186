import SpirvToolchain.Error
import SpirvToolchain.Path
import SpirvToolchain.Text.Utf8

/-! Files and directories as one value: where a path leads, what is read there, what is written. -/
namespace SpirvToolchain

open Text (Utf8.Octets)

/-- The names from the root down to a file or directory. -/
abbrev Place := List String

namespace Place

/-- The absolute path of a place. -/
def path (p : Place) : String := "/" ++ "/".intercalate p

/-- The place a path starts from, looked up in a directory. -/
def origin (base : Place) (path : String) : Place :=
  if Path.isAbsolute path.toList then [] else base

/-- One name on: an empty one or a dot stays, two dots go up. -/
def step (p : Place) (name : String) : Place :=
  if name = "" ∨ name = "." then p else if name = ".." then p.dropLast else p ++ [name]

def steps (p : Place) (names : List String) : Place := names.foldl step p

/-- The names of a path, one more than it has separators. -/
def names (path : String) : List String := (Path.segments path.toList).map String.ofList

/-- Where a path leads by its text alone, looked up in a directory. -/
def follow (base : Place) (path : String) : Place := steps (origin base path) (names path)

end Place

/-- What a device does with octets that are written to it: it drops them, or has no room. -/
inductive Device
  | null | full
  deriving DecidableEq, Repr

inductive Node
  | directory
  | file (octets : Utf8.Octets) (executable : Bool)
  | device (d : Device)
  deriving DecidableEq, Repr

structure Tree where
  node? : Place → Option Node

namespace Tree

/-- Nothing but the root directory. -/
def empty : Tree := ⟨fun p => if p = [] then some .directory else none⟩

def put (t : Tree) (place : Place) (node : Node) : Tree :=
  ⟨fun p => if p = place then some node else t.node? p⟩

/-- Without a place and all that is below it. -/
def prune (t : Tree) (place : Place) : Tree :=
  ⟨fun p => if place.isPrefixOf p then none else t.node? p⟩

/-- Puts a node and the directories above it. -/
def plant (t : Tree) (place : Place) (node : Node) : Tree :=
  ((List.range place.length).foldl (fun t n => t.put (place.take n) .directory) t).put place node

/-- Octets that a name, and a whole path with its end mark, may have. -/
def nameLimit : Nat := 255

def pathLimit : Nat := 4096

/-- The directory at a place. -/
def enter (t : Tree) (place : Place) : Except IoError Unit :=
  match t.node? place with
  | some .directory => .ok ()
  | some _ => .error .notADirectory
  | none => .error .notFound

/-- Follows names from a place, out of one directory after another; the last need not exist. -/
def walk (t : Tree) (place : Place) : List String → Except IoError Place
  | [] => .ok place
  | name :: rest => do
    t.enter place
    if nameLimit < name.utf8ByteSize then .error .nameTooLong
    else t.walk (place.step name) rest

/-- The names of a path, if the path may be looked up at all. -/
def names (path : String) : Except IoError (List String) :=
  if '\x00' ∈ path.toList then .error .nulInName
  else if path = "" then .error .notFound
  else if pathLimit ≤ path.utf8ByteSize then .error .nameTooLong
  else .ok (Place.names path)

/-- Where a path leads from a directory. -/
def resolve (t : Tree) (base : Place) (path : String) : Except IoError Place := do
  t.walk (.origin base path) (← names path)

/-- What lies where a path leads. -/
def find (t : Tree) (base : Place) (path : String) : Except IoError Node := do
  match t.node? (← t.resolve base path) with
  | some node => .ok node
  | none => .error .notFound

def has (t : Tree) (base : Place) (path : String) : Bool := (t.find base path).isOk

def isFile (t : Tree) (base : Place) (path : String) : Bool :=
  match t.find base path with
  | .ok (.file ..) => true
  | _ => false

def readOctets (t : Tree) (base : Place) (path : String) : Except IoError Utf8.Octets := do
  match ← t.find base path with
  | .file octets _ => .ok octets
  | .device _ => .ok []
  | .directory => .error .isADirectory

def readText (t : Tree) (base : Place) (path : String) : Except IoError String := do
  match Text.Utf8.decode? (← t.readOctets base path) with
  | some text => .ok (String.ofList text)
  | none => .error .invalidText

/-- A name that a file can have. -/
def isFileName (name : String) : Bool := name ≠ "" && name ≠ "." && name ≠ ".."

/--
Where a file is written: in a directory that is there, under the last name of the path, with
nothing after that name.
-/
def target (t : Tree) (base : Place) (path : String) : Except IoError Place := do
  let all ← names path
  let parts := (all.reverse.dropWhile (· = "")).reverse
  match parts.getLast? with
  | none => .error .isADirectory
  | some last =>
    let dir ← t.walk (.origin base path) parts.dropLast
    t.enter dir
    if parts ≠ all ∨ !isFileName last then .error .isADirectory
    else if nameLimit < last.utf8ByteSize then .error .nameTooLong
    else if t.node? (dir ++ [last]) = some .directory then .error .isADirectory
    else .ok (dir ++ [last])

/-- A file keeps its right to be executed when its content changes. -/
def isExecutable (t : Tree) (place : Place) : Bool :=
  match t.node? place with
  | some (.file _ executable) => executable
  | _ => false

def write (t : Tree) (base : Place) (path : String) (octets : Utf8.Octets) :
    Except IoError Tree := do
  let place ← t.target base path
  match t.node? place with
  | some (.device d) => if d = .full ∧ octets ≠ [] then .error .noSpace else .ok t
  | _ => .ok (t.put place (.file octets (t.isExecutable place)))

def writeText (t : Tree) (base : Place) (path text : String) : Except IoError Tree :=
  t.write base path (Text.Utf8.encode text.toList)

theorem walk_eq_steps {t : Tree} {place q : Place} {ns : List String} (h : t.walk place ns = .ok q) :
    q = place.steps ns := by
  induction ns generalizing place with
  | nil => simpa [walk, Place.steps] using h.symm
  | cons name rest ih =>
    simp only [walk, bind, Except.bind] at h
    split at h
    · cases h
    · split at h
      · cases h
      · simpa [Place.steps] using ih h

theorem node?_put (t : Tree) (place : Place) (node : Node) (p : Place) :
    (t.put place node).node? p = if p = place then some node else t.node? p := rfl

theorem node?_put_self (t : Tree) (place : Place) (node : Node) :
    (t.put place node).node? place = some node := by
  simp [node?_put]

theorem node?_put_of_ne {t : Tree} {place p : Place} {node : Node} (h : p ≠ place) :
    (t.put place node).node? p = t.node? p := by
  simp [node?_put, h]

end Tree

end SpirvToolchain
