import SpirvToolchain.Files.Interpreter
import SpirvToolchain.Files.Tree
import SpirvToolchain.Process.Capture

/-! Programs in a file tree: how the file of one is found, and which program runs it. -/
namespace SpirvToolchain

open Text (Utf8.Octets)

/--
What a program does and the files it leaves, given the directory it starts in, its arguments and
the files it finds.
-/
abbrev Program := Place → List String → Tree → Capture.Behaviour × Tree

/-- A file that may be executed: the path it was found by, and its content. -/
structure Executable where
  path : String
  octets : Utf8.Octets

namespace Executable

/-- The executable file where a path leads. -/
def ofPath (t : Tree) (cwd : Place) (path : String) : Except IoError Executable := do
  match ← t.find cwd path with
  | .file octets true => .ok { path, octets }
  | _ => .error .permissionDenied

/-- The first executable of a name on the search path; one that may not be run is told of last. -/
def search (t : Tree) (name : String) : List Place → Except IoError Executable
  | [] => .error .notFound
  | dir :: rest =>
    match Executable.ofPath t [] (dir ++ [name]).path with
    | .ok x => .ok x
    | .error e =>
      match search t name rest with
      | .ok x => .ok x
      | .error e' => .error (if e = .permissionDenied then e else e')

/-- A name with a separator is a path; any other is searched for. -/
def locate (t : Tree) (searchPath : List Place) (cwd : Place) (exe : String) :
    Except IoError Executable :=
  if Path.separator ∈ exe.toList then Executable.ofPath t cwd exe
  else if exe = "" then .error .notFound
  else if Tree.nameLimit < exe.utf8ByteSize then .error .nameTooLong
  else search t exe searchPath

/-- The file of an interpreter. An empty path leads to the directory of work, which is no file. -/
def ofInterpreter (t : Tree) (cwd : Place) (i : Interpreter) : Except IoError Executable :=
  if i.path = "" then .error .permissionDenied else ofPath t cwd i.path

/--
The program that runs a file, and its arguments: the file's own, or that of its interpreter, which
is given the path of the script. The interpreter may be a script in turn, `levels` times.
-/
def load (program? : Utf8.Octets → Option Program) (t : Tree) (cwd : Place) (levels : Nat)
    (x : Executable) (args : List String) : Except IoError (Program × List String) := do
  match program? x.octets, Interpreter.parse? x.octets with
  | some program, _ => .ok (program, args)
  | none, none => .error .notAProgram
  | none, some i =>
    let next ← ofInterpreter t cwd i
    match levels with
    | 0 => .error .tooManyLevels
    | levels + 1 => load program? t cwd levels next (i.argument.toList ++ x.path :: args)

end Executable

end SpirvToolchain
