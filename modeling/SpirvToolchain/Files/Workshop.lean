import SpirvToolchain.Files.Executable
import SpirvToolchain.Host

/-! A file tree with programs in it, as a host. -/
namespace SpirvToolchain

open Text (Utf8.Octets)

/-- A directory that relative paths start from, and the way programs are started. -/
structure Workshop where
  base : Place
  start : Invocation → Tree → Except Failure ExecOutput × Tree

namespace Workshop

def hasNul (s : String) : Bool := '\x00' ∈ s.toList

/-- How many interpreters may stand between a file and the program that runs it. -/
def levelLimit : Nat := 5

/-- The directory a program is to work in, the program and its arguments, if it may be started. -/
def launch (base : Place) (searchPath : List Place) (program? : Utf8.Octets → Option Program)
    (i : Invocation) (t : Tree) : Except IoError (Place × Program × List String) := do
  if (i.exe :: i.args ++ i.options.cwd.toList).any hasNul then throw .nulInArgument
  let cwd ← match i.options.cwd with
    | some path => t.resolve base path
    | none => .ok base
  t.enter cwd
  return (cwd, ← (← Executable.locate t searchPath cwd i.exe).load program? t cwd levelLimit i.args)

/-- The workshop in which the content of a file tells what program it is, if it is one. -/
def ofPrograms (base : Place) (searchPath : List Place) (program? : Utf8.Octets → Option Program) :
    Workshop where
  base
  start i t :=
    match launch base searchPath program? i t with
    | .error e => (.error (.spawn i.exe e.message), t)
    | .ok (cwd, program, args) =>
      let ran := program cwd args t
      (.ok (ran.1.output i.options), ran.2)

variable (w : Workshop)

def host : Host Tree where
  start := w.start
  present path t := t.has w.base path
  readText path t := (t.readText w.base path).mapError fun e => .io e.message
  reports := Capture.reports

end Workshop

end SpirvToolchain
