import SpirvToolchain.Dict
import SpirvToolchain.Host

/-! A host that follows a script: each run gets the next answer written down for it. -/
namespace SpirvToolchain

/-- What one run answers, and what it does to the files. -/
structure Response where
  /-- The failure to start, given the name of the program. -/
  failure : Option (String → Failure) := none
  output : ExecOutput := {}
  writes : List (String × Option String) := []
  removes : List String := []

def Response.answer (a : Response) (exe : String) : Except Failure ExecOutput :=
  match a.failure with
  | some f => .error (f exe)
  | none => .ok a.output

/-- Files by the text of their paths, `none` where one cannot be read, and the answers to come. -/
structure Script where
  files : List (String × Option String) := []
  responses : List Response := []

namespace Script

/-- Writes first, then removes; a run that fails does both as well. -/
def apply (s : Script) (a : Response) : Script :=
  { s with files := (a.writes ++ s.files).filter fun f => f.1 ∉ a.removes }

def start (i : Invocation) (s : Script) : Except Failure ExecOutput × Script :=
  match s.responses with
  | [] => (.ok {}, s)
  | a :: rest => (a.answer i.exe, { s.apply a with responses := rest })

def readText (path : String) (s : Script) : Except Failure String :=
  match s.files.lookup path with
  | some (some content) => .ok content
  | _ => .error (.io "unreadable")

def host : Host Script where
  start := start
  present path s := s.files.any (·.1 == path)
  readText := readText

end Script

end SpirvToolchain
