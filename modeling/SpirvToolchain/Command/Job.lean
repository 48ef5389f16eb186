import SpirvToolchain.CommandError
import SpirvToolchain.Files.Workshop
import SpirvToolchain.Report

/-! A command at work: a session in a workshop that prints, and may end early. -/
namespace SpirvToolchain

/-- What a command works with, besides the files. -/
structure Workplace where
  workshop : Workshop
  /-- A directory of the command's own, in which the source is put before the tools see it. -/
  stage : Place
  colours : Bool := false

/-- What has come of a command so far. -/
structure Desk where
  record : Record Tree
  printed : Printout := {}

/-- An early end keeps what has been printed, reported and written. -/
abbrev Job := ExceptT CommandError (StateM Desk)

namespace Job

variable {α : Type}

def session (s : Session Tree α) : Job α := do
  let d ← get
  let (a, record) := s.run d.record
  set { d with record }
  return a

def log (e : Event) : Job Unit := session (Session.log e)

def print (p : Printout) : Job Unit :=
  modify fun d => { d with printed := d.printed ++ p }

def files : Job Tree := return (← get).record.state

def setFiles (t : Tree) : Job Unit :=
  modify fun d => { d with record := { d.record with state := t } }

/-- Goes on with a value, or ends with what stood against it. -/
def ofExcept {ε : Type} (cause : ε → CommandError) : Except ε α → Job α
  | .ok a => return a
  | .error e => throw (cause e)

def readText (w : Workshop) (path : String) : Job String := do
  ofExcept .ofIo ((← files).readText w.base path)

def writeText (w : Workshop) (path text : String) : Job Unit := do
  setFiles (← ofExcept .ofIo ((← files).writeText w.base path text))

end Job

end SpirvToolchain
