import SpirvToolchain.CommandError
import SpirvToolchain.Request

/-! The commands, and the request that each makes. -/
namespace SpirvToolchain

/-- What every command is told about its source. -/
structure RequestArgs where
  input : String
  options : List String := []
  /-- Libraries as `id:version`. -/
  libraries : List String := []
  binary : Bool := false
  produceOptInfo : Bool := false
  outputBase : String := "output"
  json : Bool := false
  deriving DecidableEq, Repr

/-- What a dump of the IR leaves out. -/
structure IrSwitches where
  directives : Bool := false
  commentOnly : Bool := false
  debugCalls : Bool := false
  trim : Bool := false
  deriving DecidableEq, Repr

inductive Command
  | compile (args : RequestArgs) (output : Option String)
  | ast (args : RequestArgs)
  | ir (args : RequestArgs) (switches : IrSwitches)
  deriving DecidableEq, Repr

namespace RequestArgs

variable (a : RequestArgs)

def readLibraries : List String → Except CommandError (List LibrarySpec)
  | [] => .ok []
  | spec :: rest =>
    match LibrarySpec.parse? spec with
    | some l => (readLibraries rest).map (l :: ·)
    | none => .error (.badLibrary spec)

/-- The request for the source once it lies at `staged`; a bad library is told of first. -/
def toRequest (staged : String) : Except CommandError Request := do
  let libraries ← readLibraries a.libraries
  let request : Request :=
    { inputFilename := staged
      userOptions := a.options
      filters := { binary := a.binary }
      backendOptions := { produceOptInfo := a.produceOptInfo }
      libraries
      outputFilebase := a.outputBase }
  request.validate.mapError .pipeline

/-- The filters of a dump of the IR. -/
def filters (s : IrSwitches) : Filters :=
  { binary := a.binary
    directives := s.directives
    commentOnly := s.commentOnly
    debugCalls := s.debugCalls
    trim := s.trim }

end RequestArgs

def Command.args : Command → RequestArgs
  | .compile args _ => args
  | .ast args => args
  | .ir args _ => args

end SpirvToolchain
