import SpirvToolchain.Dict
import SpirvToolchain.Error
import SpirvToolchain.Path
import SpirvToolchain.Text.Quoted
import SpirvToolchain.Text.Search

/-! What a caller asks of the toolchain for one source file. -/
namespace SpirvToolchain

/-- What to leave out of the output, and whether to link. -/
structure Filters where
  binary : Bool := false
  binaryObject : Bool := false
  execute : Bool := false
  directives : Bool := false
  commentOnly : Bool := false
  labels : Bool := false
  libraryCode : Bool := false
  trim : Bool := false
  debugCalls : Bool := false
  demangle : Bool := false
  intel : Bool := false
  deriving DecidableEq, Repr

structure BackendOptions where
  produceOptInfo : Bool := false
  /-- Options this toolchain carries along without reading them. -/
  extra : Dict String := Dict.empty
  deriving DecidableEq

/-- One version of a library. -/
structure LibrarySpec where
  id : String
  version : String
  deriving DecidableEq, Repr

/-- Reads `id:version`, split at the first colon, with neither side empty. -/
def LibrarySpec.parse? (spec : String) : Option LibrarySpec :=
  match Text.splitFirst ':' spec.toList with
  | some (id, version) =>
    if id = [] ∨ version = [] then none
    else some ⟨String.ofList id, String.ofList version⟩
  | none => none

structure Request where
  inputFilename : String
  userOptions : List String := []
  filters : Filters := {}
  backendOptions : BackendOptions := {}
  libraries : List LibrarySpec := []
  outputFilebase : String := "output"
  deriving DecidableEq

/-- The directory of the source file, where every artifact goes. -/
def Request.sourceDir (r : Request) : String := Path.parent r.inputFilename

/-- A base name that keeps the artifacts in the source directory. -/
def ValidFilebase (base : String) : Prop := base ≠ "" ∧ Path.separator ∉ base.toList

instance (base : String) : Decidable (ValidFilebase base) := by
  unfold ValidFilebase; infer_instance

def Request.validate (r : Request) : Except Failure Request :=
  if ValidFilebase r.outputFilebase then .ok r
  else .error (.invalidRequest ("output base name " ++ Text.quote r.outputFilebase))

end SpirvToolchain
