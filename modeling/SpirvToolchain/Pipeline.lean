import SpirvToolchain.Artifact
import SpirvToolchain.Compilation
import SpirvToolchain.Host

/-! From source to SPIR-V text: compiler, translator and disassembler, one after another. -/
namespace SpirvToolchain

inductive Stage
  | compile | translate | disassemble | done
  deriving DecidableEq, Repr

def Stage.name : Stage → String
  | .compile => "compile"
  | .translate => "translate"
  | .disassemble => "disassemble"
  | .done => "done"

def Stage.all : List Stage := [.compile, .translate, .disassemble, .done]

/-- Starts a program; a start that fails is reported and counts as a failed run. -/
def runProgram {σ : Type} (host : Host σ) (stage : Option Stage) (i : Invocation) :
    Session σ ExecOutput := do
  match ← Session.start host i with
  | .ok output => return output
  | .error f =>
    Session.log { level := .error, message := f.message, stage := stage.map Stage.name }
    return .spawnFailure f

/-- The three programs and the base name of what they hand on. -/
structure Pipeline where
  compiler : String
  translator : String
  disassembler : String
  filebase : String
  deriving DecidableEq, Repr

namespace Pipeline

variable {σ : Type} (host : Host σ) (p : Pipeline) (args : List String) (input : String)
  (options : ExecOptions)

/-- The exit code of a compiler that ended well but left no bitcode. -/
def missingArtifactCode : Int := -1

def artifacts : Artifacts := .beside input p.filebase

/-- Every stage works in the directory of the source. -/
def stageOptions : ExecOptions := { options with cwd := some (Path.parent input) }

def compilerCall : Invocation :=
  ⟨p.compiler, args ++ ["-emit-llvm-bc"], stageOptions input options⟩

def translatorCall : Invocation :=
  let a := p.artifacts input
  ⟨p.translator, ["-spirv-debug", a.bitcode, "-o", a.binary], stageOptions input options⟩

def disassemblerCall : Invocation :=
  let a := p.artifacts input
  ⟨p.disassembler, [a.binary, "-o", a.text], stageOptions input options⟩

def runStage (stage : Stage) (i : Invocation) : Session σ ExecOutput := do
  Session.log (.info ("Running " ++ stage.name ++ " stage for " ++ input))
  runProgram host (some stage) i

def failed (o : ExecOutput) (message : String) : Event :=
  { level := .error, message, code := some o.code }

def failedSaying (o : ExecOutput) (message : String) : Event :=
  { failed o message with stderr := some o.stderr }

def disassemble (c : Compilation) : Session σ Compilation := do
  let o ← runStage host input .disassemble (p.disassemblerCall input options)
  unless o.success do
    Session.log (failedSaying o "SPIR-V binary to text failed")
  return c.append o

def translate (c : Compilation) : Session σ Compilation := do
  let o ← runStage host input .translate (p.translatorCall input options)
  if o.success then disassemble host p input options (c.append o)
  else
    Session.log (failedSaying o "LLVM to SPIR-V translation failed")
    return c.append o

/--
Runs the stages until one fails. The result holds the output of each that ran, in order, and
the exit code of the last.
-/
def run : Session σ Compilation := do
  let o ← runStage host input .compile (p.compilerCall args input options)
  let c := Compilation.ofOutput o input
  if o.success then
    let bitcode := (p.artifacts input).bitcode
    if ← Session.present host bitcode then translate host p input options c
    else
      Session.log (.error ("Front-end exited cleanly but " ++ bitcode ++ " is missing"))
      return { c with code := missingArtifactCode }
  else
    Session.log (failed o "Front-end compilation failed")
    return c

end Pipeline

end SpirvToolchain
