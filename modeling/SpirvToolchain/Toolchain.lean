import SpirvToolchain.Arguments.FrontEnd
import SpirvToolchain.Dump

/-! A configured toolchain and the requests it serves: compile, or dump the tree or the IR. -/
namespace SpirvToolchain

structure Toolchain where
  config : ToolchainConfig
  astProcessor : AstProcessor := fun c => .ok (Ast.process c)
  irProcessor : IrProcessor := Ir.process

namespace Toolchain

variable {σ : Type} (host : Host σ) (t : Toolchain) (r : Request)

/-- The SPIR-V text that a successful compilation leaves behind. -/
def outputPath : String := artifactPath r.sourceDir r.outputFilebase "spvasm"

def setup : FrontEnd.Setup :=
  ⟨t.config.compiler, t.config.libraries, t.config.userOptions, r.outputFilebase⟩

def arguments : List String := FrontEnd.arguments (t.setup r) r (outputPath r)

def warnings : List Event := FrontEnd.warnings (t.setup r) r

/-- The arguments of a request, with their warnings reported. -/
def prepareArguments : Session σ (List String) := do
  Session.logAll (t.warnings r)
  return t.arguments r

def pipeline : Pipeline :=
  ⟨t.config.compiler.exe, t.config.compiler.translator, t.config.compiler.disassembler,
    r.outputFilebase⟩

def diverter : Diverter where
  compiler := t.config.compiler.exe
  filebase := r.outputFilebase
  options := t.config.exec.options
  astProcessor := t.astProcessor
  irProcessor := t.irProcessor

def compile : Session σ Compilation := do
  Session.log (.info ("Compiling " ++ r.inputFilename))
  let args ← t.prepareArguments r
  (t.pipeline r).run host args r.inputFilename t.config.exec.options

def ast : Session σ (Except Failure Dump) := do
  Session.log (.info ("Dumping AST of " ++ r.inputFilename))
  let args ← t.prepareArguments r
  (t.diverter r).ast host args r.inputFilename

def ir : Session σ (Except Failure Dump) := do
  Session.log (.info ("Dumping LLVM IR of " ++ r.inputFilename))
  let args ← t.prepareArguments r
  (t.diverter r).ir host args r.inputFilename r.filters

end Toolchain

end SpirvToolchain
