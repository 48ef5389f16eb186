import SpirvToolchain.Arguments
import SpirvToolchain.Dump.Ast
import SpirvToolchain.Dump.Ir
import SpirvToolchain.Pipeline

/-! Dumps of the compiler's inner forms, from one run with its output diverted to text. -/
namespace SpirvToolchain

/-- The lines of a dump and the exit code of the compiler that made it. -/
structure Dump where
  code : Int := 0
  lines : List Line := []
  deriving DecidableEq, Repr

def Dump.success (d : Dump) : Bool := d.code = 0

abbrev AstProcessor := Compilation → Except Failure (List Line)

abbrev IrProcessor := String → Filters → Except Failure (List Line)

/-- Runs one program; without a working directory of its own it gets that of the source. -/
def runSingleStage {σ : Type} (host : Host σ) (exe : String) (args : List String) (input : String)
    (options : ExecOptions) : Session σ Compilation := do
  let cwd := options.cwd <|> Path.parent? input
  let o ← runProgram host none ⟨exe, args, { options with cwd }⟩
  return .ofOutput o input

/-- The compiler, the base name of its artifacts, and what is done with its dumps. -/
structure Diverter where
  compiler : String
  filebase : String
  options : ExecOptions
  astProcessor : AstProcessor := fun c => .ok (Ast.process c)
  irProcessor : IrProcessor := Ir.process

namespace Diverter

/-- Octets kept of a dump, which is far larger than a compiler's messages. -/
def maxOutput : Nat := 0x40000000

variable {σ : Type} (host : Host σ) (d : Diverter) (args : List String) (input : String)

def artifacts : Artifacts := .beside input d.filebase

/-- Without colours, and with the artifact for text in place of the one for bitcode. -/
def divert : List String :=
  Arguments.replaced (Arguments.without args "-fcolor-diagnostics")
    (d.artifacts input).bitcode (d.artifacts input).irText

def run (exe : String) (options : ExecOptions) : Session σ Compilation :=
  runSingleStage host exe (d.divert args input) input { options with maxOutput }

def ast : Session σ (Except Failure Dump) := do
  let c ← run host d (Arguments.withOnce args "-ast-dump") input d.compiler d.options
  return (d.astProcessor c).map fun lines => ⟨c.code, lines⟩

/-- The text comes from the artifact if there is one, else from what the compiler printed. -/
def irText (c : Compilation) : Session σ (Except Failure String) := do
  let path := (d.artifacts input).irText
  if ← Session.present host path then Session.readText host path
  else return .ok c.stdoutText

def ir (filters : Filters) : Session σ (Except Failure Dump) := do
  let c ← run host d (Arguments.withOnce args "-emit-llvm") input d.compiler d.options
  if c.success then
    let text ← irText host d input c
    return do return ⟨c.code, ← d.irProcessor (← text) filters⟩
  else
    Session.log
      { level := .error, message := "Failed to run compiler to get IR code", code := some c.code }
    return .ok ⟨c.code, c.stderr⟩

end Diverter

end SpirvToolchain
