import SpirvToolchain.Command
import SpirvToolchain.Command.Job
import SpirvToolchain.Toolchain

/-! Running the commands; each ends with the exit code of the program. -/
namespace SpirvToolchain

namespace Workplace

variable (p : Workplace)

/-- Copies the source into the stage under its own name, and gives the path of the copy. -/
def stageSource (input : String) : Job String := do
  let files ← Job.files
  match files.find p.workshop.base input, Path.fileName? input with
  | .ok (.file octets executable), some name =>
    let place := p.stage ++ [name]
    Job.setFiles ((files.put p.stage .directory).put place (.file octets executable))
    return place.path
  | .ok (.file ..), none => throw (.noFileName input)
  | _, _ => throw (.notAFile input)

/-- The request of a command, for the staged source. -/
def request (args : RequestArgs) : Job Request := do
  let staged ← p.stageSource args.input
  Job.ofExcept id (args.toRequest staged)

/-- What is said of a text that was written to a file. -/
def compiledNote (input output : String) : Printout :=
  .onStderr (Text.Ansi.paint p.colours .green "✓" ++ " Compiled " ++ input ++ " -> " ++ output ++ "\n")

/-- Hands the text over: to the file asked for, or else to the standard output. -/
def deliver (args : RequestArgs) (output : Option String) (text : String) : Job Unit := do
  match output with
  | some path =>
    Job.writeText p.workshop path text
    Job.log (.info ("Wrote " ++ path))
    unless args.json do
      Job.print (p.compiledNote args.input path)
  | none =>
    unless args.json do
      Job.print (.onStdout text)

/-- The text that a compilation left behind, if it succeeded. -/
def product (r : Request) (c : Compilation) : Job (Option String) :=
  if c.success then some <$> Job.readText p.workshop (Toolchain.outputPath r) else return none

def compile (t : Toolchain) (args : RequestArgs) (output : Option String) : Job Int := do
  let r ← p.request args
  let c ← Job.session (t.compile p.workshop.host r)
  let text ← p.product r c
  Job.print (if args.json then printJson (c.report text) else c.render p.colours)
  match text with
  | some text =>
    p.deliver args output text
    return 0
  | none =>
    Job.log (.warn ("Compilation failed with code " ++ toString c.code))
    return c.code

/-- Prints a dump and gives the compiler's exit code. -/
def showDump (args : RequestArgs) (dump : Except Failure Dump) : Job Int := do
  let d ← Job.ofExcept .pipeline dump
  Job.print (d.print p.colours args.json)
  unless d.success do
    Job.log (.warn ("Compiler exited with code " ++ toString d.code))
  return d.code

def ast (t : Toolchain) (args : RequestArgs) : Job Int := do
  let r ← p.request args
  p.showDump args (← Job.session (t.ast p.workshop.host r))

def ir (t : Toolchain) (args : RequestArgs) (switches : IrSwitches) : Job Int := do
  let r ← p.request args
  let r := { r with filters := args.filters switches }
  p.showDump args (← Job.session (t.ir p.workshop.host r))

def work (t : Toolchain) : Command → Job Int
  | .compile args output => p.compile t args output
  | .ast args => p.ast t args
  | .ir args switches => p.ir t args switches

/-- Runs a command on files, and clears the stage when it ends. -/
def run (config : ToolchainConfig) (c : Command) (files : Tree) : Except CommandError Int × Desk :=
  let (result, d) := (p.work { config } c).run.run { record := { state := files } }
  (result, { d with record := { d.record with state := d.record.state.prune p.stage } })

end Workplace

end SpirvToolchain
