import SpirvToolchain.Config
import SpirvToolchain.Error

/-! Runs of external programs: what is asked of one and what comes back. -/
namespace SpirvToolchain

structure ExecOptions where
  cwd : Option String := none
  /-- Octets kept of each stream; the rest is discarded. -/
  maxOutput : Nat := 1048576
  timeoutMs : Nat := 10000
  deriving DecidableEq, Repr

def ExecConfig.options (c : ExecConfig) : ExecOptions :=
  { maxOutput := c.maxOutput.toNat, timeoutMs := c.timeoutMs.toNat }

structure Invocation where
  exe : String
  args : List String
  options : ExecOptions
  deriving DecidableEq, Repr

structure ExecOutput where
  code : Int := 0
  stdout : String := ""
  stderr : String := ""
  timedOut : Bool := false
  truncated : Bool := false
  deriving DecidableEq, Repr

def ExecOutput.success (o : ExecOutput) : Bool := o.code = 0

/-- Stands for the output of a program that could not be started. -/
def ExecOutput.spawnFailure (f : Failure) : ExecOutput :=
  { code := -1, stderr := f.message }

end SpirvToolchain
