import SpirvToolchain.Compilation

/-! A result gathered from the outputs of several programs, one after another. -/
namespace SpirvToolchain.Compilation

variable {input : String} {outs : List ExecOutput} {c : Compilation}

@[simp] theorem code_ofOutput (o : ExecOutput) (input : String) :
    (ofOutput o input).code = o.code := rfl

@[simp] theorem stdoutText_ofOutput (o : ExecOutput) (input : String) :
    (ofOutput o input).stdoutText = joinLines (parseOutput o.stdout (some input)) := rfl

@[simp] theorem stderr_ofOutput (o : ExecOutput) (input : String) :
    (ofOutput o input).stderr = parseOutput o.stderr (some input) := rfl

@[simp] theorem success_ofOutput (o : ExecOutput) (input : String) :
    (ofOutput o input).success = decide (o.code = 0) := rfl

/-- A result holds what the outputs have to say, in order; its code is left open. -/
structure Gathers (input : String) (outs : List ExecOutput) (c : Compilation) : Prop where
  inputFilename : c.inputFilename = some input
  stdout : c.stdout = outs.flatMap fun o => parseOutput o.stdout (some input)
  stderr : c.stderr = outs.flatMap fun o => parseOutput o.stderr (some input)
  timedOut : c.timedOut = outs.any (·.timedOut)
  truncated : c.truncated = outs.any (·.truncated)

theorem gathers_ofOutput (o : ExecOutput) (input : String) :
    Gathers input [o] (ofOutput o input) := by
  constructor <;> simp [ofOutput]

theorem Gathers.append (h : Gathers input outs c) (o : ExecOutput) :
    Gathers input (outs ++ [o]) (c.append o) where
  inputFilename := h.inputFilename
  stdout := by simp [Compilation.append, h.inputFilename, h.stdout]
  stderr := by simp [Compilation.append, h.inputFilename, h.stderr]
  timedOut := by simp [Compilation.append, h.timedOut]
  truncated := by simp [Compilation.append, h.truncated]

theorem Gathers.setCode (h : Gathers input outs c) (code : Int) :
    Gathers input outs { c with code } :=
  ⟨h.inputFilename, h.stdout, h.stderr, h.timedOut, h.truncated⟩

end SpirvToolchain.Compilation
