import SpirvToolchain.Toolchain
import SpirvToolchain.Proofs.Artifact
import SpirvToolchain.Proofs.Host

/-! How the arguments of a valid request start, and what is reported before any program. -/
namespace SpirvToolchain

variable {σ : Type} (t : Toolchain) (q : Request)

theorem Request.validFilebase_of_validate {q q' : Request} (h : q.validate = .ok q') :
    ValidFilebase q.outputFilebase := by
  by_contra hq
  simp [Request.validate, hq] at h

namespace Toolchain

/-- The path of an artifact of a request, by its extension. -/
def artifact (extension : String) : String := artifactPath q.sourceDir q.outputFilebase extension

/-- The flags before the path of the bitcode. -/
def opening : List String := FrontEnd.baseFlags ++ ["-o"]

/--
The bitcode that the arguments name is found from the path of the text, by way of its directory;
it is the one beside the source all the same.
-/
theorem arguments_eq (hb : ValidFilebase q.outputFilebase) :
    ∃ rest, t.arguments q = opening ++ artifact q "bc" :: rest := by
  have hbitcode : artifactPath (Path.parent (outputPath q)) q.outputFilebase "bc" =
      artifact q "bc" :=
    artifactPath_parent_artifactPath hb
      (Artifacts.no_separator_of_mem_extensions (by decide)) q.inputFilename "bc"
  simp [arguments, FrontEnd.arguments, FrontEnd.Groups.toArgs, FrontEnd.Groups.all,
    FrontEnd.groups, FrontEnd.baseOptions, setup, hbitcode, opening]

/-- The place of the output in the arguments of a request. -/
theorem getElem?_arguments (hb : ValidFilebase q.outputFilebase) :
    (t.arguments q)[4]? = some "-o" ∧ (t.arguments q)[5]? = some (artifact q "bc") := by
  obtain ⟨rest, hargs⟩ := t.arguments_eq q hb
  simp [hargs, opening, FrontEnd.baseFlags]

/-- The record when the programs are about to start: the task and the warnings are reported. -/
def opened (task : String) (r : Record σ) : Record σ :=
  (r.logged (.info (task ++ q.inputFilename))).loggedAll (t.warnings q)

@[simp] theorem opened_state (task : String) (r : Record σ) :
    (t.opened q task r).state = r.state := rfl

@[simp] theorem outcome_prepareArguments (r : Record σ) :
    (t.prepareArguments q : Session σ (List String)).outcome r =
      (t.arguments q, r.loggedAll (t.warnings q)) := by
  simp [prepareArguments]

end Toolchain

end SpirvToolchain
