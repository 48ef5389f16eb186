import SpirvToolchain.Proofs.Command.Request
import SpirvToolchain.Proofs.CommandLine.Spelling

/-! What is spelled on a command line is what is asked of the tools. -/
namespace SpirvToolchain

open CommandLine

namespace Command

variable {c : Command} {ws : List Word}

namespace Spelled

variable (h : c.Spelled ws)
include h

/-- The flags that hold for any command are left as they are. -/
theorem either_eq_nil {n : String} (hname : n ∉ flagNames) (hinput : n ≠ inputSlot.name) :
    Reading.either ⟨[], c.name, c.uses ws⟩ n = [] := by
  have hsource : Uses.has [⟨inputSlot.name, some c.args.input⟩] n = false := by
    simpa [Uses.has] using hinput.symm
  have hafter : (c.uses ws).has n = false := by
    rw [uses, has_append, h.has_eq_false hname, hsource]
    rfl
  rw [Reading.either, hafter]
  rfl

theorem ofReading_eq : Launch.ofReading ⟨[], c.name, c.uses ws⟩ = { command := c } := by
  rw [Launch.ofReading, h.toCommand_eq, h.either_eq_nil (by decide) (by decide),
    h.either_eq_nil (by decide) (by decide), h.either_eq_nil (by decide) (by decide),
    h.either_eq_nil (by decide) (by decide), h.either_eq_nil (by decide) (by decide)]
  rfl

end Spelled

/--
A spelled command is read back. Its request has what the words say where every library has an id
and a version and the base name is one; otherwise there is none.
-/
theorem ofArgs_line (h : c.Spelled ws) (hinput : c.args.input ≠ "")
    (houtput : c.output? ≠ some "") :
    Command.ofArgs (c.line ws) = .ok c ∧ Launch.ofArgs (c.line ws) = .ok { command := c } ∧
      ∀ staged,
        (∀ ls, List.Forall₂ (fun text l => l.NamedBy text) c.args.libraries ls →
          ValidFilebase c.args.outputBase →
            c.args.toRequest staged = .ok (c.args.requestFor staged ls)) ∧
        ((∃ text ∈ c.args.libraries, ∀ l : LibrarySpec, ¬ l.NamedBy text) ∨
            ¬ ValidFilebase c.args.outputBase →
          ∃ e, c.args.toRequest staged = .error e) := by
  have hbare : bare.read (c.line ws) = .ok ⟨[], c.name, c.uses ws⟩ := by
    refine h.read_line [helpFlag] hinput houtput rfl ?_
    cases c <;> rfl
  have hfull : full.read (c.line ws) = .ok ⟨[], c.name, c.uses ws⟩ := by
    refine h.read_line (globalFlags ++ [helpFlag]) hinput houtput rfl ?_
    cases c <;> rfl
  refine ⟨?_, ?_, fun staged => ⟨?_, ?_⟩⟩
  · rw [Command.ofArgs, hbare]
    exact congrArg Except.ok h.toCommand_eq
  · rw [Launch.ofArgs, hfull]
    exact congrArg Except.ok h.ofReading_eq
  · intro ls hls hbase
    exact RequestArgs.toRequest_eq_ok_iff.2 ⟨ls, hls, hbase, rfl⟩
  · exact RequestArgs.exists_toRequest_error staged

/-- A command whose options look like flags, with a colon in the version of a library. -/
def sampleLine : Command :=
  .compile
    { input := "-in.sp"
      options := ["--json", "-o=1", "", "--library=a:b"]
      libraries := ["fmt:9", "std::2"]
      binary := true
      outputBase := "=out"
      json := true }
    (some "--out")

def sampleWords : List Word :=
  [.option "--json", .switch "json", .library "fmt:9", .output "--out", .option "-o=1", .option "",
    .outputBase "=out", .switch "binary", .library "std::2", .option "--library=a:b"]

theorem ofArgs_line_sampleLine :
    (sampleLine.Spelled sampleWords ∧ sampleLine.args.input ≠ "" ∧ sampleLine.output? ≠ some "") ∧
      sampleLine.line sampleWords =
        ["compile", "--option=--json", "--json", "--library=fmt:9", "--output=--out",
          "--option=-o=1", "--option=", "--output-base==out", "--binary", "--library=std::2",
          "--option=--library=a:b", "--", "-in.sp"] ∧
      Command.ofArgs (sampleLine.line sampleWords) = .ok sampleLine ∧
      Launch.ofArgs (sampleLine.line sampleWords) = .ok { command := sampleLine } ∧
      sampleLine.args.toRequest "/s/-in.sp" =
        .ok (sampleLine.args.requestFor "/s/-in.sp" [⟨"fmt", "9"⟩, ⟨"std", ":2"⟩]) := by
  have hspelled : sampleLine.Spelled sampleWords := by
    constructor
    all_goals decide
  have hinput : sampleLine.args.input ≠ "" := by decide
  have houtput : sampleLine.output? ≠ some "" := by decide
  obtain ⟨hcommand, hlaunch, hrequest⟩ := ofArgs_line hspelled hinput houtput
  refine ⟨⟨hspelled, hinput, houtput⟩, by decide, hcommand, hlaunch,
    (hrequest "/s/-in.sp").1 _ ?_ (by decide)⟩
  refine .cons ?_ (.cons ?_ .nil)
  all_goals
    constructor
    all_goals decide

end Command

end SpirvToolchain
