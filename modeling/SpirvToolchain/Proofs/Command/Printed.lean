import SpirvToolchain.Proofs.Command.Frame
import SpirvToolchain.Proofs.Text.Escapes

/-! What a compilation prints of its result: every line, unless it succeeds without a text. -/
namespace SpirvToolchain

open Text.Ansi (IsSequence paint)

/-- What may stand next to the text of a printed line: one escape sequence, in colour. -/
def IsStyle (colours : Bool) (s : List Char) : Prop := s = [] ∨ colours = true ∧ IsSequence s

/-- The text starts with the lines, in order: each styled at most, and with a newline after it. -/
inductive Shows (colours : Bool) : List Line → List Char → Prop
  | nil (rest : List Char) : Shows colours [] rest
  | cons {l : Line} {ls : List Line} {before after rest : List Char}
      (hbefore : IsStyle colours before) (hafter : IsStyle colours after)
      (hrest : Shows colours ls rest) :
      Shows colours (l :: ls) (before ++ l.text.toList ++ after ++ '\n' :: rest)

variable {colours : Bool}

theorem isStyle_nil (colours : Bool) : IsStyle colours [] := .inl rfl

theorem exists_style_paint (colours : Bool) (style : Text.Ansi.Style) (text : String) :
    ∃ before after, IsStyle colours before ∧ IsStyle colours after ∧
      (paint colours style text).toList = before ++ text.toList ++ after := by
  cases colours with
  | false => exact ⟨[], [], isStyle_nil false, isStyle_nil false, by simp [paint]⟩
  | true =>
    have hcode : ∀ c ∈ style.code.toList, Text.Ansi.isParameter c = true := by
      -- A search through all characters is no way to decide this.
      rw [← List.all_eq_true]
      cases style <;> decide
    refine ⟨Text.Ansi.escape :: '[' :: (style.code.toList ++ ['m']), "\x1b[0m".toList,
      .inr ⟨rfl, _, 'm', rfl, hcode, by decide⟩,
      .inr ⟨rfl, ['0'], 'm', rfl, List.all_eq_true.1 rfl, by decide⟩, ?_⟩
    simp [paint, Text.Ansi.escape]

theorem Line.exists_style_render (colours : Bool) (l : Line) :
    ∃ before after, IsStyle colours before ∧ IsStyle colours after ∧
      (l.render colours).toList = before ++ l.text.toList ++ after := by
  unfold Line.render
  split
  · exact exists_style_paint colours _ l.text
  · exact ⟨[], [], isStyle_nil colours, isStyle_nil colours, by simp⟩

theorem shows_renderLines (ls : List Line) (more : List Char) :
    Shows colours ls ((renderLines colours ls).toList ++ more) := by
  induction ls with
  | nil => exact .nil more
  | cons l ls ih =>
    obtain ⟨before, after, hbefore, hafter, htext⟩ := l.exists_style_render colours
    have hline : (renderLines colours (l :: ls)).toList ++ more =
        before ++ l.text.toList ++ after ++ '\n' :: ((renderLines colours ls).toList ++ more) := by
      simp [renderLines, htext]
    rw [hline]
    exact .cons hbefore hafter ih

/-- A result shows its lines, whatever is printed after it. -/
theorem Compilation.shows_render (c : Compilation) (more : Printout) :
    Shows colours c.stdout (c.render colours ++ more).stdout.toList ∧
      Shows colours c.stderr (c.render colours ++ more).stderr.toList := by
  have hshown (ls : List Line) (rest : String) :
      Shows colours ls (renderLines colours ls ++ rest).toList := by
    rw [String.toList_append]
    exact shows_renderLines ls _
  refine ⟨hshown c.stdout more.stdout, ?_⟩
  have hstderr : (c.render colours ++ more).stderr = (c.render colours).stderr ++ more.stderr := rfl
  rw [hstderr, Compilation.render, String.append_assoc, String.append_assoc]
  exact hshown c.stderr _

namespace Printout

@[simp] theorem empty_append (a : Printout) : ({} : Printout) ++ a = a := by
  cases a
  exact congrArg₂ mk String.empty_append String.empty_append

@[simp] theorem append_empty (a : Printout) : a ++ ({} : Printout) = a := by
  cases a
  exact congrArg₂ mk String.append_empty String.append_empty

end Printout

namespace Workplace

open Toolchain (outputPath)

variable {p : Workplace} {t : Toolchain} {files : Tree} {args : RequestArgs} {output : Option String}
  {q : Request} {made : Compilation} {r : Record Tree}

theorem printed_opening (p : Workplace) (args : RequestArgs) (files : Tree) :
    (p.opening args files).2.printed = {} := by
  rcases p.request_cases args (.of files) with ⟨name, staged, -, h⟩ | ⟨e, h⟩
  · rw [opening, h]
    rfl
  · rw [opening, h]
    rfl

theorem exists_printed_deliver (p : Workplace) (args : RequestArgs) (output : Option String)
    (text : String) (d : Desk) :
    ∃ more, ((p.deliver args output text).outcome d).2.printed = d.printed ++ more := by
  cases output with
  | none =>
    cases hjson : args.json with
    | false => exact ⟨.onStdout text, by simp [deliver, hjson]⟩
    | true => exact ⟨{}, by simp [deliver, hjson]⟩
  | some path =>
    simp only [deliver, Job.outcome_bind, Job.outcome_writeText]
    cases d.record.state.writeText p.workshop.base path text with
    | error e => exact ⟨{}, by simp⟩
    | ok files =>
      cases hjson : args.json with
      | false => exact ⟨p.compiledNote args.input path, by simp [Desk.withFiles]⟩
      | true => exact ⟨{}, by simp [Desk.withFiles]⟩

/-- The tools start with the request made and nothing printed. -/
theorem Compiled.started (h : Compiled p t files args q made r) :
    ∃ record, (p.request args).outcome (.of files) = (.ok q, { record }) ∧
      (t.compile p.workshop.host q).outcome record = (made, r) := by
  rcases hopening : p.opening args files with ⟨accepted, record, printed⟩
  have hprinted := p.printed_opening args files
  obtain ⟨haccepted, hmade⟩ := h
  rw [hopening] at haccepted hmade hprinted
  obtain rfl : accepted = .ok q := haccepted
  obtain rfl : printed = {} := hprinted
  exact ⟨record, hopening, hmade⟩

/-- A compilation that succeeds without a text ends before it has printed anything. -/
theorem compile_of_unreadable (h : Compiled p t files args q made r) (output : Option String)
    {e : IoError} (hcode : made.code = 0)
    (htext : r.state.readText p.workshop.base (outputPath q) = .error e) :
    (p.compile t args output).outcome (.of files) = (.error (.ofIo e), { record := r }) := by
  obtain ⟨record, hrequest, hmade⟩ := h.started
  simp only [compile, Job.outcome_bind, hrequest, Job.outcome_session, hmade, outcome_product,
    if_pos hcode, htext, mapError_error, Except.map]

/-- Every other compilation prints its result before anything else. -/
theorem exists_printed_compile (h : Compiled p t files args q made r) (output : Option String)
    (hjson : args.json = false)
    (hread : made.code = 0 →
      ∃ text, r.state.readText p.workshop.base (outputPath q) = .ok text) :
    ∃ more, ((p.compile t args output).outcome (.of files)).2.printed =
      made.render p.colours ++ more := by
  obtain ⟨record, hrequest, hmade⟩ := h.started
  simp only [compile, Job.outcome_bind, hrequest, Job.outcome_session, hmade, outcome_product, hjson]
  by_cases hcode : made.code = 0
  · obtain ⟨text, htext⟩ := hread hcode
    obtain ⟨more, hmore⟩ := p.exists_printed_deliver args output text
      { record := r, printed := made.render p.colours }
    refine ⟨more, ?_⟩
    rw [← hmore]
    simp [hcode, htext, Except.map]
  · exact ⟨{}, by simp [hcode, Except.map]⟩

/--
Every line of the result is printed on its own stream, in order and before anything else, however
the command ends: but not if the compilation succeeds and its text cannot be read. The command then
ends in the error of that read, with nothing printed and the lines lost.
-/
theorem run_prints_lines {config : ToolchainConfig}
    (h : Compiled p { config } files args q made r) (hjson : args.json = false)
    (output : Option String) :
    let text := r.state.readText p.workshop.base (outputPath q)
    let final := p.run config (.compile args output) files
    ((made.code = 0 → ∃ spirv, text = .ok spirv) →
      Shows p.colours made.stdout final.2.printed.stdout.toList ∧
      Shows p.colours made.stderr final.2.printed.stderr.toList) ∧
    (∀ e, made.code = 0 → text = .error e →
      final.1 = .error (.ofIo e) ∧ final.2.printed = {}) := by
  intro text final
  have hresult : final.1 = ((p.compile { config } args output).outcome (.of files)).1 := rfl
  have hprinted :
      final.2.printed = ((p.compile { config } args output).outcome (.of files)).2.printed := rfl
  refine ⟨fun hread => ?_, fun e hcode htext => ?_⟩
  · obtain ⟨more, hmore⟩ := exists_printed_compile h output hjson hread
    rw [hprinted, hmore]
    exact made.shows_render more
  · rw [hresult, hprinted, compile_of_unreadable h output hcode htext]
    exact ⟨rfl, rfl⟩

/-- A compiler that warns, and a disassembler that does what is said here. -/
def warningWorkplace (disassembled : Tree → Tree) : Workplace where
  stage := ["tmp", "spvc"]
  workshop :=
    { base := []
      start := fun i t =>
        if i.exe = "clang" then
          (.ok { stderr := "warning: unused" },
            t.put ["tmp", "spvc", "output.bc"] (.file [] false))
        else if i.exe = "spirv-dis" then (.ok {}, disassembled t)
        else (.ok {}, t) }

theorem run_warningWorkplace :
    let files := sampleFiles "k.cl"
    let args : RequestArgs := { input := "/work/k.cl" }
    let readable := warningWorkplace (·.put ["tmp", "spvc", "output.spvasm"] (.file [] false))
    let unreadable := warningWorkplace id
    let final (p : Workplace) := p.run {} (.compile args none) files
    Shows false [{ text := "warning: unused" }] (final readable).2.printed.stderr.toList ∧
    (∃ q made r, Compiled unreadable { config := {} } files args q made r ∧
      made.stderr = [{ text := "warning: unused" }]) ∧
    (final unreadable).1 = .error (.ofIo .notFound) ∧ (final unreadable).2.printed = {} := by
  intro files args readable unreadable final
  let q : Request := { inputFilename := "/tmp/spvc/k.cl" }
  let outcome (p : Workplace) :=
    (({ config := {} } : Toolchain).compile p.workshop.host q).outcome (p.opening args files).2.record
  have hcompiled (p : Workplace) (hopening : (p.opening args files).1 = .ok q) :
      Compiled p { config := {} } files args q (outcome p).1 (outcome p).2 := ⟨hopening, rfl⟩
  have hreadable := hcompiled readable (by decide)
  have hunreadable := hcompiled unreadable (by decide)
  have hwarning : (outcome readable).1.stderr = [{ text := "warning: unused" }] := by decide
  have hwarning' : (outcome unreadable).1.stderr = [{ text := "warning: unused" }] := by decide
  obtain ⟨hshown, -⟩ := run_prints_lines hreadable rfl none
  obtain ⟨-, hlost⟩ := run_prints_lines hunreadable rfl none
  refine ⟨?_, ⟨q, _, _, hunreadable, hwarning'⟩, hlost .notFound (by decide) (by decide)⟩
  rw [← hwarning]
  exact (hshown fun _ => ⟨"", by decide⟩).2

end Workplace

end SpirvToolchain
