import SpirvToolchain.Host.Script
import SpirvToolchain.Proofs.Compilation
import SpirvToolchain.Proofs.Toolchain.Opening

/-! Dumps: one run of the compiler, with its output sent to another file. -/
namespace SpirvToolchain

theorem Arguments.replaced_eq_set {pre : List String} {old : String} (h : old ∉ pre)
    (post : List String) (new : String) :
    replaced (pre ++ old :: post) old new = (pre ++ old :: post).set pre.length new := by
  rw [replaced_append post h]
  simp

theorem Arguments.withOnce_append (pre rest : List String) (arg : String) :
    ∃ rest', withOnce (pre ++ rest) arg = pre ++ rest ++ rest' := by
  unfold withOnce
  split
  · exact ⟨[], by simp⟩
  · exact ⟨[arg], rfl⟩

namespace Toolchain

variable {σ : Type} (host : Host σ) (t : Toolchain) (q : Request) (r : Record σ)

/-- The path of the bitcode is told apart from flags by its last character. -/
theorem artifact_ne {arg : String} (h : arg.toList.getLast? ≠ some 'c') : artifact q "bc" ≠ arg := by
  rintro rfl
  rw [artifact, getLast?_artifactPath _ _ (by decide)] at h
  exact h (by decide)

theorem artifact_notMem_opening : artifact q "bc" ∉ opening := by
  intro hmem
  have hlast : ∀ arg ∈ opening, arg.toList.getLast? ≠ some 'c' := by decide
  exact artifact_ne q (hlast _ hmem) rfl

/-- The arguments of a request with the flag of a dump, without colours. -/
def undiverted (flag : String) : List String :=
  let args := t.arguments q
  (if flag ∈ args then args else args ++ [flag]).filter (· ≠ "-fcolor-diagnostics")

/-- The arguments of a dump: the output is the text of the IR in place of the bitcode. -/
def dumpArguments (flag : String) : List String :=
  (t.undiverted q flag).set 5 (artifact q "ll")

/-- The tokens before the bitcode are left in place. -/
theorem undiverted_eq (hb : ValidFilebase q.outputFilebase) (flag : String) :
    ∃ rest, t.undiverted q flag = opening ++ artifact q "bc" :: rest := by
  obtain ⟨rest, hargs⟩ := t.arguments_eq q hb
  obtain ⟨added, hadded⟩ := Arguments.withOnce_append opening (artifact q "bc" :: rest) flag
  have honce : Arguments.withOnce (t.arguments q) flag =
      opening ++ artifact q "bc" :: (rest ++ added) := by
    rw [hargs, hadded]
    simp
  have hcolour : opening.filter (· ≠ "-fcolor-diagnostics") = opening := by decide
  have hne : artifact q "bc" ≠ "-fcolor-diagnostics" := artifact_ne q (by decide)
  refine ⟨(rest ++ added).filter (· ≠ "-fcolor-diagnostics"), ?_⟩
  calc t.undiverted q flag
      = (Arguments.withOnce (t.arguments q) flag).filter (· ≠ "-fcolor-diagnostics") := rfl
    _ = (opening ++ artifact q "bc" :: (rest ++ added)).filter (· ≠ "-fcolor-diagnostics") := by
        rw [honce]
    _ = _ := by rw [List.filter_append, hcolour, List.filter_cons_of_pos (by simpa)]

theorem divert_eq (hb : ValidFilebase q.outputFilebase) (flag : String) :
    (t.diverter q).divert (Arguments.withOnce (t.arguments q) flag) q.inputFilename =
      t.dumpArguments q flag := by
  obtain ⟨rest, htokens⟩ := t.undiverted_eq q hb flag
  -- No token before the bitcode is equal to it, so the first match is the output of the compiler.
  calc (t.diverter q).divert (Arguments.withOnce (t.arguments q) flag) q.inputFilename
      = Arguments.replaced (t.undiverted q flag) (artifact q "bc") (artifact q "ll") := rfl
    _ = (t.undiverted q flag).set opening.length (artifact q "ll") := by
        rw [htokens, Arguments.replaced_eq_set (artifact_notMem_opening q)]
    _ = t.dumpArguments q flag := rfl

/-- The run of a dump: up to a gigabyte of output, in the directory of the source if it has one. -/
def dumpCall (flag : String) : Invocation where
  exe := t.config.compiler.exe
  args := t.dumpArguments q flag
  options :=
    { cwd := Path.parent? q.inputFilename
      maxOutput := 1073741824
      timeoutMs := t.config.exec.timeoutMs.toNat }

/-- The run of a dump as it is started, whatever the request. -/
def divertedCall (flag : String) : Invocation where
  exe := t.config.compiler.exe
  args := (t.diverter q).divert (Arguments.withOnce (t.arguments q) flag) q.inputFilename
  options :=
    { t.config.exec.options with
      cwd := Path.parent? q.inputFilename
      maxOutput := Diverter.maxOutput }

theorem divertedCall_eq (hb : ValidFilebase q.outputFilebase) (flag : String) :
    t.divertedCall q flag = t.dumpCall q flag := by
  rw [divertedCall, divert_eq t q hb flag]
  rfl

theorem outcome_diverter (flag : String) :
    let o := host.outputOf (t.divertedCall q flag) r.state
    ∃ r', Ran host none (t.divertedCall q flag) r o r' ∧
      ((t.diverter q).run host (Arguments.withOnce (t.arguments q) flag) q.inputFilename
        (t.diverter q).compiler (t.diverter q).options).outcome r =
          (.ofOutput o q.inputFilename, r') := by
  have hran := ran_runProgram host none (t.divertedCall q flag) r
  refine ⟨_, hran.output ▸ hran, ?_⟩
  rw [← hran.output]
  rfl

theorem outcome_ast (hb : ValidFilebase q.outputFilebase) :
    let call := t.dumpCall q "-ast-dump"
    let o := host.outputOf call r.state
    ∃ r', Ran host none call (t.opened q "Dumping AST of " r) o r' ∧
      (t.ast host q).outcome r =
        ((t.astProcessor (.ofOutput o q.inputFilename)).map fun lines => ⟨o.code, lines⟩, r') := by
  obtain ⟨r', hran, hrun⟩ :=
    t.outcome_diverter host q (t.opened q "Dumping AST of " r) "-ast-dump"
  rw [t.divertedCall_eq q hb] at hran hrun
  refine ⟨r', hran, ?_⟩
  have hast : (t.ast host q).outcome r =
      ((t.diverter q).ast host (t.arguments q) q.inputFilename).outcome
        (t.opened q "Dumping AST of " r) := by
    simp [ast, opened]
  rw [hast, Diverter.ast, Session.outcome_bind, hrun]
  rfl

/-- The text of an IR dump: the artifact if there is one, else what the compiler printed. -/
def irSource (o : ExecOutput) (s : σ) : Except Failure String :=
  if host.present (artifact q "ll") s then host.readText (artifact q "ll") s
  else .ok (joinLines (parseOutput o.stdout (some q.inputFilename)))

theorem outcome_irText (o : ExecOutput) :
    ((t.diverter q).irText host q.inputFilename (.ofOutput o q.inputFilename)).outcome r =
      (irSource host q o r.state, r) := by
  have hartifact : ((t.diverter q).artifacts q.inputFilename).irText = artifact q "ll" := rfl
  cases hp : host.present (artifact q "ll") r.state with
  | true => simp [Diverter.irText, irSource, hartifact, hp]
  | false =>
    simp [Diverter.irText, irSource, hartifact, hp]

/-- What a dump of the IR gives once its run is over. -/
def irResult (o : ExecOutput) (s : σ) : Except Failure Dump :=
  if o.code = 0 then (irSource host q o s).bind fun text =>
    (t.irProcessor text q.filters).map fun lines => ⟨o.code, lines⟩
  else .ok ⟨o.code, parseOutput o.stderr (some q.inputFilename)⟩

/-- A dump of the IR, whatever the request: one run, then what it left is read. -/
theorem outcome_ir_diverted :
    let call := t.divertedCall q "-emit-llvm"
    let o := host.outputOf call r.state
    ∃ r', Ran host none call (t.opened q "Dumping LLVM IR of " r) o r' ∧
      ((t.ir host q).outcome r).1 = t.irResult host q o (host.after call r.state) ∧
      ((t.ir host q).outcome r).2.invocations = r'.invocations := by
  obtain ⟨r', hran, hrun⟩ :=
    t.outcome_diverter host q (t.opened q "Dumping LLVM IR of " r) "-emit-llvm"
  refine ⟨r', hran, ?_⟩
  have hstate : r'.state = host.after (t.divertedCall q "-emit-llvm") r.state := hran.state
  have hir : (t.ir host q).outcome r =
      (((t.diverter q).ir host (t.arguments q) q.inputFilename q.filters).outcome
        (t.opened q "Dumping LLVM IR of " r)) := by
    simp [ir, opened]
  rw [hir, ← hstate]
  by_cases hcode : (host.outputOf (t.divertedCall q "-emit-llvm") r.state).code = 0
  · have hprocessor : (t.diverter q).irProcessor = t.irProcessor := rfl
    simp [Diverter.ir, irResult, hrun, hcode, outcome_irText, hprocessor]
    rfl
  · simp [Diverter.ir, irResult, hrun, hcode]

theorem outcome_ir (hb : ValidFilebase q.outputFilebase) :
    let call := t.dumpCall q "-emit-llvm"
    let o := host.outputOf call r.state
    ∃ r', Ran host none call (t.opened q "Dumping LLVM IR of " r) o r' ∧
      ((t.ir host q).outcome r).1 = t.irResult host q o (host.after call r.state) ∧
      ((t.ir host q).outcome r).2.invocations = r'.invocations := by
  rw [← t.divertedCall_eq q hb]
  exact t.outcome_ir_diverted host q r

theorem irSource_eq_error {o : ExecOutput} {s : σ} {f : Failure}
    (hf : irSource host q o s = .error f) :
    host.present (artifact q "ll") s = true ∧ host.readText (artifact q "ll") s = .error f := by
  unfold irSource at hf
  split at hf
  · next hp => exact ⟨hp, hf⟩
  · simp at hf

theorem getElem?_undiverted (hb : ValidFilebase q.outputFilebase) (flag : String) :
    (t.undiverted q flag)[4]? = some "-o" ∧ (t.undiverted q flag)[5]? = some (artifact q "bc") := by
  obtain ⟨rest, htokens⟩ := t.undiverted_eq q hb flag
  simp [htokens, opening, FrontEnd.baseFlags]

theorem eq_error_of_map_eq_error {α β ε : Type} {g : α → β} {x : Except ε α} {e : ε}
    (h : x.map g = .error e) : x = .error e := by
  cases x with
  | error e' => simpa [Except.map] using h
  | ok a => simp [Except.map] at h

theorem irResult_eq_error {o : ExecOutput} {s : σ} {f : Failure}
    (hf : t.irResult host q o s = .error f) :
    (host.present (artifact q "ll") s = true ∧ host.readText (artifact q "ll") s = .error f) ∨
    ∃ text, irSource host q o s = .ok text ∧ t.irProcessor text q.filters = .error f := by
  unfold irResult at hf
  split at hf
  · cases hsource : irSource host q o s with
    | error f' =>
      rw [hsource] at hf
      obtain rfl : f' = f := by simpa [Except.bind] using hf
      exact .inl (irSource_eq_error host q hsource)
    | ok text =>
      rw [hsource] at hf
      exact .inr ⟨text, rfl, eq_error_of_map_eq_error hf⟩
  · cases hf

/--
A dump of a valid request is one run of the compiler, with the arguments of the request but for
the flag of the dump, the colours and the output, which is the text in place of the bitcode.
The processor of the dump gets what that run printed, or the text of the IR if it left one. A
dump fails only where reading or processing that text does.
-/
theorem dump_diverts_compiler (hq : q.validate = .ok q) :
    let treeCall := t.dumpCall q "-ast-dump"
    let irCall := t.dumpCall q "-emit-llvm"
    let tree := (t.ast host q).outcome r
    let ir := (t.ir host q).outcome r
    let printed := Compilation.ofOutput (host.outputOf treeCall r.state) q.inputFilename
    let o := host.outputOf irCall r.state
    let s := host.after irCall r.state
    (∀ tokens ∈ [t.arguments q, t.undiverted q "-ast-dump", t.undiverted q "-emit-llvm"],
      tokens[4]? = some "-o" ∧ tokens[5]? = some (artifact q "bc")) ∧
    tree.2.invocations = r.invocations ++ [treeCall] ∧
    tree.1 = (t.astProcessor printed).map (fun lines => ⟨printed.code, lines⟩) ∧
    ir.2.invocations = r.invocations ++ [irCall] ∧
    ir.1 = (if o.code = 0 then (irSource host q o s).bind fun text =>
        (t.irProcessor text q.filters).map fun lines => ⟨o.code, lines⟩
      else .ok ⟨o.code, parseOutput o.stderr (some q.inputFilename)⟩) ∧
    (∀ f, tree.1 = .error f → t.astProcessor printed = .error f) ∧
    ∀ f, ir.1 = .error f →
      (host.present (artifact q "ll") s = true ∧ host.readText (artifact q "ll") s = .error f) ∨
      ∃ text, irSource host q o s = .ok text ∧ t.irProcessor text q.filters = .error f := by
  have hb := Request.validFilebase_of_validate hq
  obtain ⟨r₁, hran₁, htree⟩ := t.outcome_ast host q r hb
  obtain ⟨r₂, hran₂, hir, hcalls⟩ := t.outcome_ir host q r hb
  refine ⟨?_, ?_, ?_, ?_, hir, ?_, ?_⟩
  · simp only [List.forall_mem_cons, List.not_mem_nil, false_imp_iff, implies_true, and_true]
    exact ⟨t.getElem?_arguments q hb, t.getElem?_undiverted q hb _, t.getElem?_undiverted q hb _⟩
  · rw [htree]
    exact hran₁.invocations
  · rw [htree]
    rfl
  · rw [hcalls]
    exact hran₂.invocations
  · intro f hf
    rw [htree] at hf
    exact eq_error_of_map_eq_error hf
  · intro f hf
    rw [hir] at hf
    exact t.irResult_eq_error host q hf

/-- Asks for colours, and for the IR on its own account. -/
def colouredRequest : Request :=
  { inputFilename := "./src//k.cl/."
    outputFilebase := "k.v2"
    userOptions := ["-fcolor-diagnostics", "-emit-llvm"] }

theorem dump_diverts_coloured :
    colouredRequest.validate = .ok colouredRequest ∧
    ∃ (t : Toolchain) (s : Script),
      let ir := (t.ir Script.host colouredRequest).outcome { state := s }
      ir.2.invocations.map (·.args) = [["-cc1", "-debug-info-kind=limited", "-dwarf-version=5",
        "-debugger-tuning=gdb", "-o", "./src/k.v2.ll", "-emit-llvm", "./src//k.cl/."]] ∧
      ir.1 = .ok ⟨0, [{ text := "the text" }]⟩ := by
  have hq : colouredRequest.validate = .ok colouredRequest := by decide
  let t : Toolchain := { config := {}, irProcessor := fun text _ => .ok [{ text }] }
  let s : Script := { responses := [{ writes := [("./src/k.v2.ll", some "the text")] }] }
  obtain ⟨_, _, _, hcalls, hir, _⟩ :=
    dump_diverts_compiler Script.host t colouredRequest { state := s } hq
  have hargs : t.dumpArguments colouredRequest "-emit-llvm" = ["-cc1", "-debug-info-kind=limited",
      "-dwarf-version=5", "-debugger-tuning=gdb", "-o", "./src/k.v2.ll", "-emit-llvm",
      "./src//k.cl/."] := by decide
  have hpath : artifact colouredRequest "ll" = "./src/k.v2.ll" := by decide
  refine ⟨hq, t, s, ?_, ?_⟩
  · rw [hcalls]
    simp [dumpCall, hargs]
  · rw [hir, irSource, hpath]
    rfl

end Toolchain

end SpirvToolchain
