import SpirvToolchain.Proofs.Command.Ending
import SpirvToolchain.Proofs.Toolchain.Product

/-! What a command does to the files of its user, apart from the programs that it starts. -/
namespace SpirvToolchain.Workplace

open Toolchain (outputPath)

variable {p : Workplace} {config : ToolchainConfig} {t : Toolchain} {files left : Tree} {c : Command}
  {args : RequestArgs} {output : Option String} {q : Request} {made : Compilation}
  {dump : Except Failure Dump} {r : Record Tree} {result : Except CommandError Int}
  {calls : List Invocation}

theorem Compiled.state_eq (h : Compiled p t files args q made r) :
    r.state = p.workshop.host.afterAll r.invocations (p.opening args files).2.record.state := by
  obtain ⟨calls, hcalls, hstate⟩ := t.compile_state p.workshop.host q (p.opening args files).2.record
  rw [h.outcome, p.invocations_opening, List.nil_append] at hcalls
  rw [h.outcome] at hstate
  rw [hcalls, hstate]

theorem Compiled.produces {text : String} (h : Compiled p t files args q made r)
    (hcode : made.code = 0)
    (htext : r.state.readText p.workshop.base (outputPath q) = .ok text) :
    t.Produces p.workshop.host q (p.opening args files).2.record.state text ∧
      r.invocations = t.plan q := by
  have hread : p.workshop.host.readText (outputPath q) r.state = .ok text := by
    simp [Workshop.host, htext]
  have hend :=
    @Toolchain.produces_of_code _ p.workshop.host t q (p.opening args files).2.record text
  rw [h.outcome, p.invocations_opening, List.nil_append] at hend
  exact hend hcode hread

/-- A dump is one run of the compiler, and says how that failed. -/
theorem Dumped.ran (h : Dumped p { config } files c q dump r) :
    ∃ call, call.exe = config.compiler.exe ∧ r.invocations = [call] ∧
      let s := (p.opening c.args files).2.record.state
      let code := (p.workshop.host.outputOf call s).code
      r.state = p.workshop.host.after call s ∧ (code ≠ 0 → ∃ lines, dump = .ok ⟨code, lines⟩) := by
  obtain ⟨session, hsession, houtcome⟩ := h.outcome
  have hnone := p.invocations_opening c.args files
  cases c with
  | compile args output => cases hsession
  | ast args =>
    obtain rfl := Option.some.inj hsession
    obtain ⟨hcalls, hstate, hresult⟩ := Toolchain.ast_ran p.workshop.host { config } q
      (p.opening (Command.ast args).args files).2.record
    rw [houtcome, hnone] at hcalls
    rw [houtcome] at hstate hresult
    exact ⟨_, rfl, hcalls, hstate, fun _ => ⟨_, hresult⟩⟩
  | ir args switches =>
    obtain rfl := Option.some.inj hsession
    obtain ⟨hcalls, hstate, hresult⟩ := Toolchain.ir_ran p.workshop.host { config }
      { q with filters := args.filters switches }
      (p.opening (Command.ir args switches).args files).2.record
    rw [houtcome, hnone] at hcalls
    rw [houtcome] at hstate hresult
    refine ⟨_, rfl, hcalls, hstate, fun hcode => ?_⟩
    rw [Toolchain.irResult, if_neg hcode] at hresult
    exact ⟨_, hresult⟩

variable (p t files args calls) in
/-- The programs of a compilation have all been started, and have made a text. -/
def Makes (text : String) : Prop :=
  ∃ q, (p.opening args files).1 = .ok q ∧ calls = t.plan q ∧
    t.Produces p.workshop.host q (p.opening args files).2.record.state text

/-- Unless a compilation ends well, a command leaves the files as its programs do. -/
theorem Ending.left_eq (h : Ending p { config } files c result left calls)
    (hcompile : ∀ args output, c = .compile args output → result ≠ .ok 0) :
    left = p.workshop.host.afterAll calls (p.opening c.args files).2.record.state := by
  have hdumped {dump : Except Failure Dump} {q : Request} {r : Record Tree}
      (h : Dumped p { config } files c q dump r) :
      r.state = p.workshop.host.afterAll r.invocations (p.opening c.args files).2.record.state := by
    obtain ⟨call, -, hcalls, hstate, -⟩ := h.ran
    rw [hcalls, hstate]
    rfl
  cases h with
  | refused hrefused =>
    rw [p.invocations_opening]
    rfl
  | failed h => exact h.state_eq
  | unreadable h => exact h.state_eq
  | undelivered h => exact h.state_eq
  | delivered => exact absurd rfl (hcompile _ _ rfl)
  | unprocessed h => exact hdumped h
  | dumped h => exact hdumped h

/-- A compilation that ends well has made a text, and delivered it. -/
theorem Ending.delivered_of_zero
    (h : Ending p t files (.compile args output) (.ok 0) left calls) :
    let worked := p.workshop.host.afterAll calls (p.opening args files).2.record.state
    ∃ text, Makes p t files args calls text ∧ p.delivered output worked text = .ok left := by
  -- The result is an index of the ending, so it has to be a variable before the cases are split.
  generalize hresult : (Except.ok 0 : Except CommandError Int) = result at h
  cases h with
  | refused => cases hresult
  | failed h hcode => exact absurd (Except.ok.inj hresult).symm hcode
  | unreadable => cases hresult
  | undelivered => cases hresult
  | @delivered _ _ q made r text _ h hcode htext hdelivered =>
    obtain ⟨hproduces, hcalls⟩ := h.produces hcode htext
    refine ⟨text, ⟨q, h.opening, hcalls, hproduces⟩, ?_⟩
    rw [← h.state_eq, hdelivered]
  | unprocessed => cases hresult
  | dumped h =>
    obtain ⟨session, hsession, -⟩ := h.outcome
    cases hsession

/-- A compilation is over before the command ends, and so is the command if it failed. -/
theorem Ending.compiled (h : Ending p t files (.compile args output) result left calls)
    (hopening : (p.opening args files).1 = .ok q) :
    ∃ made r, Compiled p t files args q made r ∧ calls = r.invocations ∧
      (made.code ≠ 0 → result = .ok made.code) := by
  have hsame {q' : Request} {made : Compilation} {r : Record Tree}
      (h : Compiled p t files args q' made r) : Compiled p t files args q made r := by
    obtain rfl : q' = q := Except.ok.inj (h.opening.symm.trans hopening)
    exact h
  cases h with
  | refused hrefused =>
    rw [Command.args, hopening] at hrefused
    cases hrefused
  | failed h _ => exact ⟨_, _, hsame h, rfl, fun _ => rfl⟩
  | unreadable h hzero => exact ⟨_, _, hsame h, rfl, fun hcode => absurd hzero hcode⟩
  | undelivered h hzero => exact ⟨_, _, hsame h, rfl, fun hcode => absurd hzero hcode⟩
  | delivered h hzero => exact ⟨_, _, hsame h, rfl, fun hcode => absurd hzero hcode⟩
  | unprocessed h =>
    obtain ⟨session, hsession, -⟩ := h.outcome
    cases hsession
  | dumped h =>
    obtain ⟨session, hsession, -⟩ := h.outcome
    cases hsession

/-- A dump is one run of the compiler, whose failure is that of the command. -/
theorem Ending.of_dump (h : Ending p { config } files c result left calls)
    (hopening : (p.opening c.args files).1 = .ok q)
    (hdump : ∀ args output, c ≠ .compile args output) :
    ∃ call, call.exe = config.compiler.exe ∧ calls = [call] ∧
      let code := (p.workshop.host.outputOf call (p.opening c.args files).2.record.state).code
      code ≠ 0 → result = .ok code := by
  cases h with
  | refused hrefused =>
    rw [hopening] at hrefused
    cases hrefused
  | failed => exact absurd rfl (hdump _ _)
  | unreadable => exact absurd rfl (hdump _ _)
  | undelivered => exact absurd rfl (hdump _ _)
  | delivered => exact absurd rfl (hdump _ _)
  | unprocessed h =>
    obtain ⟨call, hexe, hcalls, -, hfailed⟩ := h.ran
    refine ⟨call, hexe, hcalls, fun hcode => ?_⟩
    obtain ⟨lines, hlines⟩ := hfailed hcode
    cases hlines
  | dumped h =>
    obtain ⟨call, hexe, hcalls, -, hfailed⟩ := h.ran
    refine ⟨call, hexe, hcalls, fun hcode => ?_⟩
    obtain ⟨lines, hlines⟩ := hfailed hcode
    rw [Except.ok.inj hlines]

variable (p) in
/-- A run is a command at work, after which its stage is cleared. -/
theorem ending_run (config : ToolchainConfig) (c : Command) (files : Tree) :
    let final := p.run config c files
    ∃ left, Ending p { config } files c final.1 left final.2.record.invocations ∧
      final.2.record.state = left.prune p.stage :=
  ⟨_, p.ending_work { config } c files, rfl⟩

/-- What differs once a text is delivered is the target, which holds that text. -/
theorem node?_delivered {text : String} {worked : Tree} {place : Place}
    (h : p.delivered output worked text = .ok left) (hne : left.node? place ≠ worked.node? place) :
    ∃ path, output = some path ∧ worked.target p.workshop.base path = .ok place ∧
      left.node? place =
        some (.file (Text.Utf8.encode text.toList) (worked.isExecutable place)) := by
  cases output with
  | none =>
    obtain rfl : worked = left := Except.ok.inj h
    exact absurd rfl hne
  | some path =>
    obtain ⟨target, htarget, ⟨rfl, -⟩ | rfl⟩ := Tree.writeText_eq_ok h
    · exact absurd rfl hne
    · have hplace : place = target := by
        by_contra hother
        exact hne (Tree.node?_put_of_ne hother)
      subst hplace
      exact ⟨path, rfl, htarget, Tree.node?_put_self ..⟩

/-- A delivered text is what the target holds, unless a device took it. -/
theorem exists_target_of_delivered {text path : String} {worked : Tree}
    (h : p.delivered (some path) worked text = .ok left) :
    ∃ place, worked.target p.workshop.base path = .ok place ∧
      ((∃ device, worked.node? place = some (.device device)) ∨
        left.node? place =
          some (.file (Text.Utf8.encode text.toList) (worked.isExecutable place))) := by
  obtain ⟨place, htarget, ⟨-, hdevice⟩ | rfl⟩ := Tree.writeText_eq_ok h
  · exact ⟨place, htarget, .inl hdevice⟩
  · exact ⟨place, htarget, .inr (Tree.node?_put_self ..)⟩

variable (p) in
/--
Outside its stage a command changes what its programs change, and one file more at most: the
target of a compilation in which all three programs did well, the first left its bitcode and the
last a readable text, which is then all that the target holds. Only such a compilation ends with
zero. One whose programs end with another code ends with that, and so does a dump whose compiler
fails.
-/
theorem run_spares_files (config : ToolchainConfig) (c : Command) (files : Tree) :
    let t : Toolchain := { config }
    let host := p.workshop.host
    let start := p.opening c.args files
    let final := p.run config c files
    let left := final.2.record.state
    let calls := final.2.record.invocations
    let worked := host.afterAll calls start.2.record.state
    Tree.SameOutside p.stage start.2.record.state files ∧
    (∀ place, ¬ p.stage <+: place → left.node? place ≠ worked.node? place →
      ∃ args path text, c = .compile args (some path) ∧ Makes p t files args calls text ∧
        worked.target p.workshop.base path = .ok place ∧
        left.node? place =
          some (.file (Text.Utf8.encode text.toList) (worked.isExecutable place))) ∧
    (∀ args output, c = .compile args output → final.1 = .ok 0 →
      ∃ text, Makes p t files args calls text ∧ ∀ path, output = some path →
        ∃ place, worked.target p.workshop.base path = .ok place ∧
          (p.stage <+: place ∨ (∃ device, worked.node? place = some (.device device)) ∨
            left.node? place =
              some (.file (Text.Utf8.encode text.toList) (worked.isExecutable place)))) ∧
    (∀ args output q, c = .compile args output → start.1 = .ok q →
      let code := ((t.compile host q).outcome start.2.record).1.code
      code ≠ 0 → final.1 = .ok code) ∧
    (∀ q, (∀ args output, c ≠ .compile args output) → start.1 = .ok q →
      ∃ call, call.exe = config.compiler.exe ∧ calls = [call] ∧
        let code := (host.outputOf call start.2.record.state).code
        code ≠ 0 → final.1 = .ok code) := by
  intro t host start final left calls worked
  -- The stage is cleared after the command has ended, so the two trees differ inside it alone.
  obtain ⟨unpruned, hending, hleft⟩ := p.ending_run config c files
  have hsame : Tree.SameOutside p.stage left unpruned := by
    rw [show left = unpruned.prune p.stage from hleft]
    exact Tree.SameOutside.prune p.stage unpruned
  refine ⟨p.sameOutside_opening c.args files, ?_, ?_, ?_, ?_⟩
  · intro place hplace hne
    rw [hsame place hplace] at hne ⊢
    -- Only a compilation that ends well does more than its programs.
    by_cases hended : ∃ args output, c = .compile args output ∧ final.1 = .ok 0
    · obtain ⟨args, output, rfl, hzero⟩ := hended
      rw [hzero] at hending
      obtain ⟨text, hmakes, hdelivered⟩ := hending.delivered_of_zero
      obtain ⟨path, rfl, htarget, hnode⟩ := node?_delivered hdelivered hne
      exact ⟨args, path, text, rfl, hmakes, htarget, hnode⟩
    · have heq := hending.left_eq fun args output hc hzero => hended ⟨args, output, hc, hzero⟩
      exact absurd (congrArg (Tree.node? · place) heq) hne
  · rintro args output rfl hzero
    rw [hzero] at hending
    obtain ⟨text, hmakes, hdelivered⟩ := hending.delivered_of_zero
    refine ⟨text, hmakes, ?_⟩
    rintro path rfl
    obtain ⟨place, htarget, hnode⟩ := exists_target_of_delivered hdelivered
    refine ⟨place, htarget, ?_⟩
    by_cases hplace : p.stage <+: place
    · exact .inl hplace
    · rw [hsame place hplace]
      exact .inr hnode
  · rintro args output q rfl hopening code hcode
    obtain ⟨made, r, hcompiled, -, hresult⟩ := hending.compiled hopening
    have hmade : code = made.code := congrArg (·.1.code) hcompiled.outcome
    rw [hmade] at hcode ⊢
    exact hresult hcode
  · intro q hdump hopening
    exact hending.of_dump hopening hdump

/-- A compiler that does what is said here, and a disassembler that writes a text. -/
def sampleWorkplace (compiled : Tree → Tree) : Workplace where
  stage := ["tmp", "spvc"]
  workshop :=
    { base := []
      start := fun i t =>
        if i.exe = "clang" then (.ok {}, compiled t)
        else if i.exe = "spirv-dis" then
          (.ok {}, t.put ["tmp", "spvc", "output.spvasm"]
            (.file (Text.Utf8.encode "OpNop".toList) false))
        else (.ok {}, t) }

/-- A source in a directory, and a directory for the stage. -/
def sampleFiles (name : String) : Tree :=
  ⟨fun place =>
    if place = ["work", name] then some (.file [] false)
    else if place = [] ∨ place = ["work"] ∨ place = ["tmp"] then some .directory
    else none⟩

theorem run_sampleWorkplace :
    let p := sampleWorkplace (·.put ["tmp", "spvc", "output.bc"] (.file [] false))
    let files := sampleFiles "k.cl"
    let args : RequestArgs := { input := "/work/k.cl" }
    let final := p.run {} (.compile args (some "/work/k.spvasm")) files
    (∃ text, Makes p { config := {} } files args final.2.record.invocations text) ∧
    files.node? ["work", "k.spvasm"] = none ∧
    final.2.record.state.node? ["work", "k.spvasm"] =
      some (.file (Text.Utf8.encode "OpNop".toList) false) := by
  intro p files args final
  obtain ⟨-, -, hzero, -⟩ := p.run_spares_files {} (.compile args (some "/work/k.spvasm")) files
  obtain ⟨text, hmakes, -⟩ := hzero args _ rfl (by decide)
  exact ⟨⟨text, hmakes⟩, by decide, by decide⟩

end SpirvToolchain.Workplace
