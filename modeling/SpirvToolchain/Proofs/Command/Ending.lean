import SpirvToolchain.Proofs.Command.Stage

/-! The ways in which a command ends, each with its result and what it leaves. -/
namespace SpirvToolchain.Workplace

open Toolchain (outputPath)

variable (p : Workplace) (t : Toolchain)

/-- The dump that a command asks for, unless it is a compilation. -/
def dump? (q : Request) : Command → Option (Session Tree (Except Failure Dump))
  | .compile .. => none
  | .ast _ => some (t.ast p.workshop.host q)
  | .ir args switches => some (t.ir p.workshop.host { q with filters := args.filters switches })

/-- The files once a text is where it was asked for; without a target it is only printed. -/
def delivered (output : Option String) (files : Tree) (text : String) : Except IoError Tree :=
  match output with
  | some path => files.writeText p.workshop.base path text
  | none => .ok files

/-- The request of a command is accepted, and its compilation is over. -/
structure Compiled (files : Tree) (args : RequestArgs) (q : Request) (made : Compilation)
    (r : Record Tree) : Prop where
  opening : (p.opening args files).1 = .ok q
  outcome : (t.compile p.workshop.host q).outcome (p.opening args files).2.record = (made, r)

/-- The request of a command is accepted, and the dump that it asks for is over. -/
structure Dumped (files : Tree) (c : Command) (q : Request) (made : Except Failure Dump)
    (r : Record Tree) : Prop where
  opening : (p.opening c.args files).1 = .ok q
  outcome : ∃ session, p.dump? t q c = some session ∧
    session.outcome (p.opening c.args files).2.record = (made, r)

/--
A way for a command to end, by how far it came: the result, the files and the programs that were
started.
-/
inductive Ending (files : Tree) : Command → Except CommandError Int → Tree → List Invocation → Prop
  | refused {c : Command} {e : CommandError} (hrefused : (p.opening c.args files).1 = .error e) :
      Ending files c (.error e) (p.opening c.args files).2.record.state
        (p.opening c.args files).2.record.invocations
  | failed {args : RequestArgs} {output : Option String} {q : Request} {made : Compilation}
      {r : Record Tree} (h : Compiled p t files args q made r) (hcode : made.code ≠ 0) :
      Ending files (.compile args output) (.ok made.code) r.state r.invocations
  | unreadable {args : RequestArgs} {output : Option String} {q : Request} {made : Compilation}
      {r : Record Tree} {e : IoError} (h : Compiled p t files args q made r) (hcode : made.code = 0)
      (htext : r.state.readText p.workshop.base (outputPath q) = .error e) :
      Ending files (.compile args output) (.error (.ofIo e)) r.state r.invocations
  | undelivered {args : RequestArgs} {output : Option String} {q : Request} {made : Compilation}
      {r : Record Tree} {text : String} {e : IoError} (h : Compiled p t files args q made r)
      (hcode : made.code = 0)
      (htext : r.state.readText p.workshop.base (outputPath q) = .ok text)
      (hdelivered : p.delivered output r.state text = .error e) :
      Ending files (.compile args output) (.error (.ofIo e)) r.state r.invocations
  | delivered {args : RequestArgs} {output : Option String} {q : Request} {made : Compilation}
      {r : Record Tree} {text : String} {left : Tree} (h : Compiled p t files args q made r)
      (hcode : made.code = 0)
      (htext : r.state.readText p.workshop.base (outputPath q) = .ok text)
      (hdelivered : p.delivered output r.state text = .ok left) :
      Ending files (.compile args output) (.ok 0) left r.invocations
  | unprocessed {c : Command} {q : Request} {f : Failure} {r : Record Tree}
      (h : Dumped p t files c q (.error f) r) :
      Ending files c (.error (.pipeline f)) r.state r.invocations
  | dumped {c : Command} {q : Request} {dump : Dump} {r : Record Tree}
      (h : Dumped p t files c q (.ok dump) r) :
      Ending files c (.ok dump.code) r.state r.invocations

variable (args : RequestArgs) (output : Option String)

theorem deliver_of_error {text : String} {d : Desk} {e : IoError}
    (h : p.delivered output d.record.state text = .error e) :
    (p.deliver args output text).outcome d = (.error (.ofIo e), d) := by
  cases output with
  | none => cases h
  | some path =>
    have hwrite : d.record.state.writeText p.workshop.base path text = .error e := h
    simp [deliver, Job.outcome_writeText, hwrite]

theorem deliver_of_ok {text : String} {d : Desk} {left : Tree}
    (h : p.delivered output d.record.state text = .ok left) :
    ∃ d', (p.deliver args output text).outcome d = (.ok (), d') ∧ d'.record.state = left ∧
      d'.record.invocations = d.record.invocations := by
  cases output with
  | none =>
    have hleft : d.record.state = left := Except.ok.inj h
    cases hjson : args.json <;> simp [deliver, hjson, hleft]
  | some path =>
    have hwrite : d.record.state.writeText p.workshop.base path text = .ok left := h
    cases hjson : args.json <;> simp [deliver, Job.outcome_writeText, hwrite, hjson]

theorem outcome_product (q : Request) (made : Compilation) (d : Desk) :
    (p.product q made).outcome d =
      (if made.code = 0 then
        ((d.record.state.readText p.workshop.base (outputPath q)).mapError .ofIo).map some
      else .ok none, d) := by
  by_cases hcode : made.code = 0 <;> simp [product, Compilation.success, hcode]

theorem ending_of_refused {files : Tree} {c : Command} {e : CommandError} {d : Desk}
    (h : p.opening c.args files = (.error e, d)) :
    Ending p t files c (.error e) d.record.state d.record.invocations := by
  have hrefused : (p.opening c.args files).1 = .error e := by rw [h]
  have hending : Ending p t files c _ _ _ := .refused hrefused
  rwa [h] at hending

theorem ending_compile (files : Tree) :
    let final := (p.compile t args output).outcome (.of files)
    Ending p t files (.compile args output) final.1 final.2.record.state
      final.2.record.invocations := by
  rcases hopening : p.opening args files with ⟨accepted, d⟩
  have hrequest : (p.request args).outcome (.of files) = (accepted, d) := hopening
  cases accepted with
  | error e =>
    have hending := p.ending_of_refused t (c := .compile args output) hopening
    simpa only [compile, Job.outcome_bind, hrequest] using hending
  | ok q =>
    -- From here on the command follows what the programs left: a code, a text or neither.
    rcases hmade : (t.compile p.workshop.host q).outcome d.record with ⟨made, r⟩
    have hcompiled : Compiled p t files args q made r := by
      constructor <;> rw [hopening]
      exact hmade
    simp only [compile, Job.outcome_bind, hrequest, Job.outcome_session, hmade, outcome_product]
    by_cases hcode : made.code = 0
    · cases htext : r.state.readText p.workshop.base (outputPath q) with
      | error e =>
        have hending : Ending p t files (.compile args output) _ _ _ :=
          .unreadable hcompiled hcode htext
        simpa [hcode, htext, Except.map] using hending
      | ok text =>
        let d₁ : Desk :=
          { record := r
            printed := d.printed ++ if args.json then printJson (made.report (some text))
              else made.render p.colours }
        cases hdelivered : p.delivered output r.state text with
        | error e =>
          have hending : Ending p t files (.compile args output) _ _ _ :=
            .undelivered hcompiled hcode htext hdelivered
          have hdeliver := p.deliver_of_error args output (d := d₁) hdelivered
          simpa [hcode, htext, Except.map, d₁, hdeliver] using hending
        | ok left =>
          have hending : Ending p t files (.compile args output) _ _ _ :=
            .delivered hcompiled hcode htext hdelivered
          obtain ⟨d₂, hdeliver, rfl, hcalls⟩ := p.deliver_of_ok args output (d := d₁) hdelivered
          simpa [hcode, htext, Except.map, d₁, hdeliver, hcalls] using hending
    · have hending : Ending p t files (.compile args output) _ _ _ := .failed hcompiled hcode
      simpa [hcode, Except.map] using hending

theorem outcome_showDump (dump : Except Failure Dump) (d : Desk) :
    ∃ d', (p.showDump args dump).outcome d =
        ((dump.map (·.code)).mapError CommandError.pipeline, d') ∧
      d'.record.state = d.record.state ∧ d'.record.invocations = d.record.invocations := by
  cases dump with
  | error f => exact ⟨d, rfl, rfl, rfl⟩
  | ok dump =>
    cases hsuccess : dump.success <;> simp [showDump, Except.map, hsuccess]

/-- The commands that ask for a dump differ in the dump alone. -/
theorem ending_dump {c : Command} {session : Request → Session Tree (Except Failure Dump)}
    (files : Tree) (hdump : ∀ q, p.dump? t q c = some (session q))
    (hwork : p.work t c = do
      let q ← p.request c.args
      p.showDump c.args (← Job.session (session q))) :
    let final := (p.work t c).outcome (.of files)
    Ending p t files c final.1 final.2.record.state final.2.record.invocations := by
  rcases hopening : p.opening c.args files with ⟨accepted, d⟩
  have hrequest : (p.request c.args).outcome (.of files) = (accepted, d) := hopening
  cases accepted with
  | error e =>
    have hending := p.ending_of_refused t hopening
    simpa only [hwork, Job.outcome_bind, hrequest] using hending
  | ok q =>
    rcases hmade : (session q).outcome d.record with ⟨made, r⟩
    have hdumped : Dumped p t files c q made r := by
      constructor
      · rw [hopening]
      · rw [hopening]
        exact ⟨session q, hdump q, hmade⟩
    obtain ⟨d', hshow, hstate, hinvocations⟩ :=
      p.outcome_showDump c.args made { d with record := r }
    simp only [hwork, Job.outcome_bind, hrequest, Job.outcome_session, hmade, hshow, hstate,
      hinvocations]
    cases made with
    | error f => exact .unprocessed hdumped
    | ok dump => exact .dumped hdumped

/-- Every command ends in one of the ways. -/
theorem ending_work (c : Command) (files : Tree) :
    let final := (p.work t c).outcome (.of files)
    Ending p t files c final.1 final.2.record.state final.2.record.invocations := by
  cases c with
  | compile args output => exact p.ending_compile t args output files
  | ast args => exact p.ending_dump t files (fun _ => rfl) rfl
  | ir args switches => exact p.ending_dump t files (fun _ => rfl) rfl

end SpirvToolchain.Workplace
