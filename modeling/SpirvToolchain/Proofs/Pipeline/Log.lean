import SpirvToolchain.Proofs.Pipeline.Plan

/-!
The log of a compilation: each stage is announced as its program is started, and what went wrong
is told after all of them.
-/
namespace SpirvToolchain

variable {σ : Type}

namespace Host

variable (host : Host σ) {stage : String} {i : Invocation} {s : σ}

/-- What the host itself has to say of a start. -/
def remarks (i : Invocation) (s : σ) : List Event := host.eventsOf i (host.start i s).1

/-- The error of a program that did not start. -/
def startErrors (stage : String) (i : Invocation) (s : σ) : List Event :=
  match (host.start i s).1 with
  | .ok _ => []
  | .error f => [{ level := .error, message := f.message, stage := some stage }]

theorem startEvents_eq (stage : Stage) (i : Invocation) (s : σ) :
    host.startEvents (some stage) i s = host.remarks i s ++ host.startErrors stage.name i s := by
  cases h : (host.start i s).1 <;> simp [startEvents, remarks, startErrors, eventsOf, h]

variable {host}

theorem outputOf_of_ok {o : ExecOutput} (h : (host.start i s).1 = .ok o) :
    host.outputOf i s = o := by
  simp [outputOf, h]

theorem code_of_error {f : Failure} (h : (host.start i s).1 = .error f) :
    (host.outputOf i s).code = -1 := by
  simp [outputOf, h]

theorem startErrors_of_success (h : (host.outputOf i s).code = 0) :
    host.startErrors stage i s = [] := by
  cases hreply : (host.start i s).1 with
  | ok o => simp [startErrors, hreply]
  | error f => simp [code_of_error hreply] at h

theorem level_of_mem_startErrors {e : Event} (h : e ∈ host.startErrors stage i s) :
    e.level = .error := by
  cases hreply : (host.start i s).1 <;> simp_all [startErrors]

end Host

namespace Pipeline

variable {host : Host σ} {p : Pipeline} {args : List String} {input : String}
  {options : ExecOptions} {r r₁ r₂ r' : Record σ} {ran : Stage} {stage : String} {i : Invocation}
  {o : ExecOutput} {s : σ} {e : Event}

/-- The stages of a compilation by name, each with the program that it starts. -/
def steps (p : Pipeline) (args : List String) (input : String) (options : ExecOptions) :
    List (String × Invocation) :=
  [("compile", p.compilerCall args input options), ("translate", p.translatorCall input options),
    ("disassemble", p.disassemblerCall input options)]

def announcement (input stage : String) : Event :=
  .info ("Running " ++ stage ++ " stage for " ++ input)

/-- What is said of stages as they run: each is announced, and then its host has the word. -/
def announced (host : Host σ) (input : String) : List (String × Invocation) → σ → List Event
  | [], _ => []
  | (stage, i) :: rest, s =>
    announcement input stage :: (host.remarks i s ++ announced host input rest (host.after i s))

theorem announced_append (before after : List (String × Invocation)) (s : σ) :
    announced host input (before ++ after) s = announced host input before s ++
      announced host input after (host.afterAll (before.map (·.2)) s) := by
  induction before generalizing s with
  | nil => rfl
  | cons step before ih => simp [announced, ih, Host.afterAll]

theorem StageRan.events (h : StageRan host input ran i r o r') :
    r'.events = r.events ++ announced host input [(ran.name, i)] r.state ++
      host.startErrors ran.name i r.state := by
  have hevents := Ran.events h
  rw [Host.startEvents_eq] at hevents
  simpa [announced, announcement] using hevents

/-- Stages that ran one after another and did well. -/
inductive Went (host : Host σ) (input : String) (r : Record σ) :
    List (String × Invocation) → Record σ → Prop
  | start : Went host input r [] r
  | next {before : List (String × Invocation)} {r₁ r₂ : Record σ} {ran : Stage} {i : Invocation}
      {o : ExecOutput} (hbefore : Went host input r before r₁)
      (hran : StageRan host input ran i r₁ o r₂) (hcode : o.code = 0) :
      Went host input r (before ++ [(ran.name, i)]) r₂

namespace Went

variable {before : List (String × Invocation)}

theorem state (h : Went host input r before r₁) :
    r₁.state = host.afterAll (before.map (·.2)) r.state := by
  induction h with
  | start => rfl
  | next _ hran _ ih => simp [Host.afterAll, hran.state, ih]

theorem invocations (h : Went host input r before r₁) :
    r₁.invocations = r.invocations ++ before.map (·.2) := by
  induction h with
  | start => simp
  | next _ hran _ ih => simp [hran.invocations, ih]

/-- A stage that does well adds its announcement to the log, and no error. -/
theorem events (h : Went host input r before r₁) :
    r₁.events = r.events ++ announced host input before r.state := by
  induction h with
  | start => simp [announced]
  | next hbefore hran hcode ih =>
    rw [hran.output] at hcode
    rw [hran.events, ih, Host.startErrors_of_success hcode, announced_append, hbefore.state]
    simp

theorem codes (h : Went host input r before r₁) :
    ∀ o ∈ host.outputs (before.map (·.2)) r.state, o.code = 0 := by
  induction h with
  | start => simp [Host.outputs]
  | next hbefore hran hcode ih =>
    rw [List.map_append, Host.outputs_append, ← hbefore.state, List.forall_mem_append]
    refine ⟨ih, ?_⟩
    simpa [Host.outputs, ← hran.output] using hcode

end Went

/--
The errors that close a log, by the last stage, its program and the code of the result: two if the
program did not start, otherwise one, unless all went well.
-/
structure Closing (host : Host σ) (p : Pipeline) (input stage : String) (i : Invocation) (s : σ)
    (code : Int) (errors : List Event) : Prop where
  level : ∀ e ∈ errors, e.level = .error
  ne_nil_iff : errors ≠ [] ↔ code ≠ 0
  unstarted : ∀ f, (host.start i s).1 = .error f →
    ∃ first second, errors = [first, second] ∧ first.message = f.message ∧
      first.stage = some stage
  started : ∀ o, (host.start i s).1 = .ok o → code ≠ 0 →
    ∃ e, errors = [e] ∧
      (o.code ≠ 0 ∧ e.code = some o.code ∨
        stage = "compile" ∧ o.code = 0 ∧ e.code = none ∧
          host.present (p.artifacts input).bitcode (host.after i s) = false)

theorem closing_of_failed (ho : o = host.outputOf i s) (hcode : o.code ≠ 0)
    (hlevel : e.level = .error) (he : e.code = some o.code) :
    Closing host p input stage i s o.code (host.startErrors stage i s ++ [e]) where
  level := by
    rw [List.forall_mem_append]
    exact ⟨fun _ => Host.level_of_mem_startErrors, by simpa using hlevel⟩
  ne_nil_iff := by simp [hcode]
  unstarted f hf := ⟨_, e, by simp only [Host.startErrors, hf]; rfl, rfl, rfl⟩
  started o' ho' _ := by
    obtain rfl : o = o' := ho.trans (Host.outputOf_of_ok ho')
    exact ⟨e, by simp [Host.startErrors, ho'], .inl ⟨hcode, he⟩⟩

theorem closing_of_missing (ho : o = host.outputOf i s) (hcode : o.code = 0)
    (hlevel : e.level = .error) (he : e.code = none)
    (hmissing : host.present (p.artifacts input).bitcode (host.after i s) = false) :
    Closing host p input "compile" i s missingArtifactCode
      (host.startErrors "compile" i s ++ [e]) := by
  have hsuccess : (host.outputOf i s).code = 0 := ho ▸ hcode
  rw [Host.startErrors_of_success hsuccess]
  refine ⟨by simpa using hlevel, by simp [missingArtifactCode], fun f hf => ?_, fun o' ho' _ => ?_⟩
  · simp [Host.code_of_error hf] at hsuccess
  · rw [Host.outputOf_of_ok ho'] at hsuccess
    exact ⟨e, rfl, .inr ⟨rfl, hsuccess, he, hmissing⟩⟩

theorem closing_of_success (ho : o = host.outputOf i s) (hcode : o.code = 0) :
    Closing host p input stage i s o.code (host.startErrors stage i s) := by
  have hsuccess : (host.outputOf i s).code = 0 := ho ▸ hcode
  rw [Host.startErrors_of_success hsuccess]
  refine ⟨by simp, by simp [hcode], fun f hf => ?_, fun _ _ h => absurd hcode h⟩
  simp [Host.code_of_error hf] at hsuccess

/-- A run as its log shows it: stages that did well, and a last one that closes the log. -/
structure Logged (host : Host σ) (p : Pipeline) (args : List String) (input : String)
    (options : ExecOptions) (r : Record σ) (c : Compilation) (r' : Record σ)
    (before : List (String × Invocation)) (stage : String) (i : Invocation) (errors : List Event) :
    Prop where
  first_steps : before ++ [(stage, i)] <+: p.steps args input options
  codes : ∀ o ∈ host.outputs (before.map (·.2)) r.state, o.code = 0
  invocations : r'.invocations = r.invocations ++ (before ++ [(stage, i)]).map (·.2)
  events : r'.events =
    r.events ++ announced host input (before ++ [(stage, i)]) r.state ++ errors
  closing : Closing host p input stage i (host.afterAll (before.map (·.2)) r.state) c.code errors

theorem Went.logged {before : List (String × Invocation)} {c : Compilation} {told : List Event}
    (hbefore : Went host input r before r₁) (hran : StageRan host input ran i r₁ o r₂)
    (hsteps : before ++ [(ran.name, i)] <+: p.steps args input options)
    (hinvocations : r'.invocations = r₂.invocations) (hevents : r'.events = r₂.events ++ told)
    (hclosing : Closing host p input ran.name i r₁.state c.code
      (host.startErrors ran.name i r₁.state ++ told)) :
    Logged host p args input options r c r' before ran.name i
      (host.startErrors ran.name i r₁.state ++ told) where
  first_steps := hsteps
  codes := hbefore.codes
  invocations := by simp [hinvocations, hran.invocations, hbefore.invocations]
  events := by
    rw [hevents, hran.events, hbefore.events, announced_append, ← hbefore.state]
    simp
  closing := hbefore.state ▸ hclosing

theorem Course.logged {n : Nat} {c : Compilation}
    (h : Course host p args input options r n c r') :
    ∃ before stage i errors,
      Logged host p args input options r c r' before stage i errors := by
  cases h with
  | compilerFailed h₁ hcode =>
    refine ⟨_, _, _, _, Went.start.logged h₁ (by simp [steps, Stage.name]) rfl rfl ?_⟩
    exact closing_of_failed h₁.output hcode rfl rfl
  | bitcodeMissing h₁ hcode hmissing =>
    refine ⟨_, _, _, _, Went.start.logged h₁ (by simp [steps, Stage.name]) rfl rfl ?_⟩
    rw [h₁.state] at hmissing
    exact closing_of_missing h₁.output hcode rfl rfl hmissing
  | translatorFailed h₁ hcode _ h₂ hcode₂ =>
    have hbefore := Went.start.next h₁ hcode
    refine ⟨_, _, _, _, hbefore.logged h₂ (by simp [steps, Stage.name]) rfl rfl ?_⟩
    exact closing_of_failed h₂.output hcode₂ rfl rfl
  | disassemblerFailed h₁ hcode _ h₂ hcode₂ h₃ hcode₃ =>
    have hbefore := (Went.start.next h₁ hcode).next h₂ hcode₂
    refine ⟨_, _, _, _, hbefore.logged h₃ (by simp [steps, Stage.name]) rfl rfl ?_⟩
    exact closing_of_failed h₃.output hcode₃ rfl rfl
  | completed h₁ hcode _ h₂ hcode₂ h₃ hcode₃ =>
    have hbefore := (Went.start.next h₁ hcode).next h₂ hcode₂
    have htold : r'.events = r'.events ++ [] := (List.append_nil _).symm
    refine ⟨_, _, _, _, hbefore.logged h₃ (by simp [steps, Stage.name]) rfl htold ?_⟩
    rw [List.append_nil]
    exact closing_of_success h₃.output hcode₃

/--
The log of a compilation mirrors it. Every program started is announced once, by its stage and in
order, before its host has anything to say of it. Errors stand after all of this, exactly if the
result has a code other than zero, and are those that fit the last stage: all before it did well.
-/
theorem run_logs_stages (host : Host σ) (p : Pipeline) (args : List String) (input : String)
    (options : ExecOptions) (r : Record σ) :
    let final := (p.run host args input options).outcome r
    ∃ before stage i errors,
      Logged host p args input options r final.1 final.2 before stage i errors := by
  obtain ⟨n, h⟩ := course_run host p args input options r
  exact h.logged

end Pipeline

end SpirvToolchain
