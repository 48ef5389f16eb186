import Mathlib.Data.List.Basic
import SpirvToolchain.CommandLine

/-! Flags written with their values in one token each, and what a scope makes of a run of them. -/
namespace SpirvToolchain.CommandLine

/-- One flag of a command, with its value if it takes one. -/
inductive Word
  | option (text : String)
  | library (text : String)
  | outputBase (name : String)
  | output (path : String)
  | switch (name : String)
  deriving DecidableEq, Repr

namespace Word

def token : Word → String
  | option text => "--option=" ++ text
  | library text => "--library=" ++ text
  | outputBase name => "--output-base=" ++ name
  | output path => "--output=" ++ path
  | switch name => "--" ++ name

def option? : Word → Option String
  | option text => some text
  | _ => none

def library? : Word → Option String
  | library text => some text
  | _ => none

def outputBase? : Word → Option String
  | outputBase name => some name
  | _ => none

def output? : Word → Option String
  | output path => some path
  | _ => none

def switch? : Word → Option String
  | switch name => some name
  | _ => none

/-- The flag that a word writes. -/
def flag : Word → Flag
  | option _ => { name := "option", takes := .value { many := true, anyToken := true } }
  | library _ => { name := "library", takes := .value { many := true } }
  | outputBase _ => { name := "output-base", takes := .value {} }
  | output _ => outputFlag
  | switch name => { name }

def value? : Word → Option String
  | option text => some text
  | library text => some text
  | outputBase name => some name
  | output path => some path
  | switch _ => none

def use (w : Word) : Use := ⟨w.flag.name, w.value?⟩

/-- A word has a value for its own flag, and for no other. -/
theorem value_of_flag (w : Word) :
    (if w.flag.name = "option" then w.value? else none) = w.option? ∧
    (if w.flag.name = "library" then w.value? else none) = w.library? ∧
    (if w.flag.name = "output-base" then w.value? else none) = w.outputBase? ∧
    (if w.flag.name = "output" then w.value? else none) = w.output? ∧
    (if w.flag.name = inputSlot.name then w.value? else none) = none := by
  cases w with
  | switch name => simp [value?, option?, library?, outputBase?, output?]
  | option | library | outputBase | output => exact ⟨rfl, rfl, rfl, rfl, rfl⟩

/-- The flag may be written more than once. -/
def Repeats : Word → Prop
  | option _ => True
  | library _ => True
  | _ => False

/-- A switch has a name without `=`, and a path is not empty. -/
def Sound : Word → Prop
  | output path => path ≠ ""
  | switch name => name ≠ "" ∧ '=' ∉ name.toList
  | _ => True

end Word

variable {l : Scope} {u : Uses} {f : Flag} {w : Word} {ws : List Word} {s : String}

theorem step_long {body : List Char} (hbody : body ≠ []) (hs : s.toList = '-' :: '-' :: body) :
    l.step { uses := u } s = l.long { uses := u } s body := by
  obtain ⟨c, cs, rfl⟩ := List.exists_cons_of_ne_nil hbody
  simp [Scope.step, Scan.awaiting?, hs]

theorem use_settled (u : Uses) (f : Flag) (value : Option String) :
    Scan.use { uses := u } f value = (u.add f value).map ({ uses := · }) := by
  have hsettled : Scan.use { uses := u } f value =
      u.add f value >>= fun u => .ok { uses := u } := rfl
  rw [hsettled]
  cases u.add f value <;> rfl

/-- The first `=` ends the name, so a value may have others in it. -/
theorem step_valued {rule : ValueRule} {name value : String} (hname : '=' ∉ name.toList)
    (hs : s.toList = '-' :: '-' :: (name.toList ++ '=' :: value.toList))
    (hflag : l.flags.find? (·.name == name) = some f) (htakes : f.takes = .value rule) :
    l.step { uses := u } s = (u.add f (some value)).map ({ uses := · }) := by
  have hbody : name.toList ++ '=' :: value.toList ≠ [] := by simp
  rw [step_long hbody hs, Scope.long, Text.splitFirst_append_cons _ hname]
  simp [hflag, htakes, use_settled]

theorem step_alone {name : String} (hne : name ≠ "") (hname : '=' ∉ name.toList)
    (hs : s.toList = '-' :: '-' :: name.toList)
    (hflag : l.flags.find? (·.name == name) = some f) (htakes : f.takes = .nothing) :
    l.step { uses := u } s = (u.add f none).map ({ uses := · }) := by
  have hbody : name.toList ≠ [] := by simpa using hne
  have hwhole : Text.splitFirst '=' name.toList = none := by
    cases h : Text.splitFirst '=' name.toList with
    | none => rfl
    | some p =>
      obtain ⟨heq, -⟩ := Text.splitFirst_append h
      exact absurd (heq ▸ List.mem_append_right _ List.mem_cons_self) hname
  rw [step_long hbody hs, Scope.long, hwhole]
  simp [hflag, htakes, use_settled]

/-- A word is one use of its flag, if the scope knows that. -/
theorem step_word (hsound : w.Sound) (hflag : l.flags.find? (·.name == w.flag.name) = some w.flag) :
    l.step { uses := u } w.token = (u.add w.flag w.value?).map ({ uses := · }) := by
  cases w with
  | option text =>
    have hname : '=' ∉ "option".toList := by decide
    exact step_valued hname (by simp [Word.token]) hflag rfl
  | library text =>
    have hname : '=' ∉ "library".toList := by decide
    exact step_valued hname (by simp [Word.token]) hflag rfl
  | outputBase name =>
    have hname : '=' ∉ "output-base".toList := by decide
    exact step_valued hname (by simp [Word.token]) hflag rfl
  | output path =>
    have hname : '=' ∉ "output".toList := by decide
    exact step_valued hname (by simp [Word.token]) hflag rfl
  | switch name => exact step_alone hsound.1 hsound.2 (by simp [Word.token]) hflag rfl

theorem add_word (hsound : w.Sound) (hnew : u.has w.flag.name = true → w.Repeats) :
    u.add w.flag w.value? = .ok (u ++ [w.use]) := by
  cases w with
  | option text => simp [Uses.add, Word.flag, Word.value?, Word.use]
  | library text => simp [Uses.add, Word.flag, Word.value?, Word.use]
  | outputBase name =>
    have hfresh : u.has "output-base" = false := eq_false_of_ne_true hnew
    simp [Uses.add, Word.flag, Word.value?, Word.use, hfresh]
  | output path =>
    have hfresh : u.has "output" = false := eq_false_of_ne_true hnew
    have hpath : pathRule.accepts path = true := by simpa [pathRule, Word.Sound] using hsound
    have hmany : pathRule.many = false := rfl
    simp [Uses.add, Word.flag, Word.value?, Word.use, outputFlag, hfresh, hpath, hmany]
  | switch name =>
    have hfresh : u.has name = false := eq_false_of_ne_true hnew
    simp [Uses.add, Word.flag, Word.value?, Word.use, hfresh]

theorem has_append (u v : Uses) (name : String) : (u ++ v).has name = (u.has name || v.has name) :=
  List.any_append

/-- Two words may stand in one line: of one flag only if it repeats. -/
def Compatible (v w : Word) : Prop := v.flag.name = w.flag.name → w.Repeats

/-- Words are read one after the other, each as one use more. -/
theorem foldlM_step_words (hsound : ∀ w ∈ ws, w.Sound)
    (hflags : ∀ w ∈ ws, l.flags.find? (·.name == w.flag.name) = some w.flag)
    (hws : ws.Pairwise Compatible) (hu : ∀ w ∈ ws, u.has w.flag.name = true → w.Repeats) :
    (ws.map Word.token).foldlM l.step { uses := u } =
      Except.ok (ε := UsageError) { uses := u ++ ws.map Word.use } := by
  induction ws generalizing u with
  | nil => simp [pure, Except.pure]
  | cons w ws ih =>
    obtain ⟨hsound, hsounds⟩ := List.forall_mem_cons.1 hsound
    obtain ⟨hflag, hflags⟩ := List.forall_mem_cons.1 hflags
    obtain ⟨hnew, hnews⟩ := List.forall_mem_cons.1 hu
    obtain ⟨hw, hws⟩ := List.pairwise_cons.1 hws
    have hrest : ∀ v ∈ ws, Uses.has (u ++ [w.use]) v.flag.name = true → v.Repeats := by
      intro v hv hhas
      rw [has_append, Bool.or_eq_true] at hhas
      rcases hhas with hhas | hhas
      · exact hnews v hv hhas
      · exact hw v hv (by simpa [Uses.has, Word.use] using hhas)
    have hstep : l.step { uses := u } w.token = .ok { uses := u ++ [w.use] } := by
      rw [step_word hsound hflag, add_word hsound hnew]
      rfl
    have hread := ih hsounds hflags hws hrest
    rw [List.append_assoc, List.singleton_append] at hread
    rw [List.map_cons, List.foldlM_cons, hstep, List.map_cons]
    exact hread

/-- The scan that has come upon the source, which is not judged yet. -/
def sourceTaken (u : Uses) (input : String) : Scan :=
  { uses := u, pending := some (inputSlot, some input), escaped := true, inputTaken := true }

theorem foldlM_step_source (hslot : l.input = some inputSlot) (input : String) :
    ["--", input].foldlM l.step { uses := u } = Except.ok (sourceTaken u input) := by
  have hdashes : l.step { uses := u } "--" = .ok { uses := u, escaped := true } := by
    simp [Scope.step, Scan.awaiting?]
  have htaken : l.step { uses := u, escaped := true } input = .ok (sourceTaken u input) := by
    simp only [Scope.step, Scope.plain, hslot]
    rfl
  rw [List.foldlM_cons, hdashes]
  change [input].foldlM l.step { uses := u, escaped := true } = _
  rw [List.foldlM_cons, htaken]
  rfl

theorem settle_sourceTaken {input : String} (hinput : input ≠ "")
    (hfresh : u.has inputSlot.name = false) :
    (sourceTaken u input).settle = .ok
      { uses := u ++ [⟨inputSlot.name, some input⟩], escaped := true, inputTaken := true } := by
  have hadd : u.add inputSlot (some input) = .ok (u ++ [⟨inputSlot.name, some input⟩]) := by
    have haccepts : pathRule.accepts input = true := by simpa [pathRule] using hinput
    have hmany : pathRule.many = false := rfl
    simpa [Uses.add, inputSlot, haccepts, hmany] using hfresh
  have hopen : (sourceTaken u input).settle = u.add inputSlot (some input) >>= fun u =>
      .ok { uses := u, escaped := true, inputTaken := true } := rfl
  rw [hopen, hadd]
  rfl

/-- What stands behind the dashes is the source, whatever it looks like. -/
theorem read_source {tokens : List String} {input : String} (hinput : input ≠ "")
    (hslot : l.input = some inputSlot) (hfresh : u.has inputSlot.name = false)
    (htokens : tokens.foldlM l.step {} = .ok { uses := u }) :
    l.read (tokens ++ ["--", input]) = .ok (u ++ [⟨inputSlot.name, some input⟩]) := by
  have hscan : (tokens ++ ["--", input]).foldlM l.step {} = .ok (sourceTaken u input) := by
    rw [List.foldlM_append, htokens]
    exact foldlM_step_source hslot input
  have hhas : Uses.has (u ++ [⟨inputSlot.name, some input⟩]) inputSlot.name = true := by
    simp [Uses.has]
  have hopen : l.read (tokens ++ ["--", input]) =
      (tokens ++ ["--", input]).foldlM l.step {} >>= fun s => s.settle >>= fun s =>
        if s.uses.has inputSlot.name then .ok s.uses else .error .missingInput := by
    rw [Scope.read, hslot]
    rfl
  rw [hopen, hscan]
  change (sourceTaken u input).settle >>= _ = _
  rw [settle_sourceTaken hinput hfresh]
  change (if Uses.has _ _ then _ else _) = _
  rw [hhas]
  rfl

end SpirvToolchain.CommandLine
