import SpirvToolchain.Proofs.CommandLine.Words

/-! Commands spelled out on a command line, in any order of their flags, are read back. -/
namespace SpirvToolchain

open CommandLine

/-- The name of a switch, if it is set. -/
def switchIf (name : String) (set : Bool) : List String := if set then [name] else []

/-- The switches that are set, by name. -/
def RequestArgs.switches (a : RequestArgs) : List String :=
  switchIf "binary" a.binary ++ switchIf "produce-opt-info" a.produceOptInfo ++
    switchIf "json" a.json

def IrSwitches.switches (s : IrSwitches) : List String :=
  switchIf "directives" s.directives ++ switchIf "comment-only" s.commentOnly ++
    switchIf "debug-calls" s.debugCalls ++ switchIf "trim" s.trim

namespace Command

variable {c : Command} {w : Word} {ws : List Word} {n : String}

def name : Command → String
  | compile .. => "compile"
  | ast .. => "ast"
  | ir .. => "ir"

def output? : Command → Option String
  | compile _ output => output
  | _ => none

def switches : Command → List String
  | compile args _ => args.switches
  | ast args => args.switches
  | ir args s => args.switches ++ s.switches

/-- The words give what the command is told: options and libraries each in their order. -/
structure Spelled (c : Command) (ws : List Word) : Prop where
  options : ws.filterMap Word.option? = c.args.options
  libraries : ws.filterMap Word.library? = c.args.libraries
  outputBase : ws.filterMap Word.outputBase? = [c.args.outputBase]
  output : ws.filterMap Word.output? = c.output?.toList
  switches : (ws.filterMap Word.switch?).Perm c.switches

/-- The arguments of the program: the command, its words, and the source behind `--`. -/
def line (c : Command) (ws : List Word) : List String :=
  c.name :: (ws.map Word.token ++ ["--", c.args.input])

def flags : Command → List Flag
  | compile .. => requestFlags ++ [outputFlag]
  | ast .. => requestFlags
  | ir .. => requestFlags ++ irFlags

/-- The switches of any command. -/
def switchNames : List String :=
  ["binary", "produce-opt-info", "json", "directives", "comment-only", "debug-calls", "trim"]

/-- The flags of any command. -/
def flagNames : List String := ["option", "library", "output-base", "output"] ++ switchNames

/-- What a command line of these words uses. -/
def uses (c : Command) (ws : List Word) : Uses :=
  ws.map Word.use ++ [⟨inputSlot.name, some c.args.input⟩]

/-- The values of a flag are those of its words, and of the source if that has its name. -/
theorem values_uses (c : Command) {flag : String} {pick : Word → Option String}
    (hpick : ∀ w : Word, (if w.flag.name = flag then w.value? else none) = pick w) :
    (c.uses ws).values flag =
      ws.filterMap pick ++ if inputSlot.name = flag then [c.args.input] else [] := by
  have hwords : Uses.values (ws.map Word.use) flag = ws.filterMap pick := by
    rw [Uses.values, List.filterMap_map]
    exact List.filterMap_congr fun w _ => hpick w
  have hsource : Uses.values [⟨inputSlot.name, some c.args.input⟩] flag =
      if inputSlot.name = flag then [c.args.input] else [] := by
    rw [Uses.values, List.filterMap_cons]
    split <;> split <;> simp_all
  rw [uses, ← hwords, ← hsource]
  exact List.filterMap_append

theorem mem_switchIf {name : String} {set : Bool} :
    n ∈ switchIf name set ↔ set = true ∧ n = name := by
  cases set <;> simp [switchIf]

theorem switchIf_sublist (name : String) (set : Bool) : (switchIf name set).Sublist [name] := by
  cases set
  · exact List.nil_sublist _
  · exact List.Sublist.refl _

theorem switches_sublist (c : Command) : c.switches.Sublist switchNames := by
  have hargs (a : RequestArgs) :
      a.switches.Sublist (["binary"] ++ ["produce-opt-info"] ++ ["json"]) :=
    ((switchIf_sublist _ _).append (switchIf_sublist _ _)).append (switchIf_sublist _ _)
  have hshort : (["binary"] ++ ["produce-opt-info"] ++ ["json"]).Sublist switchNames := by decide
  cases c with
  | compile args output => exact (hargs args).trans hshort
  | ast args => exact (hargs args).trans hshort
  | ir args s =>
    have hir : s.switches.Sublist
        (["directives"] ++ ["comment-only"] ++ ["debug-calls"] ++ ["trim"]) :=
      (((switchIf_sublist _ _).append (switchIf_sublist _ _)).append (switchIf_sublist _ _)).append
        (switchIf_sublist _ _)
    exact (hargs args).append hir

/-- The switches of every command are those that are set. -/
theorem mem_switches_iff (c : Command) :
    ("binary" ∈ c.switches ↔ c.args.binary = true) ∧
      ("produce-opt-info" ∈ c.switches ↔ c.args.produceOptInfo = true) ∧
        ("json" ∈ c.switches ↔ c.args.json = true) := by
  cases c <;>
    simp [Command.switches, args, RequestArgs.switches, IrSwitches.switches, mem_switchIf]

theorem find_switch (hn : n ∈ c.switches) : c.flags.find? (·.name == n) = some { name := n } := by
  have hrequest {a : RequestArgs} (hn : n ∈ a.switches) :
      requestFlags.find? (·.name == n) = some { name := n } := by
    simp only [RequestArgs.switches, List.mem_append, mem_switchIf] at hn
    rcases hn with (⟨-, rfl⟩ | ⟨-, rfl⟩) | ⟨-, rfl⟩ <;> rfl
  cases c with
  | compile args output =>
    rw [flags, List.find?_append, hrequest hn]
    rfl
  | ast args => exact hrequest hn
  | ir args s =>
    rw [flags, List.find?_append]
    rcases List.mem_append.1 hn with hn | hn
    · rw [hrequest hn]
      rfl
    · simp only [IrSwitches.switches, List.mem_append, mem_switchIf] at hn
      rcases hn with ((⟨-, rfl⟩ | ⟨-, rfl⟩) | ⟨-, rfl⟩) | ⟨-, rfl⟩ <;> rfl

namespace Spelled

variable (h : c.Spelled ws)
include h

theorem mem_switches (hw : .switch n ∈ ws) : n ∈ c.switches :=
  h.switches.mem_iff.1 (List.mem_filterMap.2 ⟨_, hw, rfl⟩)

theorem mem_switchNames (hw : .switch n ∈ ws) : n ∈ switchNames :=
  (switches_sublist c).subset (h.mem_switches hw)

/-- No switch goes by the name of a flag with a value. -/
theorem switch_ne (hn : .switch n ∈ ws) (hw : w.switch? = none) : n ≠ w.flag.name := by
  have hother : w.flag.name ∉ switchNames := by
    cases w with
    | switch => cases hw
    | option | library | outputBase | output => simp [Word.flag, outputFlag, switchNames]
  exact ne_of_mem_of_not_mem (h.mem_switchNames hn) hother

theorem output_eq {path : String} (hw : .output path ∈ ws) : c.output? = some path := by
  have hmem : path ∈ ws.filterMap Word.output? := List.mem_filterMap.2 ⟨_, hw, rfl⟩
  rw [h.output] at hmem
  exact Option.mem_toList.1 hmem

theorem sound (houtput : c.output? ≠ some "") (hw : w ∈ ws) : w.Sound := by
  cases w with
  | option | library | outputBase => trivial
  | output path =>
    rintro rfl
    exact houtput (h.output_eq hw)
  | switch n =>
    have hnames : ∀ n ∈ switchNames, n ≠ "" ∧ '=' ∉ n.toList := by decide
    exact hnames n (h.mem_switchNames hw)

/-- The command knows the flag of each word, whatever flags it has besides. -/
theorem find_flag (hw : w ∈ ws) (more : List Flag) :
    (c.flags ++ more).find? (·.name == w.flag.name) = some w.flag := by
  have hown : c.flags.find? (·.name == w.flag.name) = some w.flag := by
    cases w with
    | option | library | outputBase => cases c <;> rfl
    | output path =>
      have houtput := h.output_eq hw
      cases c with
      | compile => rfl
      | ast | ir => cases houtput
    | switch n => exact find_switch (h.mem_switches hw)
  rw [List.find?_append, hown]
  rfl

/-- Only options and libraries are given more than once. -/
theorem compatible : ws.Pairwise Compatible := by
  have hbase : ws.Pairwise fun v w =>
      ∀ b, v.outputBase? = some b → ∀ b', w.outputBase? = some b' → False := by
    rw [← List.pairwise_filterMap, h.outputBase]
    exact List.pairwise_singleton _ _
  have houtput : ws.Pairwise fun v w =>
      ∀ p, v.output? = some p → ∀ p', w.output? = some p' → False := by
    rw [← List.pairwise_filterMap, h.output]
    cases c.output? with
    | none => exact List.Pairwise.nil
    | some path => exact List.pairwise_singleton _ _
  have hswitch : ws.Pairwise fun v w =>
      ∀ n, v.switch? = some n → ∀ n', w.switch? = some n' → n ≠ n' := by
    rw [← List.pairwise_filterMap]
    have hnodup : c.switches.Nodup := (switches_sublist c).nodup (by decide)
    exact h.switches.nodup_iff.2 hnodup
  -- Two words with one flag are of one kind, unless a switch goes by the name of another flag.
  refine ((hbase.and houtput).and hswitch).imp_of_mem ?_
  rintro v w hv hw ⟨⟨hbase, houtput⟩, hswitch⟩ hname
  cases w with
  | option | library => trivial
  | outputBase b =>
    cases v with
    | outputBase b' => exact (hbase b' rfl b rfl).elim
    | switch n => exact absurd hname (h.switch_ne hv rfl)
    | option | library | output => simp [Word.flag, outputFlag] at hname
  | output path =>
    cases v with
    | output path' => exact (houtput path' rfl path rfl).elim
    | switch n => exact absurd hname (h.switch_ne hv rfl)
    | option | library | outputBase => simp [Word.flag, outputFlag] at hname
  | switch n =>
    cases v with
    | switch n' => exact (hswitch n' rfl n rfl hname).elim
    | option | library | outputBase | output =>
      exact absurd hname.symm (h.switch_ne hw rfl)

theorem name_mem_flagNames (hw : w ∈ ws) : w.flag.name ∈ flagNames := by
  cases w with
  | switch n => exact List.mem_append_right _ (h.mem_switchNames hw)
  | option | library | outputBase | output => simp [Word.flag, outputFlag, flagNames]

/-- No word is a use of a flag that no command has for itself. -/
theorem has_eq_false {name : String} (hname : name ∉ flagNames) :
    Uses.has (ws.map Word.use) name = false := by
  rw [Uses.has, List.any_eq_false]
  intro x hx
  obtain ⟨w, hw, rfl⟩ := List.mem_map.1 hx
  simpa [Word.use] using ne_of_mem_of_not_mem (h.name_mem_flagNames hw) hname

/-- What the words come to, and the source after them. -/
theorem read_line {g : Grammar} (more : List Flag) (hinput : c.args.input ≠ "")
    (houtput : c.output? ≠ some "") (hslot : g.input = inputSlot)
    (hflags : g.commands.lookup c.name = some (c.flags ++ more)) :
    g.read (c.line ws) = .ok ⟨[], c.name, c.uses ws⟩ := by
  have hscope : (g.scope (c.flags ++ more)).read (ws.map Word.token ++ ["--", c.args.input]) =
      .ok (c.uses ws) := by
    have hwords := foldlM_step_words (l := g.scope (c.flags ++ more)) (u := [])
      (fun w => h.sound houtput) (fun w hw => h.find_flag hw more) h.compatible (fun w _ => nofun)
    exact read_source hinput (congrArg some hslot) (h.has_eq_false (by decide)) hwords
  have hname : c.name ≠ Grammar.helpCommand := by cases c <;> simp [name, Grammar.helpCommand]
  have htakes : Grammar.takesCommand {} = true := rfl
  rw [Grammar.read, line, Grammar.readFrom, if_neg fun hhelp => hname hhelp.2, htakes, hflags]
  change (g.scope (c.flags ++ more)).read _ >>= _ = _
  rw [hscope]
  rfl

theorem has_uses (hn : n ∈ switchNames) : (c.uses ws).has n = true ↔ n ∈ c.switches := by
  have hsource : Uses.has [⟨inputSlot.name, some c.args.input⟩] n = false := by
    have hne : n ≠ inputSlot.name := ne_of_mem_of_not_mem hn (by decide)
    simpa [Uses.has] using Ne.symm hne
  rw [uses, has_append, hsource, Bool.or_false, ← h.switches.mem_iff, Uses.has,
    List.any_eq_true, List.mem_filterMap]
  constructor
  · rintro ⟨x, hx, hname⟩
    obtain ⟨w, hw, rfl⟩ := List.mem_map.1 hx
    have hname : w.flag.name = n := by simpa [Word.use] using hname
    refine ⟨w, hw, ?_⟩
    cases w with
    | switch m => exact congrArg some hname
    | option | library | outputBase | output =>
      rw [← hname] at hn
      simp [Word.flag, outputFlag, switchNames] at hn
  · rintro ⟨w, hw, hswitch⟩
    refine ⟨w.use, List.mem_map_of_mem hw, ?_⟩
    cases w with
    | switch m => simpa [Word.use, Word.flag, Word.switch?] using hswitch
    | option | library | outputBase | output => cases hswitch

theorem has_uses_eq {set : Bool} (hn : n ∈ switchNames) (hset : n ∈ c.switches ↔ set = true) :
    (c.uses ws).has n = set := by
  rw [Bool.eq_iff_iff, h.has_uses hn, hset]

theorem requestArgs_uses : requestArgs (c.uses ws) = c.args := by
  have hinput : (c.uses ws).value? inputSlot.name = some c.args.input := by
    rw [Uses.value?, c.values_uses fun w => w.value_of_flag.2.2.2.2, if_pos rfl]
    exact List.getLast?_concat
  have hoptions : (c.uses ws).values "option" = c.args.options := by
    rw [c.values_uses fun w => w.value_of_flag.1, h.options]
    exact List.append_nil _
  have hlibraries : (c.uses ws).values "library" = c.args.libraries := by
    rw [c.values_uses fun w => w.value_of_flag.2.1, h.libraries]
    exact List.append_nil _
  have hbase : (c.uses ws).value? "output-base" = some c.args.outputBase := by
    rw [Uses.value?, c.values_uses fun w => w.value_of_flag.2.2.1, h.outputBase]
    rfl
  obtain ⟨hmem₁, hmem₂, hmem₃⟩ := c.mem_switches_iff
  have hbinary := h.has_uses_eq (by decide) hmem₁
  have hreport := h.has_uses_eq (by decide) hmem₂
  have hjson := h.has_uses_eq (by decide) hmem₃
  rw [requestArgs, hinput, hoptions, hlibraries, hbinary, hreport, hbase, hjson]
  rfl

/-- The words of a command are read as that command. -/
theorem toCommand_eq : Reading.toCommand ⟨[], c.name, c.uses ws⟩ = c := by
  have hargs := h.requestArgs_uses
  cases c with
  | compile args output =>
    have houtput : (uses (.compile args output) ws).value? "output" = output := by
      rw [Uses.value?, values_uses _ fun w => w.value_of_flag.2.2.2.1, h.output]
      cases output <;> rfl
    change Command.compile _ _ = _
    rw [hargs, houtput]
    rfl
  | ast args =>
    change Command.ast _ = _
    rw [hargs]
    rfl
  | ir args s =>
    have hswitches : irSwitches (uses (.ir args s) ws) = s := by
      simp only [irSwitches]
      congr 1
      all_goals
        refine h.has_uses_eq (by decide) ?_
        simp [Command.switches, RequestArgs.switches, IrSwitches.switches, mem_switchIf]
    change Command.ir _ _ = _
    rw [hargs, hswitches]
    rfl

end Spelled

end Command

end SpirvToolchain
