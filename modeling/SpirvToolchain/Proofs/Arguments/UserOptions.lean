import Mathlib.Data.List.Forall2
import SpirvToolchain.Arguments.UserOptions

/-! The scan of a caller's options: what stays may stay, and nothing goes without a warning. -/
namespace SpirvToolchain.UserOptions

variable {rules : UserOptionsConfig} {o : String} {options : List String}

/-- Whether a flag without a value forbids an option: its start if the flag ends in `=`. -/
def Covers (flag o : String) : Prop :=
  (flag.toList.getLast? = some '=' ∧ flag.toList <+: o.toList) ∨
    (flag.toList.getLast? ≠ some '=' ∧ o = flag)

/-- An option that may not be passed on. -/
def Barred (rules : UserOptionsConfig) (o : String) : Prop :=
  o ∈ rules.forbiddenWithValue ∨ ∃ flag ∈ rules.forbidden, Covers flag o

theorem covers_iff {flag : String} : covers flag o = true ↔ Covers flag o := by
  unfold covers Covers
  split <;> simp_all

theorem isForbidden_iff : isForbidden rules o = true ↔ ∃ flag ∈ rules.forbidden, Covers flag o := by
  simp [isForbidden, covers_iff]

theorem takesValue_iff : takesValue rules o = true ↔ o ∈ rules.forbiddenWithValue := by
  simp [takesValue]

theorem barred_iff : Barred rules o ↔ takesValue rules o = true ∨ isForbidden rules o = true := by
  rw [Barred, takesValue_iff, isForbidden_iff]

/-- What a verdict rests on. -/
def Verdict.Justified (rules : UserOptionsConfig) : Verdict → Prop
  | .kept o => ¬ Barred rules o
  | .dropped o => Barred rules o
  | .droppedWithValue o _ => o ∈ rules.forbiddenWithValue

/-- A warning that names the tokens which go together. -/
inductive Names : Event → List String → Prop
  | option (o : String) : Names (.warn ("Dropping user option " ++ o)) [o]
  | withValue (o v : String) :
      Names (.warn ("Dropping user option " ++ o ++ " Some(" ++ Text.quote v ++ ")")) [o, v]
  | withoutValue (o : String) : Names (.warn ("Dropping user option " ++ o ++ " None")) [o]

theorem tokens_scan (rules : UserOptionsConfig) (options : List String) :
    (scan rules options).flatMap Verdict.tokens = options := by
  fun_induction scan rules options with
  | case1 => rfl
  | case2 => rfl
  | case3 o _ v rest ih => simp [Verdict.tokens, ih]
  | case4 o rest _ _ ih => simp [Verdict.tokens, ih]
  | case5 o rest _ _ ih => simp [Verdict.tokens, ih]

theorem justified_scan (rules : UserOptionsConfig) (options : List String) :
    ∀ v ∈ scan rules options, v.Justified rules := by
  fun_induction scan rules options with
  | case1 => simp
  | case2 o hvalue => exact List.forall_mem_singleton.2 (takesValue_iff.1 hvalue)
  | case3 o hvalue v rest ih => exact List.forall_mem_cons.2 ⟨takesValue_iff.1 hvalue, ih⟩
  | case4 o rest _ hforbidden ih =>
    exact List.forall_mem_cons.2 ⟨barred_iff.2 (.inr hforbidden), ih⟩
  | case5 o rest hvalue hforbidden ih =>
    have hallowed : ¬ Barred rules o := by simp [barred_iff, hvalue, hforbidden]
    exact List.forall_mem_cons.2 ⟨hallowed, ih⟩

theorem scan_cons_of_allowed (h : ¬ Barred rules o) (rest : List String) :
    scan rules (o :: rest) = .kept o :: scan rules rest := by
  rw [barred_iff, not_or] at h
  cases rest <;> simp [scan, h]

/-- Options that may all be passed on are. -/
theorem scan_of_allowed (h : ∀ o ∈ options, ¬ Barred rules o) :
    scan rules options = options.map .kept := by
  induction options with
  | nil => rfl
  | cons o rest ih =>
    obtain ⟨ho, hrest⟩ := List.forall_mem_cons.1 h
    rw [scan_cons_of_allowed ho, ih hrest, List.map_cons]

/-- A kept token is an option, and nothing is reported of it. -/
theorem Verdict.kept_of_option? {v : Verdict} (h : v.option? = some o) :
    v = .kept o ∧ v.tokens = [o] ∧ v.warning? = none := by
  cases v <;> simp_all [Verdict.option?, Verdict.tokens, Verdict.warning?]

theorem allowed_of_mem_filter (h : o ∈ filter rules options) : ¬ Barred rules o := by
  obtain ⟨v, hv, ho⟩ := List.mem_filterMap.1 h
  obtain ⟨rfl, -⟩ := Verdict.kept_of_option? ho
  exact justified_scan rules options _ hv

/-- The verdicts that leave tokens out. -/
def drops (rules : UserOptionsConfig) (options : List String) : List Verdict :=
  (scan rules options).filter (·.option? = none)

/-- A verdict that leaves tokens out is reported, with all of them. -/
theorem Verdict.names_of_dropped {v : Verdict} (h : v.option? = none) :
    ∃ e, v.warning? = some e ∧ Names e v.tokens := by
  cases v with
  | kept o => cases h
  | dropped o => exact ⟨_, rfl, .option o⟩
  | droppedWithValue o value =>
    cases value with
    | none =>
      refine ⟨_, rfl, ?_⟩
      have hnone : " " ++ Text.quoteOption none = " None" := rfl
      rw [String.append_assoc, hnone]
      exact .withoutValue o
    | some v =>
      refine ⟨_, rfl, ?_⟩
      have hsome : " " ++ Text.quoteOption (some v) = " Some(" ++ Text.quote v ++ ")" := by
        simp only [Text.quoteOption, ← String.append_assoc]
        rfl
      rw [String.append_assoc, hsome, ← String.append_assoc, ← String.append_assoc]
      exact .withValue o v

theorem forall₂_names (vs : List Verdict) :
    List.Forall₂ (fun e v => Names e v.tokens) (vs.filterMap Verdict.warning?)
      (vs.filter (·.option? = none)) := by
  induction vs with
  | nil => exact .nil
  | cons v vs ih =>
    cases h : v.option? with
    | none =>
      obtain ⟨e, he, hnames⟩ := Verdict.names_of_dropped h
      rw [List.filterMap_cons_some he, List.filter_cons_of_pos (by simpa using h)]
      exact .cons hnames ih
    | some o =>
      have hsilent := (Verdict.kept_of_option? h).2.2
      simpa [h, hsilent] using ih

theorem barred_or_value_of_mem_drops {v : Verdict} (hv : v ∈ drops rules options) {t : String}
    (ht : t ∈ v.tokens) :
    Barred rules t ∨ ∃ flag ∈ rules.forbiddenWithValue, v = .droppedWithValue flag (some t) := by
  obtain ⟨hmem, hdropped⟩ := List.mem_filter.1 hv
  have hjustified := justified_scan rules options v hmem
  cases v with
  | kept o => simp [Verdict.option?] at hdropped
  | dropped o =>
    obtain rfl : t = o := by simpa [Verdict.tokens] using ht
    exact .inl hjustified
  | droppedWithValue o value =>
    obtain rfl | rfl : t = o ∨ value = some t := by simpa [Verdict.tokens, eq_comm] using ht
    · exact .inl (.inl hjustified)
    · exact .inr ⟨o, hjustified, rfl⟩

/--
No option that the rules name is kept. Every token is in one verdict of the scan, in order: kept,
or left out with exactly one warning that names it, and then the rules name it or the flag right
before it, whose value it is. A second pass keeps all and warns of nothing.
-/
theorem filter_accounts_for_every_option (rules : UserOptionsConfig) (options : List String) :
    (∀ o ∈ filter rules options, ¬ Barred rules o) ∧
    (scan rules options).flatMap Verdict.tokens = options ∧
    (∀ v ∈ scan rules options, ∀ o, v.option? = some o → v.tokens = [o]) ∧
    filter rules options = (scan rules options).filterMap Verdict.option? ∧
    List.Forall₂ (fun e v => Names e v.tokens) (warnings rules options) (drops rules options) ∧
    (∀ v ∈ drops rules options, ∀ t ∈ v.tokens,
      Barred rules t ∨ ∃ flag ∈ rules.forbiddenWithValue, v = .droppedWithValue flag (some t)) ∧
    filter rules (filter rules options) = filter rules options ∧
    warnings rules (filter rules options) = [] := by
  have hallowed : ∀ o ∈ filter rules options, ¬ Barred rules o := fun _ => allowed_of_mem_filter
  have hagain := scan_of_allowed hallowed
  refine ⟨hallowed, tokens_scan rules options, ?_, rfl, forall₂_names _, ?_, ?_, ?_⟩
  · intro v _ o ho
    exact (Verdict.kept_of_option? ho).2.1
  · intro v hv t ht
    exact barred_or_value_of_mem_drops hv ht
  · rw [filter, hagain, List.filterMap_map]
    exact List.filterMap_some
  · simp [warnings, hagain, Verdict.warning?]

end SpirvToolchain.UserOptions
