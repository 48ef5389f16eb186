import SpirvToolchain.Proofs.Arguments.UserOptions

/-! Passes of the option scan: one after another, and one over a list that is cut in two. -/
namespace SpirvToolchain.UserOptions

variable {rules : UserOptionsConfig} {o : String} {v : Verdict} {vs : List Verdict}
  {rest wider options : List String}

/-- A flag that takes a value takes the next token along, if there is one. -/
theorem scan_cons_of_valued (h : takesValue rules o = true) (rest : List String) :
    scan rules (o :: rest) = .droppedWithValue o rest.head? :: scan rules rest.tail := by
  cases rest <;> simp [scan, h]

theorem scan_cons_of_forbidden (hvalue : takesValue rules o = false)
    (hforbidden : isForbidden rules o = true) (rest : List String) :
    scan rules (o :: rest) = .dropped o :: scan rules rest := by
  cases rest <;> simp [scan, hvalue, hforbidden]

theorem filter_cons_of_valued (h : takesValue rules o = true) (rest : List String) :
    filter rules (o :: rest) = filter rules rest.tail := by
  rw [filter, scan_cons_of_valued h]
  rfl

theorem filter_cons_of_free (h : takesValue rules o = false) (rest : List String) :
    filter rules (o :: rest) =
      if isForbidden rules o then filter rules rest else o :: filter rules rest := by
  cases hforbidden : isForbidden rules o with
  | true =>
    rw [filter, scan_cons_of_forbidden h hforbidden]
    rfl
  | false =>
    have hallowed : ¬ Barred rules o := by simp [barred_iff, h, hforbidden]
    rw [filter, scan_cons_of_allowed hallowed]
    rfl

/-- Options are read one at a time, or together with their value. -/
theorem option_induction {P : List String → Prop} (rules : UserOptionsConfig) (nil : P [])
    (valued : ∀ o rest, takesValue rules o = true → P rest.tail → P (o :: rest))
    (free : ∀ o rest, takesValue rules o = false → P rest → P (o :: rest))
    (options : List String) : P options := by
  match options with
  | [] => exact nil
  | o :: rest =>
    cases h : takesValue rules o with
    | true => exact valued o rest h (option_induction rules nil valued free rest.tail)
    | false => exact free o rest h (option_induction rules nil valued free rest)
termination_by options.length
decreasing_by all_goals simp only [List.length_cons, List.length_tail]; omega

theorem isForbidden_of_subset (hwider : rules.forbidden ⊆ wider) (h : isForbidden rules o = true) :
    isForbidden { rules with forbidden := wider } o = true := by
  rw [isForbidden, List.any_eq_true] at h ⊢
  obtain ⟨flag, hflag, hcovers⟩ := h
  exact ⟨flag, hwider hflag, hcovers⟩

/--
The scan tells what takes a value, and then option by option what is forbidden besides: with more
flags forbidden, options go from among those that were kept.
-/
theorem filter_of_subset (hwider : rules.forbidden ⊆ wider) (options : List String) :
    filter { rules with forbidden := wider } options =
      (filter rules options).filter (!isForbidden { rules with forbidden := wider } ·) := by
  have htakes : ∀ o, takesValue { rules with forbidden := wider } o = takesValue rules o := by
    intro o
    rfl
  induction options using option_induction rules with
  | nil => rfl
  | valued o rest h ih =>
    rw [filter_cons_of_valued ((htakes o).trans h), filter_cons_of_valued h]
    exact ih
  | free o rest h ih =>
    rw [filter_cons_of_free ((htakes o).trans h), filter_cons_of_free h, ih]
    by_cases hold : isForbidden rules o = true
    · rw [if_pos hold, if_pos (isForbidden_of_subset hwider hold)]
    · rw [if_neg hold, List.filter_cons]
      cases isForbidden { rules with forbidden := wider } o <;> rfl

/-- Without flags that take a value, every option is told by itself. -/
theorem filter_of_no_values (forbidden options : List String) :
    filter ⟨forbidden, []⟩ options = options.filter (!isForbidden ⟨forbidden, []⟩ ·) := by
  have hall : filter ⟨[], []⟩ options = options := by
    have hallowed : ∀ o ∈ options, ¬ Barred ⟨[], []⟩ o := by simp [Barred]
    rw [filter, scan_of_allowed hallowed, List.filterMap_map]
    exact List.filterMap_some
  let free : UserOptionsConfig := ⟨[], []⟩
  have hpass : filter { free with forbidden } options =
      (filter free options).filter (!isForbidden { free with forbidden } ·) :=
    filter_of_subset (List.nil_subset forbidden) options
  rw [hall] at hpass
  exact hpass

/-- The last flag of the scan takes a value, and there is none left. -/
def EndsOpen (rules : UserOptionsConfig) (options : List String) : Prop :=
  ∃ flag, (scan rules options).getLast? = some (.droppedWithValue flag none)

theorem not_endsOpen_nil : ¬ EndsOpen rules [] := by
  rintro ⟨flag, h⟩
  cases h

/-- A verdict with all its tokens leaves the end of the scan to what follows. -/
theorem endsOpen_of_scan_eq (h : scan rules options = v :: scan rules rest)
    (hv : ∀ flag, v ≠ .droppedWithValue flag none) :
    EndsOpen rules options ↔ EndsOpen rules rest := by
  rw [EndsOpen, EndsOpen, h]
  cases scan rules rest with
  | nil => simp [hv]
  | cons w ws => rw [List.getLast?_cons_cons]

theorem endsOpen_cons_of_free (h : takesValue rules o = false) (rest : List String) :
    EndsOpen rules (o :: rest) ↔ EndsOpen rules rest := by
  cases hforbidden : isForbidden rules o with
  | true =>
    apply endsOpen_of_scan_eq (scan_cons_of_forbidden h hforbidden rest)
    intro flag
    exact Verdict.noConfusion
  | false =>
    have hallowed : ¬ Barred rules o := by simp [barred_iff, h, hforbidden]
    apply endsOpen_of_scan_eq (scan_cons_of_allowed hallowed rest)
    intro flag
    exact Verdict.noConfusion

/-- A list that is cut in two is scanned part by part, unless the cut takes a value from its flag. -/
theorem filter_append (rules : UserOptionsConfig) (a b : List String) :
    (¬ EndsOpen rules a ∧ filter rules (a ++ b) = filter rules a ++ filter rules b) ∨
    (EndsOpen rules a ∧ filter rules (a ++ b) = filter rules a ++ filter rules b.tail) := by
  induction a using option_induction rules with
  | nil => exact .inl ⟨not_endsOpen_nil, rfl⟩
  | valued o rest h ih =>
    cases rest with
    | nil =>
      refine .inr ⟨⟨o, ?_⟩, ?_⟩
      · rw [scan_cons_of_valued h]
        rfl
      · rw [List.singleton_append, filter_cons_of_valued h, filter_cons_of_valued h]
        rfl
    | cons v rest =>
      have hiff : EndsOpen rules (o :: v :: rest) ↔ EndsOpen rules rest := by
        apply endsOpen_of_scan_eq (scan_cons_of_valued h (v :: rest))
        intro flag
        simp
      rw [hiff, List.cons_append, filter_cons_of_valued h, filter_cons_of_valued h]
      exact ih
  | free o rest h ih =>
    rw [endsOpen_cons_of_free h, List.cons_append, filter_cons_of_free h, filter_cons_of_free h]
    by_cases hforbidden : isForbidden rules o = true
    · simpa only [if_pos hforbidden] using ih
    · simpa only [if_neg hforbidden, List.cons_append, List.cons.injEq, true_and] using ih

/--
To forbid more flags is to make a second pass over what the first one keeps, without flags that
take a value, so it can only leave more options out. A list that is cut in two is filtered part by
part, unless the scan of the first part ends on a flag whose value is missing: then the second part
is filtered without its first option, which is that value.
-/
theorem filter_composes (rules : UserOptionsConfig) (more options a b : List String) :
    filter { rules with forbidden := rules.forbidden ++ more } options =
      filter { forbidden := more, forbiddenWithValue := [] } (filter rules options) ∧
    (∀ wider, rules.forbidden ⊆ wider →
      (filter { rules with forbidden := wider } options).Sublist (filter rules options)) ∧
    (¬ EndsOpen rules a → filter rules (a ++ b) = filter rules a ++ filter rules b) ∧
    (EndsOpen rules a → filter rules (a ++ b) = filter rules a ++ filter rules b.tail) := by
  refine ⟨?_, ?_, ?_, ?_⟩
  · rw [filter_of_subset (List.subset_append_left _ _), filter_of_no_values]
    apply List.filter_congr
    intro o ho
    have hfirst : isForbidden rules o = false := by
      have hallowed := allowed_of_mem_filter ho
      rw [barred_iff, not_or] at hallowed
      simpa using hallowed.2
    rw [isForbidden] at hfirst
    simp [isForbidden, List.any_append, hfirst]
  · intro wider hwider
    rw [filter_of_subset hwider]
    exact List.filter_sublist
  · intro hclosed
    exact ((filter_append rules a b).resolve_right fun h => hclosed h.1).2
  · intro hopen
    exact ((filter_append rules a b).resolve_left fun h => h.1 hopen).2

/-- A flag at the end takes its value from the next part, where it would have been a flag. -/
theorem filter_composes_severed :
    let rules : UserOptionsConfig := {}
    EndsOpen rules ["-O2", "-o"] ∧
    filter rules (["-O2", "-o"] ++ ["-Xclang", "-g"]) =
      filter rules ["-O2", "-o"] ++ filter rules ["-g"] ∧
    filter rules (["-O2", "-o"] ++ ["-Xclang", "-g"]) = ["-O2", "-g"] ∧
    filter rules ["-Xclang", "-g"] = [] := by
  intro rules
  have hopen : EndsOpen rules ["-O2", "-o"] := ⟨"-o", by decide⟩
  obtain ⟨-, -, -, hcut⟩ := filter_composes rules [] [] ["-O2", "-o"] ["-Xclang", "-g"]
  exact ⟨hopen, hcut hopen, by decide, by decide⟩

end SpirvToolchain.UserOptions
