import Mathlib.Data.List.DropRight
import SpirvToolchain.Proofs.Text.Lines

/-! Lines that show something, without the returns at their ends, and the text they make up. -/
namespace SpirvToolchain.Text

variable {s l : List Char} {c : Char}

/-- What a line shows, without the returns at its end. -/
def shown? (l : List Char) : Option (List Char) :=
  if allBlank (trimReturns l) then none else some (trimReturns l)

/-- What the lines of a text show. -/
def visible (s : List Char) : List (List Char) := (lines s).filterMap shown?

theorem trimReturns_eq (s : List Char) : trimReturns s = s.rdropWhile (· == '\r') := rfl

theorem exists_trimReturns_append (s : List Char) :
    ∃ t, (∀ c ∈ t, c = '\r') ∧ trimReturns s ++ t = s := by
  refine ⟨s.rtakeWhile (· == '\r'), fun c hc => ?_, List.rdropWhile_append_rtakeWhile⟩
  simpa using List.mem_rtakeWhile_imp hc

theorem getLast?_trimReturns (s : List Char) : (trimReturns s).getLast? ≠ some '\r' := by
  rw [trimReturns_eq]
  intro h
  obtain ⟨hne, hlast⟩ := List.mem_getLast?_eq_getLast h
  have hnot := List.rdropWhile_last_not (· == '\r') s hne
  rw [← hlast] at hnot
  exact hnot rfl

theorem trimReturns_eq_self (hs : s.getLast? ≠ some '\r') : trimReturns s = s := by
  rw [trimReturns_eq, List.rdropWhile_eq_self_iff]
  intro hne hlast
  rw [List.getLast?_eq_some_getLast hne] at hs
  exact hs (congrArg some (by simpa using hlast))

theorem allBlank_eq_false_of_mem (hc : isBlank c = false) (hs : c ∈ s) : allBlank s = false := by
  rw [allBlank, List.all_eq_false]
  exact ⟨c, hs, by simp [hc]⟩

theorem mem_visible_iff :
    l ∈ visible s ↔ (∃ r ∈ lines s, trimReturns r = l) ∧ allBlank l = false := by
  constructor
  · intro h
    obtain ⟨r, hr, hshown⟩ := List.mem_filterMap.1 h
    unfold shown? at hshown
    split at hshown
    · cases hshown
    · next hinked =>
      obtain rfl := Option.some.inj hshown
      exact ⟨⟨r, hr, rfl⟩, by simpa using hinked⟩
  · rintro ⟨⟨r, hr, rfl⟩, hinked⟩
    exact List.mem_filterMap.2 ⟨r, hr, by simp [shown?, hinked]⟩

theorem infix_of_mem_lines (hl : l ∈ lines s) : l <:+: s := by
  induction s using line_induction with
  | last s hs =>
    rw [lines_of_no_newline hs] at hl
    split at hl
    · simp at hl
    · obtain rfl := List.mem_singleton.1 hl
      exact List.infix_rfl
  | line s t hs ih =>
    rw [lines_append_newline hs] at hl
    rcases List.mem_cons.1 hl with rfl | hl
    · have hstart : dropReturn s <+: s := by
        rcases dropReturn_cases s with h | h
        · exact ⟨[], (List.append_nil _).trans h⟩
        · exact ⟨['\r'], h.symm⟩
      exact (hstart.trans (List.prefix_append s _)).isInfix
    · have hsuffix : t <:+ s ++ '\n' :: t := (List.suffix_cons '\n' t).trans (List.suffix_append s _)
      exact (ih hl).trans hsuffix.isInfix

/-- What is neither a newline nor a return stands in a line. -/
theorem exists_mem_lines (hc : c ∈ s) (hnewline : c ≠ '\n') (hreturn : c ≠ '\r') :
    ∃ l ∈ lines s, c ∈ l := by
  induction s using line_induction with
  | last s hs =>
    have hne : s ≠ [] := List.ne_nil_of_mem hc
    exact ⟨s, by rw [lines_of_no_newline hs, if_neg hne]; simp, hc⟩
  | line s t hs ih =>
    rw [lines_append_newline hs]
    simp only [List.mem_append, List.mem_cons, hnewline, false_or] at hc
    rcases hc with hc | hc
    · refine ⟨dropReturn s, List.mem_cons_self, ?_⟩
      rcases dropReturn_cases s with h | h
      · rwa [h]
      · rw [h] at hc
        simpa [hreturn] using hc
    · obtain ⟨l, hl, hmem⟩ := ih hc
      exact ⟨l, List.mem_cons_of_mem _ hl, hmem⟩

theorem infix_of_mem_visible (hl : l ∈ visible s) : l <:+: s := by
  obtain ⟨⟨r, hr, rfl⟩, -⟩ := mem_visible_iff.1 hl
  obtain ⟨t, -, ht⟩ := exists_trimReturns_append r
  have hstart : trimReturns r <+: r := ⟨t, ht⟩
  exact hstart.isInfix.trans (infix_of_mem_lines hr)

theorem mem_unlines_visible_iff (hc : isBlank c = false) :
    c ∈ unlines (visible s) ↔ c ∈ s := by
  have hnewline : c ≠ '\n' := by
    rintro rfl
    simp [isBlank_newline] at hc
  have hreturn : c ≠ '\r' := by
    rintro rfl
    simp [isBlank_return] at hc
  constructor
  · intro h
    rcases mem_of_mem_intercalate h with h | ⟨l, hl, hmem⟩
    · exact absurd (List.mem_singleton.1 h) hnewline
    · exact (infix_of_mem_visible hl).subset hmem
  · intro h
    obtain ⟨r, hr, hmem⟩ := exists_mem_lines h hnewline hreturn
    obtain ⟨t, ht, heq⟩ := exists_trimReturns_append r
    have hkept : c ∈ trimReturns r := by
      rw [← heq, List.mem_append] at hmem
      exact hmem.resolve_right fun hct => hreturn (ht c hct)
    have hvisible : trimReturns r ∈ visible s :=
      mem_visible_iff.2 ⟨⟨r, hr, rfl⟩, allBlank_eq_false_of_mem hc hkept⟩
    exact mem_unlines hvisible hkept

/-- Written one below the other, visible lines are read back. -/
theorem lines_unlines_visible (s : List Char) : lines (unlines (visible s)) = visible s := by
  refine lines_unlines (fun l hl => ?_) fun h => ?_
  · obtain ⟨⟨r, hr, rfl⟩, -⟩ := mem_visible_iff.1 hl
    refine ⟨fun hnewline => ?_, getLast?_trimReturns r⟩
    obtain ⟨t, -, heq⟩ := exists_trimReturns_append r
    have hmem : '\n' ∈ r := by
      rw [← heq]
      exact List.mem_append_left t hnewline
    exact (mem_of_mem_lines hr hmem).2 rfl
  · have hempty := (mem_visible_iff.1 (List.mem_of_getLast? h)).2
    simp [allBlank] at hempty

end SpirvToolchain.Text
