import SpirvToolchain.Text.Lines
import SpirvToolchain.Text.Search

/-! Lines of a text, told by its first newline: what stands before it is a line of its own. -/
namespace SpirvToolchain.Text

variable {s l : List Char} {c : Char} {ls : List (List Char)}

/-- A text is one line without a newline, or such a line, its newline and a shorter text. -/
theorem line_induction {P : List Char → Prop} (last : ∀ s, '\n' ∉ s → P s)
    (line : ∀ s t, '\n' ∉ s → P t → P (s ++ '\n' :: t)) (s : List Char) : P s := by
  cases h : splitFirst '\n' s with
  | none => exact last s (splitFirst_eq_none h)
  | some p =>
    obtain ⟨heq, hp⟩ := splitFirst_append h
    have hshorter : p.2.length < s.length := by
      rw [heq, List.length_append, List.length_cons]
      omega
    rw [heq]
    exact line p.1 p.2 hp (line_induction last line p.2)
termination_by s.length

/-- Without the one carriage return at the end, if there is one. -/
def dropReturn : List Char → List Char
  | [] => []
  | ['\r'] => []
  | c :: cs => c :: dropReturn cs

theorem lines_cons (hc : c ≠ '\n') (hreturn : c = '\r' → s.head? ≠ some '\n') :
    lines (c :: s) = consFirst c (lines s) := by
  rw [lines]
  · exact hc
  · rintro t rfl rfl
    exact hreturn rfl rfl

theorem lines_append_newline (hs : '\n' ∉ s) (t : List Char) :
    lines (s ++ '\n' :: t) = dropReturn s :: lines t := by
  fun_induction dropReturn s with
  | case1 => simp
  | case2 => simp [lines]
  | case3 c cs hreturn ih =>
    simp only [List.mem_cons, not_or] at hs
    -- A return that stands before more of the line is no part of its end.
    have hnot : c = '\r' → (cs ++ '\n' :: t).head? ≠ some '\n' := by
      rintro rfl
      cases cs with
      | nil => exact absurd rfl (hreturn rfl)
      | cons d ds =>
        simp only [List.mem_cons, not_or] at hs
        simpa using Ne.symm hs.2.1
    rw [List.cons_append, lines_cons (Ne.symm hs.1) hnot, ih hs.2, consFirst]

theorem lines_of_no_newline (hs : '\n' ∉ s) : lines s = if s = [] then [] else [s] := by
  induction s with
  | nil => simp
  | cons c cs ih =>
    simp only [List.mem_cons, not_or] at hs
    have hnot : c = '\r' → cs.head? ≠ some '\n' := fun _ hhead =>
      hs.2 (List.mem_of_mem_head? hhead)
    rw [lines_cons (Ne.symm hs.1) hnot, ih hs.2]
    cases cs <;> simp [consFirst]

theorem dropReturn_cases (s : List Char) : dropReturn s = s ∨ s = dropReturn s ++ ['\r'] := by
  fun_induction dropReturn s with
  | case1 => exact .inl rfl
  | case2 => exact .inr rfl
  | case3 c cs _ ih => exact ih.imp (congrArg (c :: ·)) (congrArg (c :: ·))

theorem mem_of_mem_dropReturn (hc : c ∈ dropReturn s) : c ∈ s := by
  rcases dropReturn_cases s with h | h
  · rwa [h] at hc
  · rw [h]
    exact List.mem_append_left _ hc

theorem trimReturns_dropReturn (s : List Char) : trimReturns (dropReturn s) = trimReturns s := by
  rcases dropReturn_cases s with h | h
  · rw [h]
  · have hend : trimReturns (dropReturn s ++ ['\r']) = trimReturns (dropReturn s) := by
      simp [trimReturns]
    rw [← hend, ← h]

theorem dropReturn_eq_self (hs : s.getLast? ≠ some '\r') : dropReturn s = s := by
  rcases dropReturn_cases s with h | h
  · exact h
  · rw [h] at hs
    simp at hs

/-- A reading that skips empty lines and returns at an end sees no seam between two texts. -/
theorem filterMap_lines_append {β : Type} {f : List Char → Option β}
    (hreturn : ∀ s, f (dropReturn s) = f s) (hnil : f [] = none) (s t : List Char) :
    (lines (s ++ '\n' :: t)).filterMap f = (lines s).filterMap f ++ (lines t).filterMap f := by
  induction s using line_induction with
  | last s hs =>
    rw [lines_append_newline hs, lines_of_no_newline hs, List.filterMap_cons, hreturn]
    by_cases hempty : s = []
    · simp [hempty, hnil]
    · cases hf : f s <;> simp [hempty, hf]
  | line s rest hs ih =>
    rw [List.append_assoc, List.cons_append, lines_append_newline hs, lines_append_newline hs,
      List.filterMap_cons, List.filterMap_cons, ih]
    cases f (dropReturn s) <;> rfl

/-- A line holds characters of the text, and no newline. -/
theorem mem_of_mem_lines (hl : l ∈ lines s) (hc : c ∈ l) : c ∈ s ∧ c ≠ '\n' := by
  induction s using line_induction with
  | last s hs =>
    rw [lines_of_no_newline hs] at hl
    split at hl
    · simp at hl
    · obtain rfl := List.mem_singleton.1 hl
      exact ⟨hc, ne_of_mem_of_not_mem hc hs⟩
  | line s t hs ih =>
    rw [lines_append_newline hs] at hl
    rcases List.mem_cons.1 hl with rfl | hl
    · have hmem := mem_of_mem_dropReturn hc
      exact ⟨List.mem_append_left _ hmem, ne_of_mem_of_not_mem hmem hs⟩
    · obtain ⟨hmem, hne⟩ := ih hl
      exact ⟨by simp [hmem], hne⟩

theorem mem_of_mem_intercalate {sep : List Char} (hc : c ∈ sep.intercalate ls) :
    c ∈ sep ∨ ∃ l ∈ ls, c ∈ l := by
  induction ls with
  | nil => simp at hc
  | cons l ls ih =>
    cases ls with
    | nil => exact .inr ⟨l, List.mem_cons_self, by simpa using hc⟩
    | cons l' ls =>
      rw [List.intercalate_cons_cons, List.mem_append, List.mem_append] at hc
      rcases hc with (hc | hc) | hc
      · exact .inr ⟨l, List.mem_cons_self, hc⟩
      · exact .inl hc
      · exact (ih hc).imp_right fun ⟨m, hm, hmem⟩ => ⟨m, List.mem_cons_of_mem l hm, hmem⟩

theorem notMem_unlines (hls : ∀ l ∈ ls, c ∉ l) (hc : c ≠ '\n') : c ∉ unlines ls := by
  intro hmem
  rcases mem_of_mem_intercalate hmem with h | ⟨l, hl, hmem⟩
  · exact hc (List.mem_singleton.1 h)
  · exact hls l hl hmem

theorem mem_unlines (hl : l ∈ ls) (hc : c ∈ l) : c ∈ unlines ls := by
  induction ls with
  | nil => cases hl
  | cons l' ls ih =>
    cases ls with
    | nil =>
      obtain rfl := List.mem_singleton.1 hl
      simpa [unlines] using hc
    | cons l'' ls =>
      rw [unlines, List.intercalate_cons_cons, List.mem_append, List.mem_append]
      rcases List.mem_cons.1 hl with rfl | hl
      · exact .inl (.inl hc)
      · exact .inr (ih hl)

theorem unlines_cons_cons (l l' : List Char) (ls : List (List Char)) :
    unlines (l :: l' :: ls) = l ++ '\n' :: unlines (l' :: ls) := by
  simp [unlines, List.intercalate]

/-- Lines written one below the other are read back, unless a newline or an end looks different. -/
theorem lines_unlines (hls : ∀ l ∈ ls, '\n' ∉ l ∧ l.getLast? ≠ some '\r')
    (hlast : ls.getLast? ≠ some []) : lines (unlines ls) = ls := by
  induction ls with
  | nil => rfl
  | cons l ls ih =>
    obtain ⟨⟨hnewline, hreturn⟩, hls⟩ := List.forall_mem_cons.1 hls
    cases ls with
    | nil =>
      have hne : l ≠ [] := by simpa using hlast
      have hsingle : unlines [l] = l := by simp [unlines]
      rw [hsingle, lines_of_no_newline hnewline, if_neg hne]
    | cons l' ls =>
      rw [unlines_cons_cons, lines_append_newline hnewline, dropReturn_eq_self hreturn,
        ih hls (by simpa using hlast)]

end SpirvToolchain.Text
