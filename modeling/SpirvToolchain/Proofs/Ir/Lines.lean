import SpirvToolchain.Proofs.Ir.Composition

/-! Lines of a dump one by one: what is left of each, and of a text that is written from them. -/
namespace SpirvToolchain.Ir

open Text

variable {f : Filters} {ls : List (List Char)} {s : List Char}

/-- What is left of a line, whatever stands around it. -/
def left? (f : Filters) (s : List Char) : Option (List Char) :=
  if keeps f s then some (reduce f s) else none

theorem filterLines_eq_tidy (f : Filters) (ls : List (List Char)) :
    filterLines f ls = tidy f.trim (ls.filterMap (left? f)) := by
  have hleft : (ls.filter (keeps f)).map (reduce f) = ls.filterMap (left? f) := by
    induction ls with
    | nil => rfl
    | cons s ls ih => cases hs : keeps f s <;> simp [left?, hs, ih]
  rw [filterLines, hleft]

/-- Each line left is what is left of a line that stays, in their order. -/
theorem exists_origins (f : Filters) (ir : List Char) :
    ∃ origins : List (List Char), origins.Sublist ((lines ir).filter (keeps f)) ∧
      filter f ir = origins.map (reduce f) :=
  List.sublist_map_iff.1 (sublist_tidy f.trim (((lines ir).filter (keeps f)).map (reduce f)))

theorem reduce_nil (f : Filters) : reduce f [] = [] := by
  cases hd : f.directives <;> cases ht : f.trim <;> simp [reduce, hd, ht, erase, squash, words]

/-- The last of some lines ends with the text, each other one with a newline. -/
theorem exists_lines_unlines (hls : ∀ l ∈ ls, '\n' ∉ l) (hne : ls ≠ []) :
    ∃ init last, ls = init ++ [last] ∧ lines (unlines ls) = init.map dropReturn ++ lines last := by
  induction ls with
  | nil => exact absurd rfl hne
  | cons l ls ih =>
    obtain ⟨hl, hls⟩ := List.forall_mem_cons.1 hls
    cases ls with
    | nil => exact ⟨[], l, rfl, by simp [unlines]⟩
    | cons l' ls =>
      obtain ⟨init, last, hsplit, hlines⟩ := ih hls (List.cons_ne_nil l' ls)
      refine ⟨l :: init, last, by rw [hsplit, List.cons_append], ?_⟩
      rw [unlines_cons_cons, lines_append_newline hl, hlines, List.map_cons, List.cons_append]

/--
Filtering a text is filtering the lines it is written from, if a return at the end of one makes no
difference to it.
-/
theorem filter_unlines (hls : ∀ l ∈ ls, '\n' ∉ l ∧ left? f (dropReturn l) = left? f l) :
    filter f (unlines ls) = filterLines f ls := by
  rw [filter_eq]
  by_cases hne : ls = []
  · rw [hne]
    rfl
  · obtain ⟨init, last, rfl, hlines⟩ := exists_lines_unlines (fun l hl => (hls l hl).1) hne
    have hinit : (init.map dropReturn).filterMap (left? f) = init.filterMap (left? f) := by
      rw [List.filterMap_map]
      exact List.filterMap_congr fun l hl => (hls l (List.mem_append_left _ hl)).2
    rw [hlines, filterLines_eq_tidy, filterLines_eq_tidy, List.filterMap_append,
      List.filterMap_append, hinit, lines_of_no_newline (hls last (by simp)).1]
    split
    · next hlast =>
      -- An empty last line is none in the text, and blank among the lines.
      have hblank : ∀ s ∈ [last].filterMap (left? f), allBlank s = true := by
        rw [hlast]
        cases hk : keeps f [] <;> simp [left?, hk, reduce_nil, allBlank]
      rw [List.filterMap_nil, List.append_nil, tidy_append hblank]
    · rfl

end SpirvToolchain.Ir
