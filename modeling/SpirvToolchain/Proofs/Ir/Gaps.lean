import Mathlib.Data.List.Chain
import Mathlib.Data.List.Forall2
import SpirvToolchain.Proofs.Ir.Composition

/-! What filters leave besides what they name: every other line, and a blank line where one was. -/
namespace SpirvToolchain.Ir

open Text

/-- What stands between any two neighbours among the elements with a property. -/
def gaps {α : Type} (p : α → Bool) (l : List α) : List (List α) := (l.splitOnP p).tail.dropLast

section Gaps

variable {α : Type} {p : α → Bool}

theorem notMem_of_mem_splitOnP {l g : List α} (hg : g ∈ l.splitOnP p) : ∀ a ∈ g, p a = false := by
  induction l generalizing g with
  | nil => simp_all [List.splitOnP_nil]
  | cons b l ih =>
    rw [List.splitOnP_cons_eq_if_modifyHead] at hg
    split at hg
    · rcases List.mem_cons.1 hg with rfl | hg
      · simp
      · exact ih hg
    · next hb =>
      obtain ⟨h, t, heq⟩ := List.exists_cons_of_ne_nil (List.splitOnP_ne_nil p l)
      rw [heq] at hg ih
      rcases List.mem_cons.1 hg with rfl | hg
      · exact List.forall_mem_cons.2 ⟨by simpa using hb, ih List.mem_cons_self⟩
      · exact ih (List.mem_cons_of_mem h hg)

theorem gaps_append {t : List α} (ht : ∀ a ∈ t, p a = false) (l : List α) :
    gaps p (l ++ t) = gaps p l := by
  have hlast : ((l ++ t).splitOnP p).dropLast = (l.splitOnP p).dropLast := by
    induction l with
    | nil => simp [List.splitOnP_eq_singleton ht]
    | cons a l ih =>
      obtain ⟨g, gs, heq⟩ := List.exists_cons_of_ne_nil (List.splitOnP_ne_nil p l)
      obtain ⟨g', gs', heq'⟩ := List.exists_cons_of_ne_nil (List.splitOnP_ne_nil p (l ++ t))
      rw [heq, heq'] at ih
      rw [List.cons_append, List.splitOnP_cons_eq_if_modifyHead,
        List.splitOnP_cons_eq_if_modifyHead, heq, heq']
      split
      · rw [List.dropLast_cons_cons, List.dropLast_cons_cons, ih]
      · cases gs <;> cases gs' <;> simp_all
  rw [gaps, gaps, ← List.tail_dropLast, ← List.tail_dropLast, hlast]

theorem gaps_append_left {t : List α} (ht : ∀ a ∈ t, p a = false) (l : List α) :
    gaps p (t ++ l) = gaps p l := by
  have htail : ((t ++ l).splitOnP p).tail = (l.splitOnP p).tail := by
    induction t with
    | nil => rfl
    | cons a t ih =>
      obtain ⟨ha, ht⟩ := List.forall_mem_cons.1 ht
      rw [List.cons_append, List.splitOnP_cons_eq_if_modifyHead, if_neg (by simp [ha]), ← ih ht]
      exact List.tail_modifyHead
  rw [gaps, htail, gaps]

theorem splitOnP_filter (q : α → Bool) (l : List α) :
    (l.filter q).splitOnP p = (l.splitOnP fun a => p a && q a).map (List.filter q) := by
  induction l with
  | nil => simp
  | cons a l ih =>
    obtain ⟨g, gs, heq⟩ := List.exists_cons_of_ne_nil (List.splitOnP_ne_nil (fun a => p a && q a) l)
    rw [heq] at ih
    rw [List.splitOnP_cons_eq_if_modifyHead, heq]
    cases hq : q a with
    | false => simp [hq, ih]
    | true =>
      rw [List.filter_cons_of_pos hq, List.splitOnP_cons_eq_if_modifyHead, ih]
      cases hp : p a <;> simp [hq]

theorem gaps_filter (q : α → Bool) (l : List α) :
    gaps p (l.filter q) = (gaps (fun a => p a && q a) l).map (List.filter q) := by
  rw [gaps, gaps, splitOnP_filter, List.map_dropLast, List.map_tail]

end Gaps

variable {f : Filters} {trim previous : Bool} {ls : List (List Char)} {s l : List Char}

/-- Whether a line has something to read in it. -/
def isInked (s : List Char) : Bool := !allBlank s

/-- The lines that a filter is asked to leave out. -/
def names (f : Filters) (s : List Char) : Bool :=
  (f.commentOnly && isComment s) || (f.debugCalls && isDebugCall s)

/-- What is left of a line when directives stay: the line, or its words if it is trimmed. -/
def Renders (trim : Bool) (l s : List Char) : Prop :=
  if trim then words l = words s ∧ l.head?.any isBlank = s.head?.any isBlank else l = s

theorem keeps_eq_not_names (hf : f.directives = false) (s : List Char) :
    keeps f s = !names f s := by
  simp [keeps, names, hf, Bool.and_comm]

theorem head?_dropBlanks (trim : Bool) (ls : List (List Char)) :
    ∀ s ∈ (dropBlanks trim true ls).head?, allBlank s = false := by
  induction ls with
  | nil => simp [dropBlanks]
  | cons s ls ih =>
    cases hs : allBlank s with
    | true =>
      rw [dropBlanks_cons_of_blank hs (Bool.or_true trim)]
      exact ih
    | false =>
      rw [dropBlanks_cons_of_inked hs]
      simpa using hs

theorem isChain_dropBlanks (trim previous : Bool) (ls : List (List Char)) :
    (dropBlanks trim previous ls).IsChain fun s t => allBlank s = false ∨ allBlank t = false := by
  fun_induction dropBlanks trim previous ls with
  | case1 => exact .nil
  | case2 previous s ls hs h ih => exact ih
  | case3 previous s ls hs h ih =>
    exact List.isChain_cons.2 ⟨fun t ht => .inr (head?_dropBlanks trim ls t ht), ih⟩
  | case4 previous s ls hs ih =>
    exact List.isChain_cons.2 ⟨fun t _ => .inl (by simpa using hs), ih⟩

theorem isChain_tidy (trim : Bool) (ls : List (List Char)) :
    (tidy trim ls).IsChain fun s t => allBlank s = false ∨ allBlank t = false := by
  obtain ⟨t, -, heq⟩ := exists_tidy_append trim ls
  have hchain := isChain_dropBlanks trim true ls
  rw [← heq] at hchain
  exact hchain.left_of_append

theorem head?_tidy (trim : Bool) (ls : List (List Char)) :
    ∀ s ∈ (tidy trim ls).head?, allBlank s = false := by
  intro s hs
  obtain ⟨t, -, heq⟩ := exists_tidy_append trim ls
  refine head?_dropBlanks trim ls s ?_
  rw [← heq]
  exact List.mem_head?_append_of_mem_head? hs

/-- Of the blank lines between two others only the first stays. -/
theorem splitOnP_dropBlanks (previous : Bool) (ls : List (List Char)) :
    (dropBlanks false previous ls).splitOnP isInked =
      ((ls.splitOnP isInked).map (List.take 1)).modifyHead fun g => if previous then [] else g := by
  induction ls generalizing previous with
  | nil => cases previous <;> rfl
  | cons s ls ih =>
    obtain ⟨g, gs, heq⟩ := List.exists_cons_of_ne_nil (List.splitOnP_ne_nil isInked ls)
    rw [heq] at ih
    rw [List.splitOnP_cons_eq_if_modifyHead, heq]
    cases hs : allBlank s with
    | false =>
      rw [dropBlanks_cons_of_inked hs, List.splitOnP_cons_eq_if_modifyHead, ih]
      cases previous <;> simp [isInked, hs]
    | true =>
      cases previous with
      | true =>
        rw [dropBlanks_cons_of_blank hs rfl, ih]
        simp [isInked, hs]
      | false =>
        rw [dropBlanks_cons_of_first hs (by decide), List.splitOnP_cons_eq_if_modifyHead, ih]
        simp [isInked, hs]

theorem gaps_dropBlanks (ls : List (List Char)) :
    gaps isInked (dropBlanks false true ls) = (gaps isInked ls).map (List.take 1) := by
  obtain ⟨g, gs, heq⟩ := List.exists_cons_of_ne_nil (List.splitOnP_ne_nil isInked ls)
  rw [gaps, gaps, splitOnP_dropBlanks, heq]
  simp

theorem gaps_tidy (ls : List (List Char)) :
    gaps isInked (tidy false ls) = (gaps isInked ls).map (List.take 1) := by
  obtain ⟨t, ht, heq⟩ := exists_tidy_append false ls
  have hblank : ∀ s ∈ t, isInked s = false := by simpa [isInked] using ht
  rw [← gaps_dropBlanks, ← heq, gaps_append hblank]

theorem gaps_filterLines (hf : f.directives = false) (ht : f.trim = false)
    (ls : List (List Char)) :
    gaps isInked (filterLines f ls) =
      (gaps (fun s => isInked s && !names f s) ls).map fun g => (g.filter (!names f ·)).take 1 := by
  have hkeeps : keeps f = (!names f ·) := funext (keeps_eq_not_names hf)
  rw [filterLines_of_not_trim hf ht, gaps_tidy, hkeeps, gaps_filter, List.map_map]
  rfl

theorem allBlank_reduce_of_directives (hf : f.directives = false) (s : List Char) :
    allBlank (reduce f s) = allBlank s := by
  rw [reduce_eq hf]
  split
  · exact allBlank_squash s
  · rfl

theorem inked_filterLines (hf : f.directives = false) (ls : List (List Char)) :
    (filterLines f ls).filter isInked =
      (ls.filter fun s => isInked s && !names f s).map (reduce f) := by
  have htidy : (filterLines f ls).filter isInked =
      ((ls.filter (keeps f)).map (reduce f)).filter isInked := inked_tidy _ _
  rw [htidy, List.filter_map, List.filter_filter]
  refine congrArg _ (List.filter_congr fun s _ => ?_)
  rw [Function.comp_apply, isInked, isInked, allBlank_reduce_of_directives hf,
    keeps_eq_not_names hf]

theorem renders_reduce (hf : f.directives = false) (hs : allBlank s = false) :
    Renders f.trim (reduce f s) s := by
  rw [reduce_eq hf, Renders]
  split
  · exact ⟨words_squash s, head?_squash hs⟩
  · rfl

/-- A line between two that stay side by side is blank, or left out. -/
theorem names_eq_not_allBlank {g : List (List Char)}
    (hg : g ∈ gaps (fun s => isInked s && !names f s) ls) (hf : f.directives = false)
    (hs : s ∈ g) : (!names f s) = allBlank s := by
  have hpiece : g ∈ ls.splitOnP fun s => isInked s && !names f s :=
    List.mem_of_mem_tail ((List.dropLast_sublist _).subset hg)
  have hout := notMem_of_mem_splitOnP hpiece s hs
  cases hb : allBlank s with
  | false => simpa [isInked, hb] using hout
  | true => rw [← keeps_eq_not_names hf, keeps_of_allBlank hf hb]

theorem exists_blank_iff {g : List (List Char)}
    (hg : g ∈ gaps (fun s => isInked s && !names f s) ls) (hf : f.directives = false) :
    (∃ s ∈ (g.filter (!names f ·)).take 1, allBlank s = true) ↔ ∃ s ∈ g, allBlank s = true := by
  have hblank : g.filter (!names f ·) = g.filter allBlank :=
    List.filter_congr fun s hs => names_eq_not_allBlank hg hf hs
  rw [hblank]
  constructor
  · rintro ⟨s, hs, hb⟩
    exact ⟨s, List.mem_of_mem_filter (List.mem_of_mem_take hs), hb⟩
  · rintro ⟨s, hs, hb⟩
    have hmem : s ∈ g.filter allBlank := List.mem_filter.2 ⟨hs, hb⟩
    obtain ⟨t, ts, heq⟩ := List.exists_cons_of_ne_nil (List.ne_nil_of_mem hmem)
    refine ⟨t, by simp [heq], ?_⟩
    have ht : t ∈ g.filter allBlank := by simp [heq]
    exact List.of_mem_filter ht

/--
Of a dump no blank line is left at the start, at the end, beside another or, when trimming, at
all. Unless directives are hidden, the other lines left are those of the dump that no filter
names, in order, each as it was or, when trimming, with its words and its indent; and unless
trimming, a blank line is left between two of them exactly if one stood between their originals.
-/
theorem process_loses_nothing_else {text : String} (hnul : '\x00' ∉ text.toList) (f : Filters) :
    ∃ left, process text f = .ok (left.map fun s => { text := String.ofList s }) ∧
      (∀ s ∈ left.head?, allBlank s = false) ∧
      (∀ s ∈ left.getLast?, allBlank s = false) ∧
      (left.IsChain fun s t => allBlank s = false ∨ allBlank t = false) ∧
      (f.trim = true → ∀ s ∈ left, allBlank s = false) ∧
      (f.directives = false →
        List.Forall₂ (Renders f.trim) (left.filter isInked)
          ((lines text.toList).filter fun s => isInked s && !names f s)) ∧
      (f.directives = false → f.trim = false →
        List.Forall₂ (fun g g' => (∃ s ∈ g, allBlank s = true) ↔ ∃ s ∈ g', allBlank s = true)
          (gaps isInked left)
          (gaps (fun s => isInked s && !names f s) (lines text.toList))) := by
  refine ⟨filter f text.toList, process_eq_ok hnul f, head?_tidy _ _, getLast?_tidy _ _,
    isChain_tidy _ _, ?_, fun hf => ?_, fun hf ht => ?_⟩
  · intro ht s hs
    rw [filter_eq, filterLines, ht, tidy_true] at hs
    simpa using (List.mem_filter.1 hs).2
  · rw [filter_eq, inked_filterLines hf, List.forall₂_map_left_iff, List.forall₂_same]
    intro s hs
    obtain ⟨-, hstays⟩ := List.mem_filter.1 hs
    obtain ⟨hinked, -⟩ := Bool.and_eq_true_iff.1 hstays
    exact renders_reduce hf (by simpa [isInked] using hinked)
  · rw [filter_eq, gaps_filterLines hf ht, List.forall₂_map_left_iff, List.forall₂_same]
    exact fun g hg => exists_blank_iff hg hf

/-- Comments with a blank line between them, and a call of the debugger with none beside it. -/
def gappedDump : String := "\n; head\nentry:\n; one\n \t\n; two\n  ret void\n  #dbg_value\nend:\n\n"

theorem process_loses_nothing_else_gappedDump :
    let f : Filters := { commentOnly := true, debugCalls := true }
    '\x00' ∉ gappedDump.toList ∧ f.directives = false ∧ f.trim = false ∧
    ∃ left, process gappedDump f = .ok (left.map fun s => { text := String.ofList s }) ∧
      left.filter isInked = ["entry:".toList, "  ret void".toList, "end:".toList] ∧
      (gaps isInked left).map (·.any allBlank) = [true, false] := by
  intro f
  have hnul : '\x00' ∉ gappedDump.toList := by decide
  obtain ⟨left, hleft, -, -, -, -, hlines, hgaps⟩ := process_loses_nothing_else hnul f
  refine ⟨hnul, rfl, rfl, left, hleft, ?_, ?_⟩
  · have hstays : (lines gappedDump.toList).filter (fun s => isInked s && !names f s) =
        ["entry:".toList, "  ret void".toList, "end:".toList] := by decide
    have hsame : List.Forall₂ (· = ·) (left.filter isInked)
        ["entry:".toList, "  ret void".toList, "end:".toList] := hstays ▸ hlines rfl
    exact List.forall₂_eq_eq_eq ▸ hsame
  · have hbetween : gaps (fun s => isInked s && !names f s) (lines gappedDump.toList) =
        [["; one".toList, " \t".toList, "; two".toList], ["  #dbg_value".toList]] := by decide
    have hblank := hgaps rfl rfl
    rw [hbetween] at hblank
    obtain ⟨g, _, hfirst, hrest, heq⟩ := List.forall₂_cons_right_iff.1 hblank
    obtain ⟨g', _, hsecond, hnil, rfl⟩ := List.forall₂_cons_right_iff.1 hrest
    obtain rfl := List.forall₂_nil_right_iff.1 hnil
    have hone : g.any allBlank = true := by
      rw [List.any_eq_true, hfirst]
      decide
    have hnone : g'.any allBlank = false := by
      rw [← Bool.not_eq_true, List.any_eq_true, hsecond]
      decide
    rw [heq, List.map_cons, List.map_cons, List.map_nil, hone, hnone]

end SpirvToolchain.Ir
