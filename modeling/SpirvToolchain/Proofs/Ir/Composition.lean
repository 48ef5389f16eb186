import Mathlib.Data.List.Perm.Basic
import SpirvToolchain.Proofs.Ir.Blanks
import SpirvToolchain.Proofs.Ir.Squash

/-! Filters one after another are the filters at once, whatever their order. -/
namespace SpirvToolchain

/-- What either of two filters leaves out. -/
def Filters.or (f g : Filters) : Filters where
  binary := f.binary || g.binary
  binaryObject := f.binaryObject || g.binaryObject
  execute := f.execute || g.execute
  directives := f.directives || g.directives
  commentOnly := f.commentOnly || g.commentOnly
  labels := f.labels || g.labels
  libraryCode := f.libraryCode || g.libraryCode
  trim := f.trim || g.trim
  debugCalls := f.debugCalls || g.debugCalls
  demangle := f.demangle || g.demangle
  intel := f.intel || g.intel

namespace Filters

theorem or_comm (f g : Filters) : f.or g = g.or f := by simp only [Filters.or, Bool.or_comm]

theorem or_assoc (f g h : Filters) : (f.or g).or h = f.or (g.or h) := by
  simp only [Filters.or, Bool.or_assoc]

instance : RightCommutative Filters.or where
  right_comm f g h := by rw [or_assoc, or_comm g h, ← or_assoc]

theorem or_self (f : Filters) : f.or f = f := by simp only [Filters.or, Bool.or_self]

theorem directives_or {f g : Filters} (hf : f.directives = false) (hg : g.directives = false) :
    (f.or g).directives = false := by
  simp [Filters.or, hf, hg]

theorem foldl_or (f : Filters) (fs : List Filters) :
    fs.foldl Filters.or f = (f :: fs).foldl Filters.or {} := by
  have hnone : Filters.or {} f = f := by simp [Filters.or]
  rw [List.foldl_cons, hnone]

end Filters

namespace Ir

open Text

variable {f g : Filters} {ls : List (List Char)} {s ir : List Char} {c : Char}

/-- The lines left of some lines. -/
def filterLines (f : Filters) (ls : List (List Char)) : List (List Char) :=
  tidy f.trim ((ls.filter (keeps f)).map (reduce f))

theorem filter_eq (f : Filters) (ir : List Char) : filter f ir = filterLines f (lines ir) := rfl

theorem keeps_or (f g : Filters) (s : List Char) : keeps (f.or g) s = (keeps g s && keeps f s) := by
  cases hd : isDirective s <;> cases hc : isDebugCall s <;> cases hm : isComment s <;>
    simp [keeps, Filters.or, hd, hc, hm, Bool.and_assoc, Bool.and_comm, Bool.and_left_comm]

theorem filter_keeps_or (f g : Filters) (ls : List (List Char)) :
    (ls.filter (keeps f)).filter (keeps g) = ls.filter (keeps (f.or g)) := by
  rw [List.filter_filter]
  exact List.filter_congr fun s _ => (keeps_or f g s).symm

theorem reduce_eq (hf : f.directives = false) (s : List Char) :
    reduce f s = if f.trim then squash s else s := by
  simp [reduce, hf]

theorem reduce_squash (hf : f.directives = false) (s : List Char) :
    reduce f (squash s) = squash s := by
  rw [reduce_eq hf, squash_squash, ite_self]

theorem mem_of_mem_reduce (hf : f.directives = false) (hc : c ∈ reduce f s) : c = ' ' ∨ c ∈ s := by
  rw [reduce_eq hf] at hc
  split at hc
  · exact mem_of_mem_squash hc
  · exact .inr hc

theorem inked_map_squash (ls : List (List Char)) :
    inked (ls.map squash) = (inked ls).map squash := by
  simp [inked, List.filter_map, Function.comp_def, allBlank_squash]

theorem inked_filter (p : List Char → Bool) (ls : List (List Char)) :
    inked (ls.filter p) = (inked ls).filter p := by
  rw [inked, inked, List.filter_filter, List.filter_filter]
  exact List.filter_congr fun s _ => Bool.and_comm _ _

theorem filterLines_of_trim (hf : f.directives = false) (ht : f.trim = true)
    (ls : List (List Char)) : filterLines f ls = ((inked ls).filter (keeps f)).map squash := by
  have hreduce : (ls.filter (keeps f)).map (reduce f) = (ls.filter (keeps f)).map squash :=
    List.map_congr_left fun s _ => by rw [reduce_eq hf, if_pos ht]
  rw [filterLines, ht, tidy_true, hreduce, inked_map_squash, inked_filter]

theorem filterLines_of_not_trim (hf : f.directives = false) (ht : f.trim = false)
    (ls : List (List Char)) : filterLines f ls = tidy false (ls.filter (keeps f)) := by
  have hreduce : (ls.filter (keeps f)).map (reduce f) = ls.filter (keeps f) :=
    (List.map_congr_left fun s _ => by rw [reduce_eq hf, ht]; rfl).trans (List.map_id _)
  rw [filterLines, ht, hreduce]

/-- Where no line is blank, and all are squashed, filters only choose among the lines. -/
theorem filterLines_map_squash (hf : f.directives = false) (h : ∀ s ∈ ls, allBlank s = false) :
    filterLines f (ls.map squash) = (ls.filter (keeps f)).map squash := by
  have hkeeps : (ls.map squash).filter (keeps f) = (ls.filter (keeps f)).map squash := by
    rw [List.filter_map]
    exact congrArg _ (List.filter_congr fun s _ => keeps_squash hf s)
  have hreduce : ((ls.filter (keeps f)).map squash).map (reduce f) =
      (ls.filter (keeps f)).map squash := by
    rw [List.map_map]
    exact List.map_congr_left fun s _ => reduce_squash hf s
  have hinked : ∀ s ∈ (ls.filter (keeps f)).map squash, allBlank s = false := by
    intro s hs
    obtain ⟨r, hr, rfl⟩ := List.mem_map.1 hs
    rw [allBlank_squash]
    exact h r (List.mem_of_mem_filter hr)
  rw [filterLines, hkeeps, hreduce, tidy_of_inked hinked]

theorem filterLines_filterLines (hf : f.directives = false) (hg : g.directives = false)
    (ls : List (List Char)) : filterLines g (filterLines f ls) = filterLines (f.or g) ls := by
  have hor := Filters.directives_or hf hg
  cases ht : f.trim with
  | true =>
    -- Trimming comes first: the second pass finds squashed lines only.
    have htrim : (f.or g).trim = true := by simp [Filters.or, ht]
    have hinked : ∀ s ∈ (inked ls).filter (keeps f), allBlank s = false := by simp [inked]
    rw [filterLines_of_trim hf ht, filterLines_map_squash hg hinked, filter_keeps_or,
      filterLines_of_trim hor htrim]
  | false =>
    cases htg : g.trim with
    | true =>
      have htrim : (f.or g).trim = true := by simp [Filters.or, htg]
      rw [filterLines_of_not_trim hf ht, filterLines_of_trim hg htg, inked_tidy, inked_filter,
        filter_keeps_or, filterLines_of_trim hor htrim]
    | false =>
      have htrim : (f.or g).trim = false := by simp [Filters.or, ht, htg]
      rw [filterLines_of_not_trim hf ht, filterLines_of_not_trim hg htg,
        tidy_filter_tidy fun s hs => keeps_of_allBlank hg hs, filter_keeps_or,
        filterLines_of_not_trim hor htrim]

/-- A line that is left holds characters of the text, and spaces. -/
theorem mem_of_mem_filter (hf : f.directives = false) (hs : s ∈ filter f ir) (hc : c ∈ s) :
    c = ' ' ∨ c ∈ ir ∧ c ≠ '\n' := by
  have hmem := (sublist_tidy _ _).subset hs
  obtain ⟨r, hr, rfl⟩ := List.mem_map.1 hmem
  exact (mem_of_mem_reduce hf hc).imp_right (mem_of_mem_lines (List.mem_of_mem_filter hr))

/-- The lines that are left are read back from the text they make up. -/
theorem lines_unlines_filter (hf : f.directives = false) (hreturn : '\r' ∉ ir) :
    lines (unlines (filter f ir)) = filter f ir := by
  refine lines_unlines (fun s hs => ⟨fun hc => ?_, fun hend => ?_⟩) fun hlast => ?_
  · rcases mem_of_mem_filter hf hs hc with h | h
    · cases h
    · exact h.2 rfl
  · rcases mem_of_mem_filter hf hs (List.mem_of_getLast? hend) with h | h
    · cases h
    · exact hreturn h.1
  · have hblank := getLast?_tidy _ _ _ hlast
    cases hblank

theorem not_mem_unlines_filter (hf : f.directives = false) (hc : c ∉ ir) (hspace : c ≠ ' ')
    (hnewline : c ≠ '\n') : c ∉ unlines (filter f ir) := by
  refine notMem_unlines (fun s hs hmem => ?_) hnewline
  exact (mem_of_mem_filter hf hs hmem).elim hspace fun h => hc h.1

theorem filter_filter (hf : f.directives = false) (hg : g.directives = false)
    (hreturn : '\r' ∉ ir) : filter g (unlines (filter f ir)) = filter (f.or g) ir := by
  rw [filter_eq, lines_unlines_filter hf hreturn, filter_eq, filter_eq,
    filterLines_filterLines hf hg]

theorem process_eq_ok {ir : String} (hnul : '\x00' ∉ ir.toList) (f : Filters) :
    process ir f = .ok ((filter f ir.toList).map fun s => { text := String.ofList s }) := by
  rw [process, if_neg hnul]

theorem toList_joinLines (ls : List (List Char)) :
    (joinLines (ls.map fun s => { text := String.ofList s })).toList = unlines ls := by
  simp [joinLines, Function.comp_def]

/-- Filters what an earlier pass left, its lines joined to one text. -/
def again (left : Except Failure (List Line)) (f : Filters) : Except Failure (List Line) := do
  process (joinLines (← left)) f

theorem again_ok (ls : List Line) (f : Filters) :
    again (.ok ls) f = process (joinLines ls) f := rfl

variable {text : String}

theorem again_process (hnul : '\x00' ∉ text.toList) (hreturn : '\r' ∉ text.toList)
    (hf : f.directives = false) (hg : g.directives = false) :
    again (process text f) g = process text (f.or g) := by
  have hjoined : '\x00' ∉ unlines (filter f text.toList) :=
    not_mem_unlines_filter hf hnul (by decide) (by decide)
  rw [← toList_joinLines] at hjoined
  rw [process_eq_ok hnul, again_ok, process_eq_ok hjoined, toList_joinLines,
    filter_filter hf hg hreturn, process_eq_ok hnul]

theorem foldl_again_process (hnul : '\x00' ∉ text.toList) (hreturn : '\r' ∉ text.toList)
    (hf : f.directives = false) {fs : List Filters} (hfs : ∀ g ∈ fs, g.directives = false) :
    fs.foldl again (process text f) = process text (fs.foldl Filters.or f) := by
  induction fs generalizing f with
  | nil => rfl
  | cons g fs ih =>
    obtain ⟨hg, hfs⟩ := List.forall_mem_cons.1 hfs
    rw [List.foldl_cons, List.foldl_cons, again_process hnul hreturn hf hg,
      ih (Filters.directives_or hf hg) hfs]

/--
Filtering the lines that filters left, joined to one text, is filtering once with both; so a
second pass with the same filters changes nothing, and of several passes the order is free.
-/
theorem process_composes (hnul : '\x00' ∉ text.toList) (hreturn : '\r' ∉ text.toList) :
    (∀ f g : Filters, f.directives = false → g.directives = false →
      ∃ once twice, process text f = .ok once ∧ process (joinLines once) g = .ok twice ∧
        process text (f.or g) = .ok twice) ∧
    (∀ f : Filters, f.directives = false →
      ∃ once, process text f = .ok once ∧ process (joinLines once) f = .ok once) ∧
    (∀ (f g : Filters) (fs gs : List Filters), (f :: fs).Perm (g :: gs) →
      (∀ h ∈ f :: fs, h.directives = false) →
      fs.foldl again (process text f) = gs.foldl again (process text g)) := by
  have htwice {f g : Filters} (hf : f.directives = false) (hg : g.directives = false) :
      ∃ once, process text f = .ok once ∧
        process (joinLines once) g = process text (f.or g) := by
    have hagain := again_process hnul hreturn hf hg
    rw [process_eq_ok hnul f, again_ok] at hagain
    exact ⟨_, process_eq_ok hnul f, hagain⟩
  refine ⟨fun f g hf hg => ?_, fun f hf => ?_, fun f g fs gs hperm hall => ?_⟩
  · obtain ⟨once, honce, heq⟩ := htwice hf hg
    obtain ⟨twice, htwice⟩ : ∃ twice, process text (f.or g) = .ok twice :=
      ⟨_, process_eq_ok hnul (f.or g)⟩
    exact ⟨once, twice, honce, heq.trans htwice, htwice⟩
  · obtain ⟨once, honce, heq⟩ := htwice hf hf
    refine ⟨once, honce, ?_⟩
    rw [heq, Filters.or_self, honce]
  · obtain ⟨hf, hfs⟩ := List.forall_mem_cons.1 hall
    obtain ⟨hg, hgs⟩ := List.forall_mem_cons.1 fun h hh => hall h (hperm.mem_iff.2 hh)
    rw [foldl_again_process hnul hreturn hf hfs, foldl_again_process hnul hreturn hg hgs,
      Filters.foldl_or f, Filters.foldl_or g, hperm.foldl_eq]

/-- A comment between blank lines, and lines with white space of several kinds. -/
def sampleDump : String := "\n; head\n\n\tret\u00A0 void  \n \n;;\n\t\n  #dbg_value\nend:\n\n"

theorem process_composes_sampleDump :
    '\x00' ∉ sampleDump.toList ∧ '\r' ∉ sampleDump.toList ∧
    again (process sampleDump { commentOnly := true }) { debugCalls := true } =
      .ok [{ text := "\tret\u00A0 void  " }, { text := " " }, { text := "end:" }] ∧
    [{ debugCalls := true }, { commentOnly := true }].foldl again
        (process sampleDump { trim := true }) =
      [{ trim := true }, { debugCalls := true }].foldl again
        (process sampleDump { commentOnly := true }) := by
  have hnul : '\x00' ∉ sampleDump.toList := by decide
  have hreturn : '\r' ∉ sampleDump.toList := by decide
  obtain ⟨hcompose, -, horder⟩ := process_composes hnul hreturn
  refine ⟨hnul, hreturn, ?_, horder _ _ _ _ (by decide) (by decide)⟩
  obtain ⟨once, twice, honce, htwice, heq⟩ :=
    hcompose { commentOnly := true } { debugCalls := true } rfl rfl
  rw [honce, again_ok, htwice, ← heq]
  rfl

end Ir

end SpirvToolchain
