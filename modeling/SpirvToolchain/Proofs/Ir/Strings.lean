import SpirvToolchain.Proofs.Ir.Gaps
import SpirvToolchain.Proofs.Ir.Hidden

/-!
String constants in a dump. No filter looks for quotes: what stands between them is reduced like the
rest of the line, and each constant on its own.
-/
namespace SpirvToolchain.Ir

open Text

variable {f : Filters} {s : List Char} {c : Char}

/-- The first element, the third, and so on. -/
def everyOther {α : Type} : List α → List α
  | [] => []
  | [a] => [a]
  | a :: _ :: l => a :: everyOther l

/-- What stands in a line between a quote and the one that closes it. -/
def strings (s : List Char) : List (List Char) := everyOther (gaps (· == '"') s)

theorem everyOther_map {α β : Type} (g : α → β) (l : List α) :
    everyOther (l.map g) = (everyOther l).map g := by
  fun_induction everyOther l with
  | case1 => rfl
  | case2 a => rfl
  | case3 a b l ih => rw [List.map_cons, List.map_cons, everyOther, ih, List.map_cons]

/-- What works on both sides of a character alone works on the pieces between such characters. -/
theorem splitOn_apply {g : List Char → List Char}
    (happend : ∀ a b, g (a ++ c :: b) = g a ++ c :: g b) (hmem : ∀ s, c ∉ s → c ∉ g s)
    (s : List Char) : (g s).splitOn c = (s.splitOn c).map g := by
  have hjoin : ∀ ps : List (List Char), ps ≠ [] →
      g ([c].intercalate ps) = [c].intercalate (ps.map g) := by
    intro ps hne
    induction ps with
    | nil => exact absurd rfl hne
    | cons p ps ih =>
      cases ps with
      | nil => rw [List.map_cons, List.map_nil, List.intercalate_singleton, List.intercalate_singleton]
      | cons q ps =>
        have hrest := ih (List.cons_ne_nil q ps)
        rw [List.map_cons] at hrest
        rw [List.map_cons, List.map_cons, List.intercalate_cons_cons, List.intercalate_cons_cons,
          List.append_assoc, List.singleton_append, happend, hrest, List.append_assoc,
          List.singleton_append]
  have hpieces : ∀ p ∈ (s.splitOn c).map g, c ∉ p := by
    intro p hp
    obtain ⟨q, hq, rfl⟩ := List.mem_map.1 hp
    refine hmem q fun h => ?_
    have hout := notMem_of_mem_splitOnP hq c h
    simp at hout
  have hne : s.splitOn c ≠ [] := List.splitOnP_ne_nil _ s
  calc (g s).splitOn c
      = (g ([c].intercalate (s.splitOn c))).splitOn c := by rw [List.intercalate_splitOn]
    _ = ([c].intercalate ((s.splitOn c).map g)).splitOn c := by rw [hjoin _ hne]
    _ = (s.splitOn c).map g := List.splitOn_intercalate c hpieces (by simp)

theorem strings_apply {g : List Char → List Char}
    (happend : ∀ a b, g (a ++ '"' :: b) = g a ++ '"' :: g b) (hmem : ∀ s, '"' ∉ s → '"' ∉ g s)
    (s : List Char) : strings (g s) = (strings s).map g := by
  have hsplit : (g s).splitOnP (· == '"') = (s.splitOnP (· == '"')).map g :=
    splitOn_apply happend hmem s
  rw [strings, strings, gaps, gaps, hsplit, ← List.map_tail, ← List.map_dropLast, everyOther_map]

theorem strings_detached (f : Filters) (s : List Char) :
    strings (detached f s) = (strings s).map (detached f) := by
  refine strings_apply (fun a b => ?_) (fun s hs => ?_) s
  · rw [detached, detached, detached]
    split
    · have hkeep : erase attachment ('"' :: b) = '"' :: erase attachment b :=
        replace_cons_of_no_match (attachment_cons (by decide) b)
      rw [erase_attachment_append_cons (by decide), hkeep]
    · rfl
  · rw [detached]
    split
    · exact fun h => hs (mem_of_mem_erase h)
    · exact hs

theorem strings_squash (s : List Char) : strings (squash s) = (strings s).map collapse := by
  have hblank {t : List Char} (ht : ∀ c ∈ t, isBlank c = true) : ∀ c ∈ t, (c == '"') = false := by
    intro c hc
    rw [beq_eq_false_iff_ne]
    rintro rfl
    exact absurd (ht '"' hc) (by decide)
  obtain ⟨lead, hsquash, hlead⟩ := exists_squash_eq s
  obtain ⟨lead', trail, hcollapse, hlead', htrail, -⟩ := exists_collapse_eq s
  have hinner : strings (squash s) = strings (collapse s) := by
    rw [strings, strings, hsquash, hcollapse, gaps_append_left (hblank hlead),
      gaps_append_left (hblank hlead'), gaps_append (hblank htrail)]
  rw [hinner]
  exact strings_apply (collapse_append_cons (by decide))
    (fun s hs h => hs ((mem_collapse_iff (by decide)).1 h)) s

/-- What is left of a line has the strings of the line, each reduced on its own. -/
theorem strings_reduce (f : Filters) (s : List Char) : strings (reduce f s) =
    (strings s).map fun c => if f.trim then collapse (detached f c) else detached f c := by
  rw [reduce_eq_ite]
  split
  · rw [strings_squash, strings_detached, List.map_map]
    rfl
  · exact strings_detached f s

theorem detached_eq_self (hs : f.directives = true → ¬ HoldsAttachment s) : detached f s = s := by
  rw [detached]
  split
  · next hf =>
    refine replace_eq_self fun v _ hv => ?_
    by_contra h
    exact hs hf ⟨v, hv, h⟩
  · rfl

/-- What filters leave of a string, unless what it says is taken for metadata. -/
def Recites (f : Filters) (c' c : List Char) : Prop :=
  (f.directives = true → ¬ HoldsAttachment c) → c' = if f.trim then collapse c else c

/--
Each line left of a dump has the string constants of the line it comes from, as many and in the
same order. Each has its content, with one space for each run of white space when trimming.
-/
theorem process_recites {text : String} {left : List Line} (h : process text f = .ok left) :
    ∃ origins : List (List Char), origins.Sublist ((lines text.toList).filter (keeps f)) ∧
      left = origins.map (fun s => { text := String.ofList (reduce f s) }) ∧
      ∀ s ∈ origins, List.Forall₂ (Recites f) (strings (reduce f s)) (strings s) := by
  obtain ⟨origins, hsublist, heq⟩ := exists_origins f text.toList
  refine ⟨origins, hsublist, ?_, fun s _ => ?_⟩
  · rw [process] at h
    split at h
    · cases h
    · rw [← Except.ok.inj h, heq, List.map_map]
      rfl
  · rw [strings_reduce, List.forall₂_map_left_iff, List.forall₂_same]
    intro c _ hc
    rw [detached_eq_self hc]

/-- Strings with two spaces in one and what reads like metadata in the other. -/
def quotedDump : String :=
  "@a = constant [5 x i8] c\"a  b\\00\"\n@b = constant [13 x i8] c\"a, !dbg !1 b\\00\"\n"

theorem process_alters_quotedDump :
    let f : Filters := { directives := true, trim := true }
    ∃ left, process quotedDump f = .ok left ∧ left ≠ [] ∧
      ∀ l ∈ left, ∀ s ∈ lines quotedDump.toList, strings l.text.toList ≠ strings s :=
  ⟨[{ text := "@a = constant [5 x i8] c\"a b\\00\"" },
    { text := "@b = constant [13 x i8] c\"a b\\00\"" }], by decide⟩

theorem process_recites_quotedDump :
    let f : Filters := { trim := true }
    let left : List Line := [{ text := "@a = constant [5 x i8] c\"a b\\00\"" },
      { text := "@b = constant [13 x i8] c\"a, !dbg !1 b\\00\"" }]
    process quotedDump f = .ok left ∧
    ∃ origins : List (List Char), left = origins.map (fun s => { text := String.ofList (reduce f s) }) ∧
      ∀ s ∈ origins, strings (reduce f s) = (strings s).map collapse := by
  intro f left
  have hleft : process quotedDump f = .ok left := by decide
  obtain ⟨origins, -, heq, hrecites⟩ := process_recites hleft
  refine ⟨hleft, origins, heq, fun s hs => ?_⟩
  have hsame : List.Forall₂ (· = ·) (strings (reduce f s)) ((strings s).map collapse) := by
    rw [List.forall₂_map_right_iff]
    exact (hrecites s hs).imp fun c' c hc => hc fun hf => absurd hf (by decide)
  exact List.forall₂_eq_eq_eq ▸ hsame

end SpirvToolchain.Ir
