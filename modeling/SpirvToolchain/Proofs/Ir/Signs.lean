import Mathlib.Tactic.IntervalCases
import SpirvToolchain.Proofs.Ir.Collapse
import SpirvToolchain.Proofs.Ir.Erasure
import SpirvToolchain.Proofs.Ir.LineEnds

/-! The signs by which filters tell a line, and what trimming makes of them. -/
namespace SpirvToolchain.Text

variable {c : Char}

theorem CodePoints.has_eq_false {a b : CodePoints}
    (h : (a.all fun r => b.all fun t => r.2 < t.1 || t.2 < r.1) = true) (hc : a.has c = true) :
    b.has c = false := by
  obtain ⟨r, hr, hlow, hhigh⟩ := CodePoints.has_iff.1 hc
  rw [← Bool.not_eq_true, CodePoints.has_iff]
  rintro ⟨t, ht, hlow', hhigh'⟩
  have hapart := List.all_eq_true.1 (List.all_eq_true.1 h r hr) t ht
  simp only [Bool.or_eq_true, decide_eq_true_eq] at hapart
  omega

/-- White space in ASCII. -/
def asciiBlanks : List Char := [' ', '\t', '\n', '\x0b', '\x0c', '\r']

theorem blank_cases (hc : isBlank c = true) :
    c ∈ asciiBlanks ∨ ¬ c.toNat < 128 ∧ wideBlanks.has c = true := by
  unfold isBlank at hc
  split at hc
  · left
    simp only [Bool.or_eq_true, beq_iff_eq, Bool.and_eq_true, decide_eq_true_eq] at hc
    rcases hc with rfl | ⟨hlow, hhigh⟩
    · exact List.mem_cons_self
    · rw [← Char.ofNat_toNat c]
      generalize c.toNat = n at hlow hhigh
      interval_cases n <;> decide
  · next hwide => exact .inr ⟨hwide, hc⟩

/-- White space is no part of a name. -/
theorem isWord_of_isBlank (hc : isBlank c = true) : isWord c = false := by
  rcases blank_cases hc with hmem | ⟨hwide, hhas⟩
  · have hascii : asciiBlanks.all (!isWord ·) = true := by decide
    simpa using List.all_eq_true.1 hascii c hmem
  · rw [isWord, if_neg hwide]
    exact CodePoints.has_eq_false (by decide +kernel) hhas

/-- Nor is it part of a number. -/
theorem isDigit_of_isBlank (hc : isBlank c = true) : isDigit c = false := by
  rcases blank_cases hc with hmem | ⟨hwide, hhas⟩
  · have hascii : asciiBlanks.all (!isDigit ·) = true := by decide
    simpa using List.all_eq_true.1 hascii c hmem
  · rw [isDigit, if_neg hwide]
    exact CodePoints.has_eq_false (by decide +kernel) hhas

end SpirvToolchain.Text

namespace SpirvToolchain.Ir

open Text

variable {g m s t x y : List Char} {c : Char} {trim : Bool}

theorem isBlank_of_isDefinedNameChar (hc : isDefinedNameChar c = true) : isBlank c = false := by
  rw [← Bool.not_eq_true]
  intro hblank
  simp only [isDefinedNameChar, isNameChar, isWord_of_isBlank hblank, Bool.false_or,
    Bool.or_eq_true, beq_iff_eq] at hc
  rcases hc with rfl | rfl <;> exact absurd hblank (by decide)

theorem isBlank_of_isNameChar (hc : isNameChar c = true) : isBlank c = false :=
  isBlank_of_isDefinedNameChar (by simp [isDefinedNameChar, hc])

theorem isBlank_of_isDigit (hc : isDigit c = true) : isBlank c = false := by
  rw [← Bool.not_eq_true]
  intro hblank
  simp [isDigit_of_isBlank hblank] at hc

/-- The start of a group of attributes: `attributes` and `#N`, of which one digit is looked at. -/
def IsGroup (trim : Bool) (x : List Char) : Prop :=
  ∃ gap d, x = "attributes".toList ++ (gap ++ ['#', d]) ∧ Gap trim gap ∧ isDigit d = true

/-- The start of a definition of metadata: `!name`, white space or none, and `=`. -/
def IsDefinition (x : List Char) : Prop :=
  ∃ name blanks, x = '!' :: (name ++ (blanks ++ ['='])) ∧ Run isDefinedNameChar name ∧
    ∀ c ∈ blanks, isBlank c = true

/-- `x` with white space or none before it. -/
def Led (x p : List Char) : Prop := ∃ blanks, p = blanks ++ x ∧ ∀ c ∈ blanks, isBlank c = true

/-- Somewhere in the line metadata is attached. -/
def HoldsAttachment (s : List Char) : Prop := ∃ v, v <:+ s ∧ attachment v ≠ 0

theorem gap_collapse : Gap false (collapse g) ↔ Gap true g := collapse_eq_space_iff

theorem holdsAttachment_iff : HoldsAttachment s ↔ ∃ m, IsAttached false m ∧ m <:+: s := by
  constructor
  · rintro ⟨v, hv, h⟩
    obtain ⟨m, t, hm, -, rfl⟩ := isAttachment_of_attachment h
    exact ⟨m, isAttached_false_iff.2 hm, (List.prefix_append m t).isInfix.trans hv.isInfix⟩
  · rintro ⟨m, hm, a, b, rfl⟩
    have hm := isAttached_false_iff.1 hm
    refine ⟨m ++ b, ⟨a, (List.append_assoc a m b).symm⟩, ?_⟩
    rw [attachment_append_eq hm]
    obtain ⟨m', rfl, -⟩ := hm.exists_cons
    simp

theorem exists_led_iff (hx : Edged x) : (∃ p, Led x p ∧ p <+: s) ↔ x <+: trimStart s := by
  constructor
  · rintro ⟨p, ⟨blanks, rfl, hblanks⟩, t, rfl⟩
    obtain ⟨c, x, rfl, hc⟩ := hx.head
    rw [List.append_assoc, List.cons_append, trimStart,
      dropWhile_all_append hblanks (stops_cons hc (x ++ t))]
    exact List.prefix_append (c :: x) t
  · rintro ⟨t, ht⟩
    refine ⟨s.takeWhile isBlank ++ x, ⟨_, rfl, fun _ => List.mem_takeWhile_imp⟩, t, ?_⟩
    rw [List.append_assoc, ht, trimStart, List.takeWhile_append_dropWhile]

theorem IsDefinition.edged (hx : IsDefinition x) : Edged x := by
  obtain ⟨name, blanks, rfl, -, -⟩ := hx
  exact ⟨⟨'!', _, rfl, by decide⟩, ⟨'!' :: (name ++ blanks), '=', by simp, by decide⟩⟩

theorem isMetadataDefinition_iff :
    isMetadataDefinition s = true ↔ ∃ x, IsDefinition x ∧ x <+: trimStart s := by
  unfold isMetadataDefinition
  constructor
  · intro h
    split at h
    · next c rest heq =>
      rw [Bool.and_eq_true, beq_iff_eq, List.head?_eq_some_iff] at h
      obtain ⟨hc, t, ht⟩ := h
      refine ⟨'!' :: (c :: rest.takeWhile isDefinedNameChar ++
          ((rest.dropWhile isDefinedNameChar).takeWhile isBlank ++ ['='])), ⟨_, _, rfl, ?_, ?_⟩, t, ?_⟩
      · exact ⟨List.cons_ne_nil c _, List.forall_mem_cons.2 ⟨hc, fun _ => List.mem_takeWhile_imp⟩⟩
      · exact fun _ => List.mem_takeWhile_imp
      · have hrest : (rest.dropWhile isDefinedNameChar).takeWhile isBlank ++ '=' :: t =
            rest.dropWhile isDefinedNameChar := by
          rw [← ht, trimStart, List.takeWhile_append_dropWhile]
        simp [heq, hrest, List.takeWhile_append_dropWhile]
    · contradiction
  · rintro ⟨_, ⟨name, blanks, rfl, hname, hblanks⟩, t, ht⟩
    obtain ⟨c, name, rfl⟩ := List.exists_cons_of_ne_nil hname.1
    obtain ⟨hc, hname⟩ := List.forall_mem_cons.1 hname.2
    have hequals : Stops isBlank ('=' :: t) := stops_cons (by decide) t
    have hstops : Stops isDefinedNameChar (blanks ++ '=' :: t) := by
      cases blanks with
      | nil => exact stops_cons (by decide) t
      | cons d blanks =>
        refine stops_cons (Bool.eq_false_iff.2 fun hd => ?_) _
        simp [isBlank_of_isDefinedNameChar hd] at hblanks
    rw [← ht]
    simp [hc, dropWhile_all_append hname hstops, trimStart, dropWhile_all_append hblanks hequals]

theorem isAttributeGroup_iff_isGroup :
    isAttributeGroup s = true ↔ ∃ x, IsGroup false x ∧ x <+: s := by
  rw [isAttributeGroup_iff]
  constructor
  · rintro ⟨rest, rfl, hrest⟩
    cases rest with
    | nil => simp at hrest
    | cons d rest =>
      refine ⟨_, ⟨[' '], d, rfl, rfl, by simpa using hrest⟩, rest, ?_⟩
      simp
  · rintro ⟨_, ⟨gap, d, rfl, rfl, hd⟩, t, rfl⟩
    exact ⟨d :: t, by simp, by simpa using hd⟩

theorem isComment_iff : isComment s = true ↔ [';'] <+: trimStart s := by
  rw [isComment, beq_iff_eq, List.head?_eq_some_iff]
  exact exists_congr fun t => eq_comm

theorem isDebugCall_iff : isDebugCall s = true ↔
    "@llvm.dbg.".toList <:+: s ∨ "#dbg_".toList <+: trimStart s := by
  have hcall : occursIn "@llvm.dbg.".toList (trimStart s) = occursIn "@llvm.dbg.".toList s := by
    rw [occursIn_eq_any_words (by decide), words_trimStart, ← occursIn_eq_any_words (by decide)]
  rw [isDebugCall, hcall, Bool.or_eq_true, occursIn_iff, List.isPrefixOf_iff_prefix]

theorem isComment_squash (s : List Char) : isComment (squash s) = isComment s := by
  rw [isComment_eq, isComment_eq, words_squash]

theorem isDebugCall_squash (s : List Char) : isDebugCall (squash s) = isDebugCall s := by
  rw [isDebugCall_eq, isDebugCall_eq, words_squash]

theorem trimStart_squash (s : List Char) : trimStart (squash s) = squash (trimStart s) := by
  obtain ⟨lead, hsquash, hlead⟩ := exists_squash_eq s
  have hspaced : Stops isBlank (spaced (words s)) := by
    intro c hc
    have hhead := head?_spaced s
    rwa [Option.mem_def.1 hc] at hhead
  have hstart : (trimStart s).head?.any isBlank = false := by
    cases hs : trimStart s with
    | nil => rfl
    | cons c t => exact stops_dropWhile isBlank s c (by rw [← trimStart, hs]; rfl)
  rw [squash_eq_spaced hstart, words_trimStart, hsquash, trimStart,
    dropWhile_all_append hlead hspaced]

/-- What is found in a squashed line has white space for its spaces in the line itself. -/
theorem exists_squash_iff {P Q : List Char → Prop} {R : List Char → List Char → Prop}
    (hR : ∀ {x}, Edged x → (R x (squash s) ↔ ∃ y, collapse y = x ∧ R y s))
    (hedged : ∀ x, P x → Edged x) (hP : ∀ y, P (collapse y) ↔ Q y) :
    (∃ x, P x ∧ R x (squash s)) ↔ ∃ y, Q y ∧ R y s := by
  constructor
  · rintro ⟨x, hx, h⟩
    obtain ⟨y, rfl, hy⟩ := (hR (hedged x hx)).1 h
    exact ⟨y, (hP y).1 hx, hy⟩
  · rintro ⟨y, hy, h⟩
    have hx := (hP y).2 hy
    exact ⟨collapse y, hx, (hR (hedged _ hx)).2 ⟨y, rfl, h⟩⟩

theorem exists_of_collapse_append_inked (h : collapse s = x ++ t)
    (hx : ∀ c ∈ x, isBlank c = false) : ∃ r, s = x ++ r ∧ collapse r = t := by
  obtain ⟨u, r, rfl, hu, hr⟩ := exists_of_collapse_append h
  exact ⟨r, by rw [eq_of_collapse_eq hu hx], hr⟩

theorem isDefinition_collapse (y : List Char) : IsDefinition (collapse y) ↔ IsDefinition y := by
  constructor
  · rintro ⟨name, blanks, heq, hname, hblanks⟩
    have hinked : ∀ c ∈ '!' :: name, isBlank c = false :=
      List.forall_mem_cons.2 ⟨by decide, fun c hc => isBlank_of_isDefinedNameChar (hname.2 c hc)⟩
    obtain ⟨r, rfl, hr⟩ := exists_of_collapse_append_inked (x := '!' :: name) (by rw [heq]; rfl) hinked
    obtain ⟨u, r, rfl, rfl, hequals⟩ := exists_of_collapse_append hr
    obtain rfl := eq_of_collapse_eq hequals (List.forall_mem_singleton.2 (by decide))
    exact ⟨name, u, rfl, hname, forall_blank_collapse_iff.1 hblanks⟩
  · rintro ⟨name, blanks, rfl, hname, hblanks⟩
    refine ⟨name, collapse blanks, ?_, hname, forall_blank_collapse_iff.2 hblanks⟩
    rw [collapse_cons_of_inked (by decide),
      collapse_append_of_inked fun c hc => isBlank_of_isDefinedNameChar (hname.2 c hc),
      collapse_append_cons (by decide)]
    rfl

theorem isGroup_collapse (y : List Char) : IsGroup false (collapse y) ↔ IsGroup true y := by
  have hinked := (show IsWord "attributes".toList by decide).2
  constructor
  · rintro ⟨gap, d, heq, hgap, hd⟩
    have hnumber : ∀ c ∈ ['#', d], isBlank c = false := by
      simpa [isBlank_of_isDigit hd] using (by decide : isBlank '#' = false)
    obtain ⟨r, rfl, hr⟩ := exists_of_collapse_append_inked heq hinked
    obtain ⟨gap, r, rfl, rfl, htail⟩ := exists_of_collapse_append hr
    obtain rfl := eq_of_collapse_eq htail hnumber
    exact ⟨gap, d, rfl, gap_collapse.1 hgap, hd⟩
  · rintro ⟨gap, d, rfl, hgap, hd⟩
    refine ⟨collapse gap, d, ?_, gap_collapse.2 hgap, hd⟩
    rw [collapse_append_of_inked hinked, collapse_append_cons (by decide),
      collapse_cons_of_inked (isBlank_of_isDigit hd)]
    rfl

theorem isAttached_collapse (y : List Char) : IsAttached false (collapse y) ↔ IsAttached true y := by
  constructor
  · rintro ⟨blanks, name, gap, digits, heq, hblanks, hname, hgap, hdigits⟩
    have hnames : ∀ c ∈ '!' :: name, isBlank c = false :=
      List.forall_mem_cons.2 ⟨by decide, fun c hc => isBlank_of_isNameChar (hname.2 c hc)⟩
    have hnumber : ∀ c ∈ '!' :: digits, isBlank c = false :=
      List.forall_mem_cons.2 ⟨by decide, fun c hc => isBlank_of_isDigit (hdigits.2 c hc)⟩
    obtain ⟨r, rfl, hr⟩ :=
      exists_of_collapse_append_inked (x := [',']) heq (List.forall_mem_singleton.2 (by decide))
    obtain ⟨blanks, r, rfl, rfl, hmark⟩ := exists_of_collapse_append hr
    obtain ⟨r, rfl, hpair⟩ := exists_of_collapse_append_inked (x := '!' :: name) hmark hnames
    obtain ⟨gap, r, rfl, rfl, htail⟩ := exists_of_collapse_append hpair
    obtain rfl := eq_of_collapse_eq htail hnumber
    exact ⟨blanks, name, gap, digits, rfl, forall_blank_collapse_iff.1 hblanks, hname,
      gap_collapse.1 hgap, hdigits⟩
  · rintro ⟨blanks, name, gap, digits, rfl, hblanks, hname, hgap, hdigits⟩
    refine ⟨collapse blanks, name, collapse gap, digits, ?_, forall_blank_collapse_iff.2 hblanks,
      hname, gap_collapse.2 hgap, hdigits⟩
    rw [collapse_cons_of_inked (by decide), collapse_append_cons (by decide),
      collapse_append_of_inked fun c hc => isBlank_of_isNameChar (hname.2 c hc),
      collapse_append_cons (by decide),
      collapse_of_inked fun c hc => isBlank_of_isDigit (hdigits.2 c hc)]

theorem IsAttached.edged (hm : IsAttached trim m) : Edged m := by
  obtain ⟨blanks, name, gap, digits, rfl, -, -, -, hdigits⟩ := hm
  obtain ⟨ds, d, rfl⟩ := (List.eq_nil_or_concat digits).resolve_left hdigits.1
  refine ⟨⟨',', _, rfl, by decide⟩,
    ⟨',' :: (blanks ++ '!' :: (name ++ (gap ++ '!' :: ds))), d, by simp, ?_⟩⟩
  exact isBlank_of_isDigit (hdigits.2 d (by simp))

theorem IsGroup.edged (hx : IsGroup trim x) : Edged x := by
  obtain ⟨gap, d, rfl, -, hd⟩ := hx
  exact ⟨⟨'a', _, rfl, by decide⟩,
    ⟨"attributes".toList ++ (gap ++ ['#']), d, by simp, isBlank_of_isDigit hd⟩⟩

theorem isMetadataDefinition_squash (s : List Char) :
    isMetadataDefinition (squash s) = isMetadataDefinition s := by
  rw [Bool.eq_iff_iff, isMetadataDefinition_iff, isMetadataDefinition_iff, trimStart_squash]
  exact exists_squash_iff prefix_squash_iff (fun _ hx => hx.edged) isDefinition_collapse

theorem isAttributeGroup_squash :
    isAttributeGroup (squash s) = true ↔ ∃ x, IsGroup true x ∧ x <+: s := by
  rw [isAttributeGroup_iff_isGroup]
  exact exists_squash_iff prefix_squash_iff (fun _ hx => hx.edged) isGroup_collapse

theorem holdsAttachment_squash :
    HoldsAttachment (squash s) ↔ ∃ m, IsAttached true m ∧ m <:+: s := by
  rw [holdsAttachment_iff]
  exact exists_squash_iff infix_squash_iff (fun _ hm => hm.edged) isAttached_collapse

end SpirvToolchain.Ir
