import SpirvToolchain.Proofs.Ir.Attachment
import SpirvToolchain.Proofs.Ir.LineEnds
import SpirvToolchain.Proofs.Ir.Lines

/-! Dumps with metadata and without: hiding directives leaves what a dump without them leaves. -/
namespace SpirvToolchain.Ir

open Text

/-- A line that is no directive and has no metadata attached to it. -/
structure BareLine where
  text : List Char
  oneLine : '\n' ∉ text ∧ '\r' ∉ text
  noNul : '\x00' ∉ text
  notDirective : isDirective text = false
  unattached : ∀ before blanks after, text = before ++ ',' :: (blanks ++ '!' :: after) →
    ∃ c ∈ blanks, isBlank c = false

/-- Metadata as the compiler attaches it: `, !name !N`. -/
structure Attachment where
  name : List Char
  digits : List Char
  name_run : Run isNameChar name := by decide
  digits_run : Run isDigit digits := by decide

def Attachment.text (a : Attachment) : List Char :=
  ", !".toList ++ a.name ++ " !".toList ++ a.digits

/-- A line that defines metadata or starts a group of attributes. -/
structure DirectiveLine where
  text : List Char
  oneLine : '\n' ∉ text := by decide
  noNul : '\x00' ∉ text := by decide
  directive : isDirective text = true := by decide

/-- A line of a dump, told apart by whether a dump without metadata has it. -/
inductive Piece
  | line (s : BareLine) (attached : List Attachment)
  | directive (d : DirectiveLine)

def Piece.text : Piece → List Char
  | .line s attached => s.text ++ attached.flatMap Attachment.text
  | .directive d => d.text

def Piece.bare? : Piece → Option (List Char)
  | .line s _ => some s.text
  | .directive _ => none

/-- A dump with all its metadata. -/
def decorated (ps : List Piece) : String := String.ofList (unlines (ps.map Piece.text))

/-- The dump without it. -/
def bare (ps : List Piece) : String := String.ofList (unlines (ps.filterMap Piece.bare?))

namespace Attachment

theorem isAttachment (a : Attachment) : IsAttachment a.text := by
  refine ⟨[' '], a.name, a.digits, ?_, ?_, a.name_run, a.digits_run⟩
  · simp [text]
  · simp [isBlank_space]

theorem head?_flatMap (as : List Attachment) :
    ∀ c ∈ (as.flatMap text).head?, c = ',' := by
  intro c hc
  cases as with
  | nil => simp at hc
  | cons a as => simpa [text] using hc.symm

theorem mem_text {a : Attachment} {c : Char} (hc : c ∈ a.text) :
    isNameChar c = true ∨ isDigit c = true ∨ c ∈ [',', ' ', '!'] := by
  simp only [text, List.mem_append] at hc
  rcases hc with ((hc | hc) | hc) | hc
  · exact .inr (.inr (by simpa [or_comm] using hc))
  · exact .inl (a.name_run.2 c hc)
  · exact .inr (.inr (List.mem_cons_of_mem _ hc))
  · exact .inr (.inl (a.digits_run.2 c hc))

theorem notMem_flatMap {c : Char} (hname : isNameChar c = false) (hdigit : isDigit c = false)
    (hmark : c ∉ [',', ' ', '!']) (as : List Attachment) : c ∉ as.flatMap text := by
  intro hc
  obtain ⟨a, -, hc⟩ := List.mem_flatMap.1 hc
  rcases mem_text hc with h | h | h
  · simp [hname] at h
  · simp [hdigit] at h
  · exact hmark h

theorem erase_flatMap (as : List Attachment) : erase attachment (as.flatMap text) = [] := by
  induction as with
  | nil => rfl
  | cons a as ih =>
    have hstops : Stops isDigit (as.flatMap text) := by
      intro c hc
      rw [head?_flatMap as c hc]
      decide
    have hne : a.text ≠ [] := by simp [text]
    have hmatch := attachment_append a.isAttachment hstops
    rw [List.flatMap_cons, erase, replace_match_append hne hmatch, List.nil_append]
    exact ih

theorem mute_flatMap (as : List Attachment) : Mute (as.flatMap text) where
  head := by
    intro c hc
    rw [head?_flatMap as c hc]
    decide
  first := by
    intro c hc
    cases as with
    | nil => simp [trimStart] at hc
    | cons a as =>
      have hcomma : c = ',' := by
        simpa [text, trimStart, show isBlank ',' = false by decide] using hc.symm
      rw [hcomma]
      decide
  noCall := notMem_flatMap (by decide) (by decide) (by decide) as

end Attachment

namespace BareLine

variable (s : BareLine) (as : List Attachment)

/-- No attachment starts in the line itself, not even where one follows its last comma. -/
theorem attachment_append_flatMap {v : List Char} (hv : v <:+ s.text) (hne : v ≠ []) :
    attachment (v ++ as.flatMap Attachment.text) = 0 := by
  by_contra h
  obtain ⟨m, t, ⟨blanks, name, digits, rfl, hblanks, -, -⟩, -, heq⟩ := isAttachment_of_attachment h
  obtain ⟨c, v, rfl⟩ := List.exists_cons_of_ne_nil hne
  obtain ⟨before, hbefore⟩ := hv
  simp only [List.cons_append, List.append_assoc, List.cons.injEq] at heq
  obtain ⟨rfl, heq⟩ := heq
  rcases List.append_eq_append_iff.1 heq with ⟨b, rfl, hb⟩ | ⟨b, rfl, hb⟩
  · -- The white space goes on into the attachments, which start with a comma.
    cases b with
    | nil =>
      have hmark := Attachment.head?_flatMap as '!' (by rw [hb]; rfl)
      exact absurd hmark (by decide)
    | cons d b =>
      have hcomma := Attachment.head?_flatMap as d (by rw [hb]; rfl)
      have hblank := hblanks d (by simp)
      rw [hcomma] at hblank
      exact absurd hblank (by decide)
  · cases b with
    | nil =>
      rw [List.nil_append] at hb
      have hmark := Attachment.head?_flatMap as '!' (by rw [← hb]; rfl)
      exact absurd hmark (by decide)
    | cons d b =>
      simp only [List.cons_append, List.cons.injEq] at hb
      obtain ⟨c, hc, hblank⟩ := s.unattached before blanks b (by rw [← hbefore, hb.1])
      rw [hblanks c hc] at hblank
      exact absurd hblank (by decide)

theorem erase_append :
    erase attachment (s.text ++ as.flatMap Attachment.text) = s.text := by
  have happend : erase attachment (s.text ++ as.flatMap Attachment.text) =
      s.text ++ erase attachment (as.flatMap Attachment.text) :=
    replace_append_of_no_match fun v hne hv => s.attachment_append_flatMap as hv hne
  rw [happend, Attachment.erase_flatMap, List.append_nil]

theorem left?_append (f : Filters) :
    left? { f with directives := true } (s.text ++ as.flatMap Attachment.text) =
      left? { f with directives := false } s.text := by
  have hkeeps : keeps { f with directives := true } (s.text ++ as.flatMap Attachment.text) =
      keeps { f with directives := false } s.text := by
    rw [keeps_append (Attachment.mute_flatMap as)]
    simp [keeps, s.notDirective]
  have hreduce : reduce { f with directives := true } (s.text ++ as.flatMap Attachment.text) =
      reduce { f with directives := false } s.text := by
    simp only [reduce, if_true, s.erase_append as]
    rfl
  rw [left?, left?, hkeeps, hreduce]

end BareLine

namespace DirectiveLine

theorem left?_eq_none {s : List Char} (h : isDirective s = true) (f : Filters) :
    left? { f with directives := true } s = none := by
  simp [left?, keeps, h]

theorem isDirective_dropReturn (s : List Char) : isDirective (dropReturn s) = isDirective s := by
  rcases dropReturn_cases s with h | h
  · rw [h]
  · have hmute : Mute ['\r'] := .of_returns (by simp)
    rw [← isDirective_append hmute, ← h]

end DirectiveLine

namespace Piece

variable (ps : List Piece) (f : Filters)

/-- Each piece leaves what its bare line leaves, or nothing where it has none. -/
theorem left?_text (p : Piece) : left? { f with directives := true } p.text =
    p.bare?.bind (left? { f with directives := false }) := by
  cases p with
  | line s as => exact s.left?_append as f
  | directive d => exact DirectiveLine.left?_eq_none d.directive f

theorem filterLines_text :
    filterLines { f with directives := true } (ps.map text) =
      filterLines { f with directives := false } (ps.filterMap bare?) := by
  have hleft : (ps.map text).filterMap (left? { f with directives := true }) =
      (ps.filterMap bare?).filterMap (left? { f with directives := false }) := by
    rw [List.filterMap_map, List.filterMap_filterMap]
    exact List.filterMap_congr fun p _ => left?_text f p
  rw [filterLines_eq_tidy, filterLines_eq_tidy, hleft]

theorem newline_notMem_text (p : Piece) : '\n' ∉ p.text := by
  cases p with
  | line s as =>
    have has := Attachment.notMem_flatMap (c := '\n') (by decide) (by decide) (by decide) as
    exact List.not_mem_append s.oneLine.1 has
  | directive d => exact d.oneLine

theorem nul_notMem_text (p : Piece) : '\x00' ∉ p.text := by
  cases p with
  | line s as =>
    have has := Attachment.notMem_flatMap (c := '\x00') (by decide) (by decide) (by decide) as
    exact List.not_mem_append s.noNul has
  | directive d => exact d.noNul

theorem left?_dropReturn_text (p : Piece) :
    left? { f with directives := true } (dropReturn p.text) =
      left? { f with directives := true } p.text := by
  cases p with
  | line s as =>
    have has := Attachment.notMem_flatMap (c := '\r') (by decide) (by decide) (by decide) as
    have hreturn : '\r' ∉ text (.line s as) := List.not_mem_append s.oneLine.2 has
    rw [dropReturn_eq_self fun h => hreturn (List.mem_of_getLast? h)]
  | directive d =>
    have hdrop : isDirective (dropReturn d.text) = true := by
      rw [DirectiveLine.isDirective_dropReturn, d.directive]
    exact (DirectiveLine.left?_eq_none hdrop f).trans (DirectiveLine.left?_eq_none d.directive f).symm

theorem exists_bareLine {l : List Char} (hl : l ∈ ps.filterMap bare?) : ∃ s : BareLine, s.text = l := by
  obtain ⟨p, -, hp⟩ := List.mem_filterMap.1 hl
  cases p with
  | line s as => exact ⟨s, Option.some.inj hp⟩
  | directive d => cases hp

theorem filter_decorated :
    filter { f with directives := true } (unlines (ps.map text)) =
      filter { f with directives := false } (unlines (ps.filterMap bare?)) := by
  have hdecorated : ∀ l ∈ ps.map text, '\n' ∉ l ∧
      left? { f with directives := true } (dropReturn l) =
        left? { f with directives := true } l := by
    intro l hl
    obtain ⟨p, -, rfl⟩ := List.mem_map.1 hl
    exact ⟨p.newline_notMem_text, left?_dropReturn_text f p⟩
  have hbare : ∀ l ∈ ps.filterMap bare?, '\n' ∉ l ∧
      left? { f with directives := false } (dropReturn l) =
        left? { f with directives := false } l := by
    intro l hl
    obtain ⟨s, rfl⟩ := exists_bareLine ps hl
    have hreturn := dropReturn_eq_self fun h => s.oneLine.2 (List.mem_of_getLast? h)
    exact ⟨s.oneLine.1, by rw [hreturn]⟩
  rw [filter_unlines hdecorated, filter_unlines hbare, filterLines_text]

end Piece

/--
With directives hidden, a dump with metadata attached and defined anywhere leaves the lines that
the dump without it leaves, whatever else is hidden.
-/
theorem process_decorated (ps : List Piece) (f : Filters) :
    ∃ left, process (decorated ps) { f with directives := true } = .ok left ∧
      process (bare ps) { f with directives := false } = .ok left := by
  have hdecorated : '\x00' ∉ (decorated ps).toList := by
    rw [decorated, String.toList_ofList]
    refine notMem_unlines (fun l hl => ?_) (by decide)
    obtain ⟨p, -, rfl⟩ := List.mem_map.1 hl
    exact p.nul_notMem_text
  have hbare : '\x00' ∉ (bare ps).toList := by
    rw [bare, String.toList_ofList]
    refine notMem_unlines (fun l hl => ?_) (by decide)
    obtain ⟨s, rfl⟩ := Piece.exists_bareLine ps hl
    exact s.noNul
  refine ⟨_, process_eq_ok hdecorated _, ?_⟩
  rw [process_eq_ok hbare, decorated, bare, String.toList_ofList, String.toList_ofList,
    Piece.filter_decorated ps f]

/-- A line in which nothing is attached, for it has no comma or no mark. -/
def BareLine.ofText (text : List Char) (hline : '\n' ∉ text ∧ '\r' ∉ text := by decide)
    (hnul : '\x00' ∉ text := by decide) (hdirective : isDirective text = false := by decide)
    (hmarks : ',' ∉ text ∨ '!' ∉ text := by decide) : BareLine where
  text := text
  oneLine := hline
  noNul := hnul
  notDirective := hdirective
  unattached := by
    rintro before blanks after rfl
    simp at hmarks

/-- Metadata on a line that ends in a comma, on a blank one, twice on one, and all around them. -/
def sampleDecorated : List Piece :=
  let dbg : Attachment := { name := "dbg".toList, digits := "17".toList }
  let note : Attachment := { name := "note.x".toList, digits := "٣".toList }
  [.directive { text := "attributes #0 = \x7b\x7d".toList },
    .line (.ofText "define i32 @f() !dbg !4 \x7b".toList) [],
    .line (.ofText []) [dbg],
    .directive { text := " !0 = !\x7b\x7d\r".toList },
    .line (.ofText "\t%a = add i32 1,".toList) [dbg, note],
    .line (.ofText "\x7d".toList) []]

theorem process_decorated_sample :
    decorated sampleDecorated = "attributes #0 = \x7b\x7d\ndefine i32 @f() !dbg !4 \x7b\n, !dbg !17\n" ++
      " !0 = !\x7b\x7d\r\n\t%a = add i32 1,, !dbg !17, !note.x !٣\n\x7d" ∧
    process (decorated sampleDecorated) { directives := true } =
      .ok [{ text := "define i32 @f() !dbg !4 \x7b" }, { text := "" }, { text := "\t%a = add i32 1," },
        { text := "\x7d" }] := by
  obtain ⟨left, hdecorated, hbare⟩ := process_decorated sampleDecorated {}
  refine ⟨by decide, ?_⟩
  rw [hdecorated, ← hbare]
  decide

end SpirvToolchain.Ir
