import SpirvToolchain.Proofs.Ast.Address
import SpirvToolchain.Proofs.Ast.Declaration
import SpirvToolchain.Proofs.Text.Escapes

/-! The positions that a node shows, and the files that they name. -/
namespace SpirvToolchain.Ast

open Text

variable {s t : List Char}

/-- What is erased ends before a colon. -/
theorem plain_colon (s t : List Char) : plain (s ++ ':' :: t) = plain s ++ ':' :: plain t := by
  have hstrip : Ansi.strip (s ++ ':' :: t) = Ansi.strip s ++ ':' :: Ansi.strip t := by
    rw [Ansi.strip, erase, replace_append (Ansi.apart_sequence (by decide) s t)]
    exact congrArg _ (Ansi.strip_cons (by decide) t)
  have hcolon : erase address (':' :: Ansi.strip t) = ':' :: plain t :=
    replace_cons_of_no_match rfl
  rw [plain, hstrip, erase, replace_append (apart_address (by decide) (by decide) _ _)]
  exact congrArg _ hcolon

/-- A file as a dump names it: the source by its mark, any other by its path. -/
structure FileName where
  text : List Char
  noColon : ':' ∉ text := by decide
  /-- Nothing in it is erased as an escape or an address. -/
  inert : plain text = text := by decide
  /-- It does not read as a position of another kind. -/
  unlike : text ≠ "line".toList ∧ text ≠ "col".toList ∧
    ¬ "<invalid sloc>".toList <+: text ∧ ¬ "scratch space".toList <+: text := by decide
  /-- Only the source itself has the mark of the source. -/
  marked : sourceName <+: text → text = sourceName := by decide

/-- A position in the code, printed with no more than what is new since the position before. -/
inductive Position
  | invalid
  | column (c : Nat)
  | line (l c : Nat)
  | file (name : FileName) (l c : Nat)

namespace Position

def digits (n : Nat) : List Char := n.repr.toList

def text : Position → List Char
  | invalid => "<invalid sloc>".toList
  | column c => "col".toList ++ ':' :: digits c
  | line l c => "line".toList ++ ':' :: (digits l ++ ':' :: digits c)
  | file name l c => name.text ++ ':' :: (digits l ++ ':' :: digits c)

def file? : Position → Option (List Char)
  | file name .. => some name.text
  | _ => none

def location : Position → Location
  | invalid => .invalid
  | column _ => .sameFile
  | line .. => .sameFile
  | file name .. => .file name.text

variable (name : FileName) (l c : Nat)

theorem text_column : (column c).text = "col".toList ++ ':' :: digits c := rfl

theorem text_line : (line l c).text = "line".toList ++ ':' :: (digits l ++ ':' :: digits c) := rfl

theorem text_file :
    (file name l c).text = name.text ++ ':' :: (digits l ++ ':' :: digits c) := rfl

end Position

theorem takeWhile_colon (hs : ':' ∉ s) (t : List Char) :
    (s ++ ':' :: t).takeWhile (· ≠ ':') = s := by
  refine takeWhile_all_append (fun c hc => ?_) (stops_cons (by decide) t)
  have hne : c ≠ ':' := fun h => hs (h ▸ hc)
  simpa using hne

/-- What a file is called ends at the colon after it. -/
theorem FileName.eq_of_prefix (f : FileName) {mark : List Char} (hmark : ':' ∉ mark)
    (h : mark ++ [':'] <+: f.text ++ ':' :: t) : mark = f.text := by
  obtain ⟨rest, hrest⟩ := h
  rw [List.append_assoc, List.singleton_append] at hrest
  rw [← takeWhile_colon hmark rest, hrest, takeWhile_colon f.noColon t]

theorem FileName.ofRange_text (f : FileName) (t : List Char) :
    Location.ofRange (f.text ++ ':' :: t) = .file f.text := by
  obtain ⟨hline, hcolumn, hinvalid, hscratch⟩ := f.unlike
  by_cases hsource : sourceName <+: f.text
  · rw [ofRange_eq_source_iff.2 (hsource.trans (List.prefix_append _ _)), f.marked hsource]
  · have hother {mark : List Char} (hmark : ':' ∉ mark) (h : ¬ mark <+: f.text) :
        ¬ mark <+: f.text ++ ':' :: t :=
      mt (prefix_append_cons_iff hmark).1 h
    have hinvalid' := hother (by decide) hinvalid
    have hscratch' := hother (by decide) hscratch
    have hsource' := hother (by decide) hsource
    have hline' : ¬ "line:".toList <+: f.text ++ ':' :: t :=
      fun h => hline (f.eq_of_prefix (by decide) h).symm
    have hcolumn' : ¬ "col:".toList <+: f.text ++ ':' :: t :=
      fun h => hcolumn (f.eq_of_prefix (by decide) h).symm
    rw [← List.isPrefixOf_iff_prefix] at hinvalid' hscratch' hsource' hline' hcolumn'
    rw [Location.ofRange, if_neg (not_or.2 ⟨hinvalid', hscratch'⟩),
      if_neg (not_or.2 ⟨hline', hcolumn'⟩), if_neg hsource', takeWhile_colon f.noColon]

/-- A position at the start of a range is read as it is meant. -/
theorem Position.ofRange_text (p : Position) (t : List Char) :
    Location.ofRange (plain (p.text ++ t)) = p.location := by
  cases p with
  | invalid =>
    have hplain : plain (invalid.text ++ t) =
        "<invalid".toList ++ ' ' :: ("sloc>".toList ++ plain t) := by
      have hword := plain_append (s := "<invalid".toList) (by decide) (by decide)
        (' ' :: ("sloc>".toList ++ t))
      have hblank := plain_blank_cons (c := 's') (by decide) (by decide) ("loc>".toList ++ t)
      have hrest := plain_append (s := "sloc>".toList) (by decide) (by decide) t
      exact hword.trans (congrArg _ (hblank.trans (congrArg _ hrest)))
    have hstart : "<invalid sloc>".toList <+: plain (invalid.text ++ t) := ⟨_, hplain.symm⟩
    rw [← List.isPrefixOf_iff_prefix] at hstart
    rw [Location.ofRange, if_pos (.inl hstart)]
    rfl
  | column c =>
    rw [text_column, List.append_assoc, List.cons_append, plain_colon]
    exact ofRange_eq_sameFile_iff.2 (.inr ⟨_, rfl⟩)
  | line l c =>
    rw [text_line, List.append_assoc, List.cons_append, plain_colon]
    exact ofRange_eq_sameFile_iff.2 (.inl ⟨_, rfl⟩)
  | file name l c =>
    rw [text_file, List.append_assoc, List.cons_append, plain_colon, name.inert, name.ofRange_text]
    rfl

/-- The positions of a node: where its range starts and ends, and where its name stands. -/
structure Positions where
  start : Position
  stop : Option Position := none
  name : Option Position := none
  /-- What else the line says of the node. -/
  tail : List Char := []

namespace Positions

variable (ps : Positions)

/-- The positions as they are printed, after the mark that opens a range. -/
def text : List Char :=
  ps.start.text ++ (ps.stop.elim [] fun p => ", ".toList ++ p.text) ++
    '>' :: (ps.name.elim [] fun p => ' ' :: p.text) ++ ps.tail

/-- The files that the positions name, in the order of the line. -/
def files : List (List Char) :=
  ([some ps.start, ps.stop, ps.name].filterMap id).filterMap Position.file?

/-- A range is read by the position it starts with. -/
theorem ofRange_text : Location.ofRange (plain ps.text) = ps.start.location := by
  rw [text, List.append_assoc, List.append_assoc, Position.ofRange_text]

end Positions

end SpirvToolchain.Ast
