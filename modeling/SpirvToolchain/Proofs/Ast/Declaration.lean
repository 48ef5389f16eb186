import SpirvToolchain.Proofs.Ast.Block
import SpirvToolchain.Proofs.Text.Runs

/-! Declarations as the compiler prints them, some with what they belong to or repeat. -/
namespace SpirvToolchain.Ast

open Text

variable {s t : List Char}

/-- A node's address, with its digits. -/
structure Address where
  digits : List Char
  run : Run address.isHexDigit digits := by decide

def Address.text (a : Address) : List Char := ' ' :: '0' :: 'x' :: a.digits

inductive Relation
  | parent
  | prev

def Relation.word : Relation → List Char
  | parent => " parent".toList
  | prev => " prev".toList

theorem Relation.exists_cons (r : Relation) : ∃ w, r.word = ' ' :: 'p' :: w := by
  cases r with
  | parent => exact ⟨"arent".toList, rfl⟩
  | prev => exact ⟨"rev".toList, rfl⟩

/-- Another node that a declaration names before its range. -/
structure Mention where
  relation : Relation
  address : Address

def Mention.text (a : Mention) : List Char := a.relation.word ++ a.address.text

/-- A declaration at the top of the tree, up to the end of its line. -/
structure Declaration where
  last : Bool := false
  kind : List Char
  address : Address
  mentions : List Mention := []
  range : List Char
  kind_head : kind.head?.any Char.isAlpha = true := by decide
  kind_run : Run isWord kind := by decide
  oneLine : '\n' ∉ range := by decide

namespace Declaration

def label (d : Declaration) : List Char :=
  d.kind ++ (d.address.text ++ (d.mentions.flatMap Mention.text ++ ' ' :: '<' :: d.range))

def line (d : Declaration) : List Char := branch d.last ++ d.label

/-- The declaration with all that is below it, as a child of the root. -/
def child (d : Declaration) (above : List (List Char)) (children : List Node) : Child :=
  ⟨above, d.last, .node d.label children⟩

/--
The range starts in the source: it says so, or it names no file where the source was named last.
-/
def InSource (d : Declaration) (above : List (List Char)) : Prop :=
  sourceName <+: plain d.range ∨
    ("line:".toList <+: plain d.range ∨ "col:".toList <+: plain d.range) ∧
      lastFile above = some sourceName

instance (d : Declaration) (above : List (List Char)) : Decidable (d.InSource above) := by
  unfold InSource
  infer_instance

end Declaration

theorem plain_append (hescape : Ansi.escape ∉ s) (hblank : ' ' ∉ s) (t : List Char) :
    plain (s ++ t) = s ++ plain t := by
  induction s with
  | nil => rfl
  | cons c s ih =>
    rw [List.mem_cons, not_or] at hescape hblank
    rw [List.cons_append, plain_cons (Ne.symm hescape.1) (Ne.symm hblank.1), ih hescape.2 hblank.2,
      List.cons_append]

theorem Address.escape_notMem (a : Address) : Ansi.escape ∉ a.text := by
  intro h
  simp only [Address.text, List.mem_cons] at h
  rcases h with h | h | h | h
  · cases h
  · cases h
  · cases h
  · exact absurd (a.run.2 _ h) (by decide)

/-- An address goes, up to the blank after it. -/
theorem plain_address (a : Address) (t : List Char) :
    plain (a.text ++ ' ' :: t) = plain (' ' :: t) := by
  have hstops : Stops address.isHexDigit (' ' :: Ansi.strip t) := stops_cons (by decide) _
  have hmatch : address (a.text ++ ' ' :: Ansi.strip t) = a.text.length := by
    have hdigits := takeWhile_all_append a.run.2 hstops
    obtain ⟨c, cs, hcons⟩ := List.exists_cons_of_ne_nil a.run.1
    simp only [address, Address.text, List.cons_append, hdigits]
    simp [hcons]
  rw [plain, Ansi.strip_append a.escape_notMem, Ansi.strip_cons (by decide), erase,
    replace_match_append (by simp [Address.text]) hmatch, plain, Ansi.strip_cons (by decide)]
  rfl

theorem plain_word (r : Relation) (t : List Char) : plain (r.word ++ t) = r.word ++ plain t := by
  cases r with
  | parent =>
    have hword := plain_append (s := "parent".toList) (by decide) (by decide) t
    exact (plain_blank_cons (by decide) (by decide) _).trans (congrArg _ hword)
  | prev =>
    have hword := plain_append (s := "prev".toList) (by decide) (by decide) t
    exact (plain_blank_cons (by decide) (by decide) _).trans (congrArg _ hword)

/-- Of the mentions only the words stay. -/
theorem plain_mentions (as : List Mention) (a : Address) (range : List Char) :
    plain (a.text ++ (as.flatMap Mention.text ++ ' ' :: '<' :: range)) =
      as.flatMap (·.relation.word) ++ ' ' :: '<' :: plain range := by
  -- Each mention ends in an address, so the one before the rest is part of the induction.
  induction as generalizing a with
  | nil =>
    have hrange : plain (' ' :: '<' :: range) = ' ' :: '<' :: plain range := by
      rw [plain_blank_cons (by decide) (by decide), plain_cons (by decide) (by decide)]
    exact (plain_address a _).trans hrange
  | cons b as ih =>
    obtain ⟨w, hw⟩ := b.relation.exists_cons
    let rest := b.address.text ++ (as.flatMap Mention.text ++ ' ' :: '<' :: range)
    calc plain (a.text ++ ((b :: as).flatMap Mention.text ++ ' ' :: '<' :: range))
        = plain (a.text ++ (b.relation.word ++ rest)) := by simp [Mention.text, rest]
      _ = plain (b.relation.word ++ rest) := by
          rw [hw]
          exact plain_address a _
      _ = b.relation.word ++ plain rest := plain_word b.relation rest
      _ = _ := by simp [rest, ih b.address]

theorem label?_branch (last : Bool) (s : List Char) : label? (branch last ++ s) = some s := by
  cases last <;> simp [label?, branch, isBranch]

/-- A range is read right after the kind, and nowhere else. -/
theorem range?_branch {kind : List Char} (hhead : kind.head?.any Char.isAlpha = true)
    (hrun : Run isWord kind) (last : Bool) (s : List Char) :
    range? (branch last ++ (kind ++ ' ' :: s)) =
      match s with
      | '<' :: rest => if '\n' ∈ rest then none else some rest
      | _ => none := by
  obtain ⟨c, cs, rfl⟩ := List.exists_cons_of_ne_nil hrun.1
  have hc : c.isAlpha = true := by simpa using hhead
  have hstops : Stops isWord (' ' :: s) := stops_cons (by decide) s
  have hrest : (cs ++ ' ' :: s).dropWhile isWord = ' ' :: s :=
    dropWhile_all_append (fun x hx => hrun.2 x (List.mem_cons_of_mem c hx)) hstops
  rw [range?, label?_branch, List.cons_append]
  simp only [Option.bind_eq_bind, Option.bind_some, hc, if_true, hrest]
  split
  · next h =>
    obtain ⟨-, rfl⟩ := List.cons.inj h
    rfl
  · next h =>
    split
    · exact absurd rfl (h _)
    · rfl

theorem ofRange_eq_source_iff : Location.ofRange s = .file sourceName ↔ sourceName <+: s := by
  constructor
  · intro h
    unfold Location.ofRange at h
    split at h
    · cases h
    split at h
    · cases h
    split at h
    · next hsource => exact List.isPrefixOf_iff_prefix.1 hsource
    · have hname : s.takeWhile (· ≠ ':') = sourceName := Location.file.inj h
      exact hname ▸ List.takeWhile_prefix _
  · intro h
    have hinvalid := not_prefix_of_other (q := "<invalid sloc>".toList) h (by decide) (by decide)
    have hscratch := not_prefix_of_other (q := "scratch space".toList) h (by decide) (by decide)
    have hline := not_prefix_of_other (q := "line:".toList) h (by decide) (by decide)
    have hcolumn := not_prefix_of_other (q := "col:".toList) h (by decide) (by decide)
    rw [← List.isPrefixOf_iff_prefix] at hinvalid hscratch hline hcolumn h
    rw [Location.ofRange, if_neg (not_or.2 ⟨hinvalid, hscratch⟩),
      if_neg (not_or.2 ⟨hline, hcolumn⟩), if_pos h]

theorem ofRange_eq_sameFile_iff :
    Location.ofRange s = .sameFile ↔ "line:".toList <+: s ∨ "col:".toList <+: s := by
  constructor
  · intro h
    unfold Location.ofRange at h
    split at h
    · cases h
    split at h
    · next hsame => simpa only [List.isPrefixOf_iff_prefix] using hsame
    split at h <;> cases h
  · intro h
    have hother : ¬ "<invalid sloc>".toList <+: s ∧ ¬ "scratch space".toList <+: s := by
      rcases h with h | h <;>
        exact ⟨not_prefix_of_other h (by decide) (by decide),
          not_prefix_of_other h (by decide) (by decide)⟩
    simp only [← List.isPrefixOf_iff_prefix] at hother h
    rw [Location.ofRange, if_neg (not_or.2 hother), if_pos h]

namespace Declaration

variable (d : Declaration) (above : List (List Char))

theorem plain_line : plain d.line = branch d.last ++ (d.kind ++
    (d.mentions.flatMap (·.relation.word) ++ ' ' :: '<' :: plain d.range)) := by
  have hescape : Ansi.escape ∉ d.kind := fun h => absurd (d.kind_run.2 _ h) (by decide)
  have hblank : ' ' ∉ d.kind := fun h => absurd (d.kind_run.2 _ h) (by decide)
  rw [line, plain_branch, label, plain_append hescape hblank, plain_mentions]

/-- Any mention hides the range. -/
theorem location?_line : location? (plain d.line) =
    if d.mentions = [] then some (.ofRange (plain d.range)) else none := by
  have hone : '\n' ∉ plain d.range := fun h => d.oneLine (mem_of_mem_erase (mem_of_mem_erase h))
  rw [plain_line, location?]
  cases hmentions : d.mentions with
  | nil =>
    rw [List.flatMap_nil, List.nil_append, range?_branch d.kind_head d.kind_run]
    simp [hone]
  | cons a as =>
    -- The blank after the kind is that of a word, and no mark of a range follows it.
    obtain ⟨w, hw⟩ := a.relation.exists_cons
    rw [List.flatMap_cons, hw, List.cons_append, List.cons_append,
      range?_branch d.kind_head d.kind_run, if_neg (List.cons_ne_nil a as)]
    rfl

theorem inSource_child (children : List Node) :
    (d.child above children).InSource ↔ d.mentions = [] ∧ d.InSource above := by
  have hline : (d.child above children).line = d.line := rfl
  have habove : (d.child above children).above = above := rfl
  rw [Child.InSource, hline, habove, d.location?_line, InSource]
  by_cases hmentions : d.mentions = []
  · simp only [hmentions, if_true, Option.some.injEq, ofRange_eq_source_iff,
      ofRange_eq_sameFile_iff, true_and]
  · simp [hmentions]

theorem lastFile_append_of_mentions (h : d.mentions ≠ []) :
    lastFile (above ++ [d.line]) = lastFile above := by
  have hnone : fileNamed? d.line = none := by
    rw [fileNamed?, d.location?_line, if_neg h]
  rw [lastFile_append_singleton, hnone, Option.none_or]

end Declaration

/--
A declaration without mentions is kept, with all that is below it, exactly where its range
starts in the source. One with mentions is dropped with all that is below it, wherever its range
starts, and a file that it names does not count as named.
-/
theorem filter_declaration (d : Declaration) (children : List Node) (above rest : List Line)
    {block : List Line}
    (hblock : block.map (·.text.toList) =
      (d.child (above.map (·.text.toList)) children).lines) :
    (∃ kept, kept.Sublist (rest.map plainLine) ∧
      filter (above ++ block ++ rest) = filter above ++
        (if d.mentions = [] ∧ d.InSource (above.map (·.text.toList)) then block.map plainLine
          else []) ++ kept) ∧
    (d.mentions ≠ [] →
      lastFile (above.map (·.text.toList) ++ [d.line]) = lastFile (above.map (·.text.toList))) := by
  let c := d.child (above.map (·.text.toList)) children
  have hindented : ∀ line ∈ c.descendants, Indented line :=
    fun _ => c.node.indented_of_mem_descendants c.last []
  obtain ⟨kept, hkept, hfilter⟩ := filter_block (c := c) rest rfl hblock hindented
  refine ⟨⟨kept, hkept, ?_⟩, d.lastFile_append_of_mentions _⟩
  rw [hfilter]
  simp only [c, d.inSource_child]

/-- The lines down to a function that is declared, and is about to be defined. -/
def samplePrototype : List Line :=
  [{ text := "TranslationUnitDecl 0x1 <<invalid sloc>> <invalid sloc>" },
   { text := "|-FunctionDecl 0xa <<source>:1:1, col:10> col:6 used f 'void ()'" }]

/-- The definition, which names the declaration before it. -/
def sampleDefinition : Declaration where
  last := true
  kind := "FunctionDecl".toList
  address := { digits := ['b'] }
  mentions := [⟨.prev, { digits := ['a'] }⟩]
  range := "line:2:1, line:4:1> line:2:6 f 'void ()'".toList

/-- The lines of the definition, with its body. -/
def sampleBlock : List Line :=
  [{ text := "`-FunctionDecl 0xb prev 0xa <line:2:1, line:4:1> line:2:6 f 'void ()'" },
   { text := "  `-CompoundStmt 0xc <col:10, line:4:1>" }]

theorem filter_sampleDefinition :
    sampleDefinition.InSource (samplePrototype.map (·.text.toList)) ∧
    sampleBlock.head?.map (·.text.toList) = some sampleDefinition.line ∧
    filter (samplePrototype ++ sampleBlock) = filter samplePrototype := by
  let body : Node := .node "CompoundStmt 0xc <col:10, line:4:1>".toList []
  have hblock : sampleBlock.map (·.text.toList) =
      (sampleDefinition.child (samplePrototype.map (·.text.toList)) [body]).lines := by decide
  obtain ⟨⟨kept, hkept, hfilter⟩, -⟩ :=
    filter_declaration sampleDefinition [body] samplePrototype [] hblock
  have hmentions : ¬ sampleDefinition.mentions = [] := List.cons_ne_nil _ _
  have hnone : kept = [] := List.sublist_nil.1 hkept
  refine ⟨by decide, by decide, ?_⟩
  simpa [hmentions, hnone] using hfilter

end SpirvToolchain.Ast
