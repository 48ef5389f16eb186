import SpirvToolchain.Proofs.Ast.Drawing

/-! The scan over a drawn tree keeps whole subtrees, chosen by where their nodes are. -/
namespace SpirvToolchain.Ast

variable {st : Scan} {line : List Char} {above lines : List (List Char)} {c : Child}

/-- The file that a line names. -/
def fileNamed? (line : List Char) : Option (List Char) :=
  match location? (plain line) with
  | some (.file name) => some name
  | _ => none

/-- The file that the last line to name one names. -/
def lastFile (ls : List (List Char)) : Option (List Char) := (ls.filterMap fileNamed?).getLast?

/-- A child is in the source if it says so, or names no file where the source was named last. -/
def Child.InSource (c : Child) : Prop :=
  location? (plain c.line) = some (.file sourceName) ∨
    location? (plain c.line) = some .sameFile ∧ lastFile c.above = some sourceName

instance (c : Child) : Decidable c.InSource := by
  unfold Child.InSource
  infer_instance

theorem lastFile_append_singleton (ls : List (List Char)) (line : List Char) :
    lastFile (ls ++ [line]) = (fileNamed? line).or (lastFile ls) := by
  cases h : fileNamed? line <;> simp [lastFile, h]

theorem file_next (st : Scan) (line : List Char) :
    (st.next (plain line)).file = (fileNamed? line).or st.file := by
  unfold Scan.next fileNamed?
  rcases location? (plain line) with _ | _ | _ | name <;> rfl

/-- The scan carries along the file named last, whether or not the lines so far are kept. -/
theorem file_foldl_next (h : st.file = lastFile above) (lines : List (List Char)) :
    ((lines.map plain).foldl Scan.next st).file = lastFile (above ++ lines) := by
  induction lines generalizing st above with
  | nil => simpa using h
  | cons line lines ih =>
    have hnext : (st.next (plain line)).file = lastFile (above ++ [line]) := by
      rw [file_next, lastFile_append_singleton, h]
    simpa using ih hnext

theorem keptFrom_append (st : Scan) (a b : List (List Char)) :
    keptFrom st (a ++ b) = keptFrom st a ++ keptFrom (a.foldl Scan.next st) b := by
  induction a generalizing st with
  | nil => rfl
  | cons s a ih =>
    cases hkeep : (st.next s).keep <;> simp [keptFrom, hkeep, ih]

theorem keep_next_indented (st : Scan) (h : Indented line) :
    (st.next (plain line)).keep = st.keep := by
  obtain ⟨htop, hroot⟩ := h.plain_eq
  simp [Scan.next, htop, hroot]

/-- Below a child, every line fares as the child does. -/
theorem keptFrom_indented (h : ∀ line ∈ lines, Indented line) :
    keptFrom st (lines.map plain) = if st.keep then lines.map plain else [] := by
  induction lines generalizing st with
  | nil => simp [keptFrom]
  | cons line lines ih =>
    obtain ⟨hline, hlines⟩ := List.forall_mem_cons.1 h
    have hkeep := keep_next_indented st hline
    rw [List.map_cons, keptFrom, ih hlines, hkeep]
    cases st.keep <;> rfl

theorem keep_next_child (h : st.file = lastFile c.above) :
    (st.next (plain c.line)).keep = decide c.InSource := by
  have htop : isTopLevel (plain c.line) = true := isTopLevel_plain_branch _ _
  have hkeep : (st.next (plain c.line)).keep =
      decide (st.file? (location? (plain c.line)) = some sourceName) := by
    simp [Scan.next, htop]
  rw [hkeep, decide_eq_decide, Child.InSource, ← h]
  rcases location? (plain c.line) with _ | _ | _ | name <;> simp [Scan.file?]

theorem keptFrom_cons_indented (h : st.file = lastFile c.above)
    (hlines : ∀ line ∈ lines, Indented line) :
    keptFrom st ((c.line :: lines).map plain) =
      if c.InSource then (c.line :: lines).map plain else [] := by
  rw [List.map_cons, keptFrom, keptFrom_indented hlines, keep_next_child h]
  by_cases hsource : c.InSource <;> simp [hsource]

theorem keptFrom_child (h : st.file = lastFile c.above) :
    keptFrom st (c.lines.map plain) = if c.InSource then c.lines.map plain else [] :=
  keptFrom_cons_indented h fun _ => c.node.indented_of_mem_descendants c.last []

theorem keptFrom_childrenFrom (h : st.file = lastFile above) (ns : List Node) :
    keptFrom st (((childrenFrom above ns).flatMap Child.lines).map plain) =
      ((childrenFrom above ns).filter (·.InSource)).flatMap (·.lines.map plain) := by
  -- The keep flag of `st` is free: a child sets it before anything reads it.
  induction ns generalizing st above with
  | nil => rfl
  | cons n ns ih =>
    let c : Child := ⟨above, ns.isEmpty, n⟩
    have hrest := ih (file_foldl_next h c.lines)
    have hchild : keptFrom st (c.lines.map plain) = if c.InSource then c.lines.map plain else [] :=
      keptFrom_child h
    rw [childrenFrom, List.flatMap_cons, List.map_append, keptFrom_append, hrest, hchild]
    by_cases hsource : c.InSource <;> simp [c, hsource]

theorem keep_next_root {s : List Char} (h : isRoot s = true) : (st.next s).keep = true := by
  have htop : isTopLevel s = false := by
    cases s with
    | nil => rfl
    | cons c s =>
      have hbar : c ≠ '|' := by rintro rfl; cases h
      have htick : c ≠ '`' := by rintro rfl; cases h
      simp [isTopLevel, List.isPrefixOf, hbar.symm, htick.symm]
  simp [Scan.next, htop, h]

/--
Of a drawn tree the filter keeps the root and the children that are in the source, each with all
that is drawn below it, in order and free of escapes and addresses.
-/
theorem filter_drawing {t : Node} (hroot : isRoot (plain t.label) = true) {ls : List Line}
    (hls : ls.map (·.text.toList) = t.drawing) :
    filter ls =
      (plain t.label :: (t.drawnChildren.filter (·.InSource)).flatMap (·.lines.map plain)).map
        fun s => { text := String.ofList s } := by
  have hplain : ls.map (fun l => plain l.text.toList) = t.drawing.map plain := by
    rw [← hls, List.map_map]
    rfl
  have hfile : (Scan.next {} (plain t.label)).file = lastFile [t.label] :=
    @file_foldl_next {} [] rfl [t.label]
  have hkept : keptFrom {} (t.drawing.map plain) =
      plain t.label :: (t.drawnChildren.filter (·.InSource)).flatMap (·.lines.map plain) := by
    rw [t.drawing_eq, List.map_cons, keptFrom, keep_next_root hroot, if_pos rfl]
    exact congrArg _ (keptFrom_childrenFrom hfile t.children)
  rw [filter, hplain, hkept]

/-- A function with a parameter from elsewhere, which leaves its sibling there. -/
def sampleTree : Node :=
  .node "TranslationUnitDecl 0x1f <<invalid sloc>> <invalid sloc>".toList
    [.node "FunctionDecl 0x2a <<source>:1:1, col:9> f".toList
      [.node "ParmVarDecl 0x3b <inc.h:3:1> a".toList [.node "Attr 0x4 <col:2>".toList []]],
    .node "VarDecl 0x5c <line:4:1> b".toList [.node "Literal 0x6d <<source>:5:1>".toList []],
    .node "VarDecl 0x7e <line:6:1> c".toList []]

theorem filter_sampleTree :
    isRoot (plain sampleTree.label) = true ∧
    filter (sampleTree.drawing.map fun s => { text := String.ofList s }) =
      [{ text := "TranslationUnitDecl <<invalid sloc>> <invalid sloc>" },
       { text := "|-FunctionDecl <<source>:1:1, col:9> f" },
       { text := "| `-ParmVarDecl <inc.h:3:1> a" },
       { text := "|   `-Attr <col:2>" },
       { text := "`-VarDecl <line:6:1> c" }] := by
  have hroot : isRoot (plain sampleTree.label) = true := by decide
  refine ⟨hroot, ?_⟩
  rw [filter_drawing hroot (by simp [List.map_map, Function.comp_def])]
  decide

end SpirvToolchain.Ast
