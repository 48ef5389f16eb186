import SpirvToolchain.Proofs.Ast.Selection

/-! A top-level declaration among the lines of a dump: it stays or goes with all that is below it. -/
namespace SpirvToolchain.Ast

/-- A line as the filter shows it. -/
def plainLine (l : Line) : Line := { text := String.ofList (plain l.text.toList) }

theorem map_plainLine (ls : List Line) :
    ls.map plainLine =
      ((ls.map (·.text.toList)).map plain).map fun s => { text := String.ofList s } := by
  simp [plainLine, List.map_map, Function.comp_def]

theorem filter_eq (ls : List Line) :
    filter ls = (keptFrom {} ((ls.map (·.text.toList)).map plain)).map
      fun s => { text := String.ofList s } := by
  rw [filter, List.map_map]
  rfl

theorem keptFrom_sublist (st : Scan) (ls : List (List Char)) : (keptFrom st ls).Sublist ls := by
  induction ls generalizing st with
  | nil => exact List.Sublist.slnil
  | cons s ls ih =>
    rw [keptFrom]
    split
    · exact (ih _).cons_cons s
    · exact (ih _).cons s

/-- What is above a block is read without it; what is after it is read from where it ends. -/
theorem keptFrom_block {c : Child} {below : List (List Char)}
    (hbelow : ∀ line ∈ below, Indented line) (after : List (List Char)) :
    ∃ st, keptFrom {} ((c.above ++ c.line :: below ++ after).map plain) =
      keptFrom {} (c.above.map plain) ++
        (if c.InSource then (c.line :: below).map plain else []) ++ keptFrom st (after.map plain) := by
  let above := (c.above.map plain).foldl Scan.next {}
  let st := ((c.above ++ c.line :: below).map plain).foldl Scan.next {}
  have hfile : above.file = lastFile c.above := by
    simpa using @file_foldl_next {} [] rfl c.above
  refine ⟨st, ?_⟩
  calc keptFrom {} ((c.above ++ c.line :: below ++ after).map plain)
      = keptFrom {} ((c.above ++ c.line :: below).map plain) ++ keptFrom st (after.map plain) := by
        rw [List.map_append, keptFrom_append]
    _ = keptFrom {} (c.above.map plain) ++ keptFrom above ((c.line :: below).map plain) ++
          keptFrom st (after.map plain) := by
        rw [List.map_append, keptFrom_append]
    _ = _ := by rw [keptFrom_cons_indented hfile hbelow]

theorem filter_block {above block : List Line} {c : Child} {below : List (List Char)}
    (rest : List Line) (habove : above.map (·.text.toList) = c.above)
    (hblock : block.map (·.text.toList) = c.line :: below)
    (hbelow : ∀ line ∈ below, Indented line) :
    ∃ kept, kept.Sublist (rest.map plainLine) ∧
      filter (above ++ block ++ rest) =
        filter above ++ (if c.InSource then block.map plainLine else []) ++ kept := by
  obtain ⟨st, hkept⟩ := keptFrom_block (c := c) hbelow (rest.map (·.text.toList))
  refine ⟨(keptFrom st ((rest.map (·.text.toList)).map plain)).map
    fun s => { text := String.ofList s }, ?_, ?_⟩
  · rw [map_plainLine]
    exact (keptFrom_sublist st _).map _
  · have hlines : (above ++ block ++ rest).map (·.text.toList) =
        c.above ++ c.line :: below ++ rest.map (·.text.toList) := by
      rw [List.map_append, List.map_append, habove, hblock]
    rw [filter_eq, filter_eq, map_plainLine, hlines, habove, hblock, hkept, List.map_append,
      List.map_append, apply_ite (List.map _), List.map_nil]

end SpirvToolchain.Ast
