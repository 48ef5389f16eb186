import Mathlib.Data.List.Perm.Basic
import SpirvToolchain.Dict

/-! Maps are made of their entries in any order, and mapped entry by entry. -/
namespace SpirvToolchain

variable {α β : Type}

namespace Dict

/-- A value of its own for each key. -/
def mapKeyed (f : String → α → β) (d : Dict α) : Dict β where
  entries := d.entries.map fun e => (e.1, f e.1 e.2)
  ordered := by
    rw [Ordered, List.pairwise_map]
    exact d.ordered

theorem mapKeyed_id (d : Dict α) : d.mapKeyed (fun _ a => a) = d := Dict.ext (List.map_id _)

theorem nodup_keys (d : Dict α) : (d.entries.map (·.1)).Nodup := by
  refine List.pairwise_map.2 (d.ordered.imp ?_)
  intro e e' hlt heq
  exact String.lt_irrefl _ (heq ▸ hlt)

theorem insertEntry_perm {key : String} {value : α} {entries : List (String × α)}
    (h : key ∉ entries.map (·.1)) :
    (insertEntry key value entries).Perm ((key, value) :: entries) := by
  induction entries with
  | nil => exact List.Perm.refl _
  | cons e rest ih =>
    rw [List.map_cons, List.mem_cons, not_or] at h
    rw [insertEntry]
    split
    · exact List.Perm.refl _
    · rw [if_neg h.1]
      exact ((ih h.2).cons e).trans (List.Perm.swap _ _ _)

/-- With one entry for each key, none is lost, whatever their order. -/
theorem foldl_insert_perm {entries : List (String × α)} {d : Dict α}
    (h : (d.entries.map (·.1) ++ entries.map (·.1)).Nodup) :
    (entries.foldl (fun d e => d.insert e.1 e.2) d).entries.Perm (d.entries ++ entries) := by
  induction entries generalizing d with
  | nil =>
    rw [List.append_nil]
    exact List.Perm.refl _
  | cons e rest ih =>
    rw [List.map_cons] at h
    have hkey : e.1 ∉ d.entries.map (·.1) :=
      fun hmem => (List.nodup_append.1 h).2.2 _ hmem _ List.mem_cons_self rfl
    have hinsert : (d.insert e.1 e.2).entries.Perm (e :: d.entries) := insertEntry_perm hkey
    have hrest : ((d.insert e.1 e.2).entries.map (·.1) ++ rest.map (·.1)).Nodup := by
      have hkeys := ((hinsert.map (·.1)).append_right (rest.map (·.1))).trans List.perm_middle.symm
      exact hkeys.nodup_iff.2 h
    exact (ih hrest).trans ((hinsert.append_right rest).trans List.perm_middle.symm)

theorem ofList_eq_of_perm {entries : List (String × α)} {d : Dict α} (h : entries.Perm d.entries) :
    ofList entries = d := by
  have hnodup : (entries.map (·.1)).Nodup := (h.map _).nodup_iff.2 d.nodup_keys
  have hperm : (ofList entries).entries.Perm d.entries := 
    (foldl_insert_perm (d := empty) hnodup).trans h
  refine Dict.ext (hperm.eq_of_pairwise ?_ (ofList entries).ordered d.ordered)
  intro e e' _ _ hlt hgt
  exact absurd (String.lt_trans hlt hgt) (String.lt_irrefl _)

end Dict

end SpirvToolchain
