/-! Finite maps from texts, kept in key order so that equal maps are equal values. -/
namespace SpirvToolchain

/-- Entries with strictly increasing keys. -/
def Ordered {α : Type} (entries : List (String × α)) : Prop :=
  entries.Pairwise fun a b => a.1 < b.1

namespace Dict

variable {α : Type}

def insertEntry (key : String) (value : α) : List (String × α) → List (String × α)
  | [] => [(key, value)]
  | e :: rest =>
    if key < e.1 then (key, value) :: e :: rest
    else if key = e.1 then (key, value) :: rest
    else e :: insertEntry key value rest

theorem mem_insertEntry {key : String} {value : α} {entries : List (String × α)} {e : String × α}
    (h : e ∈ insertEntry key value entries) : e = (key, value) ∨ e ∈ entries := by
  induction entries with
  | nil => simpa [insertEntry] using h
  | cons d rest ih =>
    simp only [insertEntry] at h
    split at h
    · simpa using h
    · split at h
      · simp at h
        grind
      · simp at h
        rcases h with h | h
        · simp [h]
        · rcases ih h with h | h <;> simp [h]

theorem ordered_insertEntry {key : String} {value : α} {entries : List (String × α)}
    (h : Ordered entries) : Ordered (insertEntry key value entries) := by
  induction entries with
  | nil => simp [Ordered, insertEntry]
  | cons d rest ih =>
    simp only [Ordered, List.pairwise_cons] at h ih ⊢
    simp only [insertEntry]
    split
    · next hlt =>
      refine List.pairwise_cons.mpr ⟨?_, List.pairwise_cons.mpr h⟩
      intro e he
      rcases List.mem_cons.mp he with rfl | he
      · exact hlt
      · exact String.lt_trans hlt (h.1 e he)
    · split
      · next heq =>
        exact List.pairwise_cons.mpr ⟨fun e he => by simpa [heq] using h.1 e he, h.2⟩
      · next hlt hne =>
        refine List.pairwise_cons.mpr ⟨?_, ih h.2⟩
        intro e he
        rcases mem_insertEntry he with rfl | he
        · have := String.not_lt.mp hlt
          exact Std.lt_of_le_of_ne this (Ne.symm hne)
        · exact h.1 e he

end Dict

structure Dict (α : Type) where
  entries : List (String × α) := []
  ordered : Ordered entries := by simp [Ordered]

namespace Dict

variable {α : Type}

def empty : Dict α := {}

def insert (d : Dict α) (key : String) (value : α) : Dict α :=
  ⟨insertEntry key value d.entries, ordered_insertEntry d.ordered⟩

/-- A later entry replaces an earlier one of the same key. -/
def ofList (entries : List (String × α)) : Dict α :=
  entries.foldl (fun d e => d.insert e.1 e.2) empty

def get? (d : Dict α) (key : String) : Option α := d.entries.lookup key

theorem lookup_cons_eq_ite (k : String) (e : String × α) (rest : List (String × α)) :
    (e :: rest).lookup k = if k = e.1 then some e.2 else rest.lookup k := by
  obtain ⟨key, value⟩ := e
  by_cases h : k = key
  · simp [h]
  · have : (k == key) = false := by simpa using h
    simp [List.lookup_cons, h, this]

theorem lookup_insertEntry (key : String) (value : α) (entries : List (String × α)) (k : String) :
    (insertEntry key value entries).lookup k = if k = key then some value else entries.lookup k := by
  induction entries with
  | nil => rw [insertEntry, lookup_cons_eq_ite]
  | cons d rest ih =>
    simp only [insertEntry]
    split
    · rw [lookup_cons_eq_ite]
    · split
      · next heq =>
        simp only [lookup_cons_eq_ite, ← heq]
        split <;> rfl
      · next hne =>
        rw [lookup_cons_eq_ite, lookup_cons_eq_ite, ih]
        by_cases hk : k = key
        · simp [hk, hne]
        · simp [hk]

/-- A look finds what was put last under its key. -/
theorem get?_insert (d : Dict α) (key : String) (value : α) (k : String) :
    (d.insert key value).get? k = if k = key then some value else d.get? k :=
  lookup_insertEntry key value d.entries k

@[ext] theorem ext {a b : Dict α} (h : a.entries = b.entries) : a = b := by
  cases a; cases b; simp_all

instance [DecidableEq α] : DecidableEq (Dict α) := fun _ _ => decidable_of_iff _ Dict.ext_iff.symm

instance : Inhabited (Dict α) := ⟨empty⟩

end Dict

end SpirvToolchain
