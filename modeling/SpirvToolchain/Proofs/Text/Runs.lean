import Mathlib.Data.List.TakeWhile
import SpirvToolchain.Text.Lines

/-! Runs of characters of one kind, and where they stop. -/
namespace SpirvToolchain.Text

variable {kind : Char → Bool} {s t : List Char}

/-- Some characters, all of one kind. -/
def Run (kind : Char → Bool) (s : List Char) : Prop := s ≠ [] ∧ ∀ c ∈ s, kind c = true

/-- No run of a kind goes on into `t`. -/
def Stops (kind : Char → Bool) (t : List Char) : Prop := ∀ c ∈ t.head?, kind c = false

-- Only the characters of `s` are looked at, never those there are.
instance (kind : Char → Bool) (s : List Char) : Decidable (Run kind s) :=
  @instDecidableAnd _ _ _ (List.decidableBAll (kind · = true) s)

theorem stops_nil (kind : Char → Bool) : Stops kind [] := by simp [Stops]

theorem stops_cons {c : Char} (hc : kind c = false) (t : List Char) : Stops kind (c :: t) := by
  simpa [Stops] using hc

theorem stops_dropWhile (kind : Char → Bool) (s : List Char) : Stops kind (s.dropWhile kind) := by
  intro c hc
  have hhead := List.head?_dropWhile_not kind s
  rw [Option.mem_def.1 hc] at hhead
  simpa using hhead

theorem takeWhile_append_of_stops (ht : Stops kind t) (s : List Char) :
    (s ++ t).takeWhile kind = s.takeWhile kind := by
  induction s with
  | nil =>
    cases t with
    | nil => rfl
    | cons c t => simp [ht c rfl]
  | cons c s ih => simp [List.takeWhile_cons, ih]

theorem dropWhile_append_of_stops (ht : Stops kind t) (s : List Char) :
    (s ++ t).dropWhile kind = s.dropWhile kind ++ t := by
  induction s with
  | nil =>
    cases t with
    | nil => rfl
    | cons c t => simp [ht c rfl]
  | cons c s ih =>
    rw [List.cons_append, List.dropWhile_cons, List.dropWhile_cons, ih]
    split <;> rfl

theorem takeWhile_all_append (hs : ∀ c ∈ s, kind c = true) (ht : Stops kind t) :
    (s ++ t).takeWhile kind = s := by
  rw [takeWhile_append_of_stops ht, List.takeWhile_eq_self_iff.2 hs]

theorem dropWhile_all_append (hs : ∀ c ∈ s, kind c = true) (ht : Stops kind t) :
    (s ++ t).dropWhile kind = t := by
  rw [dropWhile_append_of_stops ht, List.dropWhile_eq_nil_iff.2 hs, List.nil_append]

theorem run_takeWhile (h : s.head?.any kind = true) : Run kind (s.takeWhile kind) := by
  refine ⟨?_, fun _ => List.mem_takeWhile_imp⟩
  cases s with
  | nil => simp at h
  | cons c s =>
    have hc : kind c = true := by simpa using h
    simp [hc]

theorem Run.head?_append (hs : Run kind s) (t : List Char) : (s ++ t).head?.any kind = true := by
  obtain ⟨c, s, rfl⟩ := List.exists_cons_of_ne_nil hs.1
  simpa using hs.2 c List.mem_cons_self

/-- Only the returns after the last other character go. -/
theorem trimReturns_append (hs : '\r' ∉ s) (t : List Char) :
    trimReturns (s ++ t) = s ++ trimReturns t := by
  have hstops : Stops (· == '\r') s.reverse := by
    intro c hc
    have hmem : c ∈ s := List.mem_reverse.1 (List.mem_of_mem_head? hc)
    have hne : c ≠ '\r' := fun h => hs (h ▸ hmem)
    simpa using hne
  rw [trimReturns, List.reverse_append, dropWhile_append_of_stops hstops, List.reverse_append,
    List.reverse_reverse, trimReturns]

theorem trimStart_append_eq_ite (s t : List Char) :
    trimStart (s ++ t) = if (trimStart s).isEmpty then trimStart t else trimStart s ++ t :=
  List.dropWhile_append

end SpirvToolchain.Text
