import SpirvToolchain.Proofs.Text.Runs
import SpirvToolchain.Proofs.Text.Search

/-!
Expressions with numbered groups. All ways to match a start of a text are tried in order of
preference: a run is read as far as it goes before it is cut short, and a part that may be left
out is looked for first.
-/
namespace SpirvToolchain.Text

variable {kind : Char → Bool} {s : List Char}

inductive Expression
  | literal (piece : List Char)
  | one (kind : Char → Bool)
  | many (kind : Char → Bool)
  | optional (e : Expression)
  | group (number : Nat) (e : Expression)
  | followed (e next : Expression)
  | finish

/-- A way to match: what was read, what each group on the way holds, and what is left. -/
structure Way where
  read : List Char
  groups : List (Nat × List Char)
  left : List Char

/-- Nothing is read. -/
def Way.stay (s : List Char) : Way := ⟨[], [], s⟩

def Way.cons (c : Char) (w : Way) : Way := { w with read := c :: w.read }

def Way.append (w v : Way) : Way := ⟨w.read ++ v.read, w.groups ++ v.groups, v.left⟩

@[simp] theorem Way.stay_left (s : List Char) : (Way.stay s).left = s := rfl

@[simp] theorem Way.append_stay (s : List Char) : (Way.stay s).append = id := rfl

@[simp] theorem Way.append_left (w v : Way) : (w.append v).left = v.left := rfl

theorem Way.append_append (w v : Way) : (w.append v).append = w.append ∘ v.append := by
  funext u
  simp [Way.append]

/-- The ways to read a run, the longest first. -/
def runs (kind : Char → Bool) : List Char → List Way
  | [] => [.stay []]
  | c :: cs =>
    (if kind c then (runs kind cs).map (Way.cons c) else []) ++ [.stay (c :: cs)]

theorem runs_cons (kind : Char → Bool) (c : Char) (cs : List Char) :
    runs kind (c :: cs) =
      (if kind c then (runs kind cs).map (Way.cons c) else []) ++ [.stay (c :: cs)] := rfl

namespace Expression

/-- The ways to match a start of a text, the preferred first. -/
def ways : Expression → List Char → List Way
  | literal piece, s => (piece.isPrefixOf? s).toList.map fun left => ⟨piece, [], left⟩
  | one _, [] => []
  | one kind, c :: cs => if kind c then [⟨[c], [], cs⟩] else []
  | many kind, s => runs kind s
  | optional e, s => ways e s ++ [.stay s]
  | group number e, s => (ways e s).map fun w => { w with groups := (number, w.read) :: w.groups }
  | followed e next, s => (ways e s).flatMap fun w => (ways next w.left).map w.append
  | finish, [] => [.stay []]
  | finish, _ :: _ => []

theorem ways_literal (piece s : List Char) :
    (literal piece).ways s =
      (piece.isPrefixOf? s).toList.map fun left => ⟨piece, [], left⟩ := rfl

theorem ways_one_nil (kind : Char → Bool) : (one kind).ways [] = [] := rfl

theorem ways_one_cons (kind : Char → Bool) (c : Char) (cs : List Char) :
    (one kind).ways (c :: cs) = if kind c then [⟨[c], [], cs⟩] else [] := rfl

theorem ways_many (kind : Char → Bool) (s : List Char) : (many kind).ways s = runs kind s := rfl

theorem ways_group (number : Nat) (e : Expression) (s : List Char) :
    (group number e).ways s =
      (e.ways s).map fun w => { w with groups := (number, w.read) :: w.groups } := rfl

theorem ways_followed (e next : Expression) (s : List Char) :
    (followed e next).ways s =
      (e.ways s).flatMap fun w => (next.ways w.left).map w.append := rfl

theorem ways_finish_nil : finish.ways [] = [.stay []] := rfl

/-- What the groups hold when a text is matched from its start in the preferred way. -/
def groups? (e : Expression) (s : List Char) : Option (List (Nat × List Char)) :=
  (e.ways s).head?.map (·.groups)

end Expression

/-- Every way to read a run but the longest stops before a character that would go on with it. -/
theorem runs_eq (kind : Char → Bool) (s : List Char) :
    ∃ shorter, runs kind s = ⟨s.takeWhile kind, [], s.dropWhile kind⟩ :: shorter ∧
      ∀ w ∈ shorter, ¬ Stops kind w.left := by
  induction s with
  | nil => exact ⟨[], rfl, by simp⟩
  | cons c cs ih =>
    obtain ⟨shorter, heq, hshorter⟩ := ih
    cases hc : kind c with
    | false => exact ⟨[], by simp [runs_cons, hc, Way.stay], by simp⟩
    | true =>
      refine ⟨shorter.map (Way.cons c) ++ [.stay (c :: cs)], ?_, ?_⟩
      · simp [runs_cons, hc, heq, Way.cons]
      · rw [List.forall_mem_append, List.forall_mem_map]
        exact ⟨hshorter, by simp [Way.stay, Stops, hc]⟩

/-- Where no way goes on inside a run, only the longest run counts. -/
theorem flatMap_runs {α : Type} {f : Way → List α} (hf : ∀ w, ¬ Stops kind w.left → f w = [])
    (s : List Char) :
    (runs kind s).flatMap f = f ⟨s.takeWhile kind, [], s.dropWhile kind⟩ := by
  obtain ⟨shorter, heq, hshorter⟩ := runs_eq kind s
  have hnone : shorter.flatMap f = [] :=
    List.flatMap_eq_nil_iff.2 fun w hw => hf w (hshorter w hw)
  rw [heq, List.flatMap_cons, hnone, List.append_nil]

namespace Expression

variable {e next : Expression}

/-- Matches no text that goes on with a run. -/
def Refuses (kind : Char → Bool) (e : Expression) : Prop :=
  ∀ s, ¬ Stops kind s → e.ways s = []

theorem refuses_finish (kind : Char → Bool) : Refuses kind finish := by
  intro s hs
  cases s with
  | nil => exact absurd (stops_nil kind) hs
  | cons c cs => rfl

theorem refuses_literal {c : Char} (hc : kind c = false) (piece : List Char) (next : Expression) :
    Refuses kind (followed (literal (c :: piece)) next) := by
  intro s hs
  cases s with
  | nil => exact absurd (stops_nil kind) hs
  | cons d ds =>
    have hother : ¬ c :: piece <+: d :: ds := by
      rw [List.cons_prefix_cons]
      rintro ⟨rfl, -⟩
      exact hs (stops_cons hc ds)
    simp [ways_followed, ways_literal, isPrefixOf?_eq_none hother]

theorem ways_assoc (e f g : Expression) (s : List Char) :
    (followed (followed e f) g).ways s = (followed e (followed f g)).ways s := by
  simp only [ways_followed, List.flatMap_assoc, List.map_flatMap, List.flatMap_map, List.map_map,
    Way.append_left, Way.append_append]

theorem ways_optional (e next : Expression) (s : List Char) :
    (followed (optional e) next).ways s = (followed e next).ways s ++ next.ways s := by
  have hways : (optional e).ways s = e.ways s ++ [.stay s] := rfl
  simp [ways_followed, hways]

theorem Refuses.optional (he : Refuses kind (followed e next)) (hnext : Refuses kind next) :
    Refuses kind (followed (optional e) next) := by
  intro s hs
  rw [ways_optional, he s hs, hnext s hs, List.append_nil]

theorem Refuses.assoc {f g : Expression} (h : Refuses kind (followed e (followed f g))) :
    Refuses kind (followed (followed e f) g) := by
  intro s hs
  rw [ways_assoc, h s hs]

theorem groups?_assoc (e f g : Expression) (s : List Char) :
    (followed (followed e f) g).groups? s = (followed e (followed f g)).groups? s := by
  rw [groups?, groups?, ways_assoc]

theorem groups?_optional (e next : Expression) (s : List Char) :
    (followed (optional e) next).groups? s =
      ((followed e next).groups? s).or (next.groups? s) := by
  rw [groups?, ways_optional, List.head?_append]
  cases h : ((followed e next).ways s).head? <;> simp [groups?, h]

theorem groups?_literal (piece : List Char) (next : Expression) (s : List Char) :
    (followed (literal piece) next).groups? (piece ++ s) = next.groups? s := by
  simp [groups?, ways_followed, ways_literal, isPrefixOf?_append, Way.append, Function.comp_def]

theorem groups?_literal_of_other {piece : List Char} (h : ¬ piece <+: s) (next : Expression) :
    (followed (literal piece) next).groups? s = none := by
  simp [groups?, ways_followed, ways_literal, isPrefixOf?_eq_none h]

/-- A run before something that cannot go on with it is read to its end. -/
theorem groups?_run (h : Refuses kind next) (number : Nat) (s : List Char) :
    (followed (group number (followed (one kind) (many kind))) next).groups? s =
      if s.takeWhile kind = [] then none
      else (next.groups? (s.dropWhile kind)).map ((number, s.takeWhile kind) :: ·) := by
  cases s with
  | nil => simp [groups?, ways_followed, ways_group, ways_one_nil]
  | cons c cs =>
    cases hc : kind c with
    | false => simp [groups?, ways_followed, ways_group, ways_one_cons, hc]
    | true =>
      have hways : (followed (group number (followed (one kind) (many kind))) next).ways (c :: cs) =
          (runs kind cs).flatMap fun w => (next.ways w.left).map
            (Way.append ⟨c :: w.read, (number, c :: w.read) :: w.groups, w.left⟩) := by
        simp [ways_followed, ways_group, ways_one_cons, ways_many, hc, List.flatMap_map, Way.append]
      rw [groups?, hways, flatMap_runs fun w hw => by rw [h _ hw, List.map_nil]]
      simp [groups?, hc, Way.append, Function.comp_def]

/-- The rest of a text that nothing in it ends is read to its end. -/
theorem groups?_rest (hs : ∀ c ∈ s, kind c = true) (number : Nat) :
    (followed (group number (many kind)) finish).groups? s = some [(number, s)] := by
  have hways : (followed (group number (many kind)) finish).ways s =
      (runs kind s).flatMap fun w => (finish.ways w.left).map
        (Way.append { w with groups := (number, w.read) :: w.groups }) := by
    simp [ways_followed, ways_group, ways_many, List.flatMap_map]
  rw [groups?, hways, flatMap_runs fun w hw => by rw [refuses_finish kind _ hw, List.map_nil],
    List.takeWhile_eq_self_iff.2 hs, List.dropWhile_eq_nil_iff.2 hs]
  simp [ways_finish_nil, Way.stay, Way.append]

/-- Where the longest run is followed by a match, it is preferred to the others. -/
theorem groups?_many {groups : List (Nat × List Char)}
    (h : next.groups? (s.dropWhile kind) = some groups) :
    (followed (many kind) next).groups? s = some groups := by
  obtain ⟨shorter, heq, -⟩ := runs_eq kind s
  obtain ⟨w, hw, rfl⟩ := Option.map_eq_some_iff.1 h
  simp [groups?, ways_followed, ways_many, heq, List.head?_append, hw, Way.append]

end Expression

end SpirvToolchain.Text
