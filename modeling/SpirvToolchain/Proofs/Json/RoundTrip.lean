import SpirvToolchain.Proofs.Json.Scalars

/-! A document that has been written is read back as the value it was written for. -/
namespace SpirvToolchain.Json

variable {v : Json} {vs : List Json} {m : Text × Json} {ms : List (Text × Json)}
  {level fuel : Nat} {rest : List Char}

/-- Values whose numbers are whole and whose texts can be written. -/
inductive Plain : Json → Prop
  | null : Plain .null
  | bool (b : Bool) : Plain (.bool b)
  | int (i : Int) : Plain (.int i)
  | text (s : String) : Plain (.text (some s))
  | array {vs : List Json} (h : ∀ v ∈ vs, Plain v) : Plain (.array vs)
  | object {ms : List (Text × Json)} (hkeys : ∀ m ∈ ms, m.1.isSome = true)
      (hvalues : ∀ m ∈ ms, Plain m.2) : Plain (.object ms)

theorem plain_str (s : String) : (str s).Plain := .text s

theorem plain_nat (n : Nat) : (nat n).Plain := .int n

theorem plain_array_map {α : Type} {encode : α → Json} (h : ∀ a, (encode a).Plain) (as : List α) :
    Plain (.array (as.map encode)) := by
  refine .array fun v hv => ?_
  obtain ⟨a, -, rfl⟩ := List.mem_map.1 hv
  exact h a

theorem plain_elim {α : Type} {encode : α → Json} (h : ∀ a, (encode a).Plain) (o : Option α) :
    (o.elim .null encode).Plain := by
  cases o with
  | none => exact .null
  | some a => exact h a

theorem plain_record {ms : List (String × Json)} (h : ∀ m ∈ ms, m.2.Plain) : (record ms).Plain := by
  refine .object (fun m hm => ?_) (fun m hm => ?_)
  · obtain ⟨n, -, rfl⟩ := List.mem_map.1 hm
    rfl
  · obtain ⟨n, hn, rfl⟩ := List.mem_map.1 hm
    exact h n hn

theorem skip_indent (n : Nat) (s : List Char) : skip (indent n ++ s) = skip s := by
  have hspaces : ∀ k, skip (List.replicate k ' ' ++ s) = skip s := by
    intro k
    induction k with
    | zero => rfl
    | succ k ih => exact ih
  exact hspaces (2 * n)

theorem skip_blank (s : List Char) : skip (' ' :: s) = skip s := rfl

theorem skip_of_not_isSpace {c : Char} (hc : isSpace c = false) (s : List Char) :
    skip (c :: s) = c :: s := by
  simp [skip, hc]

theorem ended_indent (n : Nat) (s : List Char) : Ended (indent n ++ s) := by
  simp [Ended, indent]

theorem ended_cons_comma (s : List Char) : Ended (',' :: s) := by
  simp [Ended]

theorem value_eq_of_skip_eq {s t : List Char} (h : skip s = skip t) (fuel : Nat) :
    value fuel s = value fuel t := by
  cases fuel with
  | zero => rfl
  | succ fuel => rw [value, value, h]

theorem items_indent (n fuel : Nat) (s : List Char) :
    items fuel (indent n ++ s) = items fuel s := by
  cases fuel with
  | zero => rfl
  | succ fuel => rw [items, items, value_eq_of_skip_eq (skip_indent n s)]

theorem members_indent (n fuel : Nat) (s : List Char) :
    members fuel (indent n ++ s) = members fuel s := by
  cases fuel with
  | zero => rfl
  | succ fuel => rw [members, members, skip_indent]

/-- How the text of a value begins: with neither a blank nor a closing bracket. -/
def Begun (s : List Char) : Prop := ∃ c t, s = c :: t ∧ isSpace c = false ∧ c ≠ ']'

theorem Begun.append {s : List Char} (h : Begun s) (t : List Char) : Begun (s ++ t) := by
  obtain ⟨c, s, rfl, hc⟩ := h
  exact ⟨c, s ++ t, rfl, hc⟩

/-- A number starts with no blank. -/
theorem isSpace_eq_false {c : Char} (hc : c = '-' ∨ c.isDigit = true) : isSpace c = false := by
  by_contra hblank
  rw [Bool.not_eq_false, isSpace] at hblank
  simp only [Bool.or_eq_true, beq_iff_eq] at hblank
  rcases hblank with ((rfl | rfl) | rfl) | rfl
  all_goals exact absurd hc (by decide)

theorem begun_toString (i : Int) : Begun (toString i).toList := by
  rcases toString_cases i with ⟨n, -, hprinted⟩ | ⟨n, -, -, hprinted⟩
  · obtain ⟨c, cs, hcons, hdigit⟩ := exists_toDigits_eq_cons n
    refine ⟨c, cs, hprinted.trans hcons, ?_, ?_⟩
    · exact isSpace_eq_false (.inr hdigit)
    · rintro rfl
      cases hdigit
  · exact ⟨'-', _, hprinted, rfl, by decide⟩

-- A bracket at the start would be read as the end of an empty list.
theorem begun_pretty (hv : v.Plain) (level : Nat) : Begun (pretty level v) := by
  cases hv with
  | null => exact ⟨'n', _, rfl, rfl, by decide⟩
  | bool b => cases b <;> exact ⟨_, _, rfl, rfl, by decide⟩
  | int i =>
    rw [pretty]
    exact begun_toString i
  | text s => exact ⟨'"', _, by rw [pretty]; rfl, rfl, by decide⟩
  | @array vs =>
    cases vs with
    | nil => exact ⟨'[', _, by rw [pretty], rfl, by decide⟩
    | cons v vs => exact ⟨'[', _, by rw [pretty], rfl, by decide⟩
  | @object ms =>
    cases ms with
    | nil => exact ⟨'\x7b', _, by rw [pretty], rfl, by decide⟩
    | cons m ms => exact ⟨'\x7b', _, by rw [pretty], rfl, by decide⟩

/-- The text of a value is read as that value, with fuel for each of its characters. -/
def ReadBack (v : Json) : Prop :=
  ∀ level fuel rest, Ended rest → (pretty level v).length ≤ fuel →
    value fuel (pretty level v ++ rest) = some (v, rest)

theorem exists_fuel_eq_succ {s : List Char} (hs : Begun s) (hfuel : s.length ≤ fuel) :
    ∃ f, fuel = f + 1 := by
  obtain ⟨c, t, rfl, -⟩ := hs
  rw [List.length_cons] at hfuel
  exact ⟨fuel - 1, by omega⟩

theorem readBack_null : ReadBack .null := by
  intro level fuel rest hrest hfuel
  obtain ⟨f, rfl⟩ := exists_fuel_eq_succ (begun_pretty .null level) hfuel
  rfl

theorem readBack_bool (b : Bool) : ReadBack (.bool b) := by
  intro level fuel rest hrest hfuel
  obtain ⟨f, rfl⟩ := exists_fuel_eq_succ (begun_pretty (.bool b) level) hfuel
  cases b <;> rfl

theorem value_number {c : Char} (hc : c = '-' ∨ c.isDigit = true) (f : Nat) (s : List Char) :
    value (f + 1) (c :: s) = number (c :: s) := by
  rw [value, skip_of_not_isSpace (isSpace_eq_false hc)]
  split
  case h_7 => rfl
  all_goals
    next heq =>
      obtain rfl := (List.cons.inj heq).1
      exact absurd hc (by decide)

theorem readBack_int (i : Int) : ReadBack (.int i) := by
  intro level fuel rest hrest hfuel
  obtain ⟨f, rfl⟩ := exists_fuel_eq_succ (begun_pretty (.int i) level) hfuel
  have hread := number_toString i hrest
  rw [pretty]
  rcases toString_cases i with ⟨n, -, hprinted⟩ | ⟨n, -, -, hprinted⟩
  · obtain ⟨c, cs, hcons, hdigit⟩ := exists_toDigits_eq_cons n
    rw [hprinted, hcons, List.cons_append] at hread ⊢
    exact (value_number (.inr hdigit) f _).trans hread
  · rw [hprinted, List.cons_append] at hread ⊢
    exact (value_number (.inl rfl) f _).trans hread

theorem readBack_text (s : String) : ReadBack (.text (some s)) := by
  intro level fuel rest hrest hfuel
  obtain ⟨f, rfl⟩ := exists_fuel_eq_succ (begun_pretty (.text s) level) hfuel
  have hquoted : pretty level (.text (some s)) ++ rest =
      '"' :: (s.toList.flatMap escapeChar ++ '"' :: rest) := by
    simp [pretty, quotedText, quoted]
  rw [hquoted, value, skip_of_not_isSpace rfl]
  simp only [string_quoted, Option.map_some]

/-- Items are read one by one, up to the bracket on the line after the last. -/
theorem items_pretty (level outer fuel : Nat) (rest : List Char) (hv : ReadBack v)
    (hvs : ∀ w ∈ vs, ReadBack w)
    (hfuel : (pretty level v ++ prettyItems level vs).length < fuel) :
    items fuel (pretty level v ++ (prettyItems level vs ++ (indent outer ++ ']' :: rest))) =
      some (v :: vs, rest) := by
  -- The item before takes one unit of fuel, and the comma after it is one character.
  induction vs generalizing v fuel with
  | nil =>
    obtain ⟨f, rfl⟩ : ∃ f, fuel = f + 1 := ⟨fuel - 1, by omega⟩
    rw [List.length_append] at hfuel
    rw [items, prettyItems, List.nil_append, hv level f _ (ended_indent _ _) (by omega)]
    simp only [Option.bind_eq_bind, Option.bind_some, skip_indent]
    rfl
  | cons w vs ih =>
    obtain ⟨f, rfl⟩ : ∃ f, fuel = f + 1 := ⟨fuel - 1, by omega⟩
    obtain ⟨hw, hvs⟩ := List.forall_mem_cons.1 hvs
    simp only [prettyItems, List.length_append, List.length_cons] at hfuel
    have hlater := ih f hw hvs (by rw [List.length_append]; omega)
    rw [items, prettyItems, List.cons_append, hv level f _ (ended_cons_comma _) (by omega)]
    simp only [Option.bind_eq_bind, Option.bind_some,
      skip_of_not_isSpace (show isSpace ',' = false from rfl), List.append_assoc, items_indent, hlater]
    rfl

theorem readBack_array (hvs : ∀ v ∈ vs, v.Plain ∧ ReadBack v) : ReadBack (.array vs) := by
  intro level fuel rest hrest hfuel
  cases vs with
  | nil =>
    have hbegun := begun_pretty (.array (List.forall_mem_nil _)) level
    obtain ⟨f, rfl⟩ := exists_fuel_eq_succ hbegun hfuel
    rw [pretty]
    rfl
  | cons v vs =>
    obtain ⟨⟨hplain, hv⟩, hvs⟩ := List.forall_mem_cons.1 hvs
    simp only [pretty, List.length_cons, List.length_append, List.length_nil] at hfuel
    obtain ⟨f, rfl⟩ : ∃ f, fuel = f + 1 := ⟨fuel - 1, by omega⟩
    have hitems := items_pretty (level + 1) level f rest hv (fun w hw => (hvs w hw).2)
      (by rw [List.length_append]; omega)
    obtain ⟨c, t, hbegin, hspace, hclose⟩ := (begun_pretty hplain (level + 1)).append
      (prettyItems (level + 1) vs ++ (indent level ++ ']' :: rest))
    have htext : pretty level (.array (v :: vs)) ++ rest =
        '[' :: (indent (level + 1) ++ c :: t) := by
      simp [pretty, ← hbegin]
    rw [htext, value, skip_of_not_isSpace rfl]
    simp only [skip_indent, skip_of_not_isSpace hspace]
    rw [hbegin] at hitems
    split
    · next heq => exact absurd (List.cons.inj heq).1 hclose
    · rw [hitems]
      rfl

/-- A member whose key can be written and whose value is read back. -/
def MemberReadBack (m : Text × Json) : Prop := ∃ k v, m = (some k, v) ∧ ReadBack v

/-- What is read of a member, whatever follows it. -/
theorem members_member {k : String} (hv : ReadBack v) (hrest : Ended rest)
    (hfuel : (prettyMember level (some k, v)).length ≤ fuel) :
    members (fuel + 1) (prettyMember level (some k, v) ++ rest) =
      match skip rest with
      | ',' :: s => do
        let (ms, s) ← members fuel s
        return ((some k, v) :: ms, s)
      | '\x7d' :: s => some ([(some k, v)], s)
      | _ => none := by
  have hmember : prettyMember level (some k, v) ++ rest =
      '"' :: (k.toList.flatMap escapeChar ++ '"' :: (':' :: ' ' :: (pretty level v ++ rest))) := by
    simp [prettyMember, quotedText, quoted]
  have hvalue : value fuel (' ' :: (pretty level v ++ rest)) = some (v, rest) := by
    have hblank : value fuel (' ' :: (pretty level v ++ rest)) =
        value fuel (pretty level v ++ rest) :=
      value_eq_of_skip_eq (skip_blank _) fuel
    simp only [prettyMember, List.length_append, List.length_cons] at hfuel
    rw [hblank]
    exact hv level fuel rest hrest (by omega)
  rw [hmember, members, skip_of_not_isSpace rfl]
  simp only [string_quoted, Option.bind_eq_bind, Option.bind_some,
    skip_of_not_isSpace (show isSpace ':' = false from rfl), hvalue]
  rfl

/-- Members are read one by one, up to the brace on the line after the last. -/
theorem members_pretty (level outer fuel : Nat) (rest : List Char) (hm : MemberReadBack m)
    (hms : ∀ n ∈ ms, MemberReadBack n)
    (hfuel : (prettyMember level m ++ prettyMembers level ms).length < fuel) :
    members fuel
        (prettyMember level m ++ (prettyMembers level ms ++ (indent outer ++ '\x7d' :: rest))) =
      some (m :: ms, rest) := by
  induction ms generalizing m fuel with
  | nil =>
    obtain ⟨f, rfl⟩ : ∃ f, fuel = f + 1 := ⟨fuel - 1, by omega⟩
    obtain ⟨k, v, rfl, hv⟩ := hm
    rw [List.length_append] at hfuel
    rw [prettyMembers, List.nil_append, members_member hv (ended_indent _ _) (by omega),
      skip_indent]
    rfl
  | cons n ms ih =>
    obtain ⟨f, rfl⟩ : ∃ f, fuel = f + 1 := ⟨fuel - 1, by omega⟩
    obtain ⟨k, v, rfl, hv⟩ := hm
    obtain ⟨hn, hms⟩ := List.forall_mem_cons.1 hms
    simp only [prettyMembers, List.length_append, List.length_cons] at hfuel
    have hlater := ih f hn hms (by rw [List.length_append]; omega)
    rw [prettyMembers, List.cons_append, members_member hv (ended_cons_comma _) (by omega),
      skip_of_not_isSpace rfl]
    simp only [List.append_assoc, members_indent, hlater]
    rfl

theorem readBack_object (hms : ∀ m ∈ ms, MemberReadBack m) : ReadBack (.object ms) := by
  intro level fuel rest hrest hfuel
  cases ms with
  | nil =>
    obtain ⟨f, rfl⟩ : ∃ f, fuel = f + 1 := ⟨fuel - 1, by simp [pretty] at hfuel; omega⟩
    rw [pretty]
    rfl
  | cons m ms =>
    obtain ⟨hm, hms⟩ := List.forall_mem_cons.1 hms
    simp only [pretty, List.length_cons, List.length_append, List.length_nil] at hfuel
    obtain ⟨f, rfl⟩ : ∃ f, fuel = f + 1 := ⟨fuel - 1, by omega⟩
    have hmembers := members_pretty (level + 1) level f rest hm hms
      (by rw [List.length_append]; omega)
    obtain ⟨t, hbegin⟩ : ∃ t, prettyMember (level + 1) m ++
        (prettyMembers (level + 1) ms ++ (indent level ++ '\x7d' :: rest)) = '"' :: t := by
      obtain ⟨k, v, rfl, -⟩ := hm
      exact ⟨_, rfl⟩
    have htext : pretty level (.object (m :: ms)) ++ rest =
        '\x7b' :: (indent (level + 1) ++ '"' :: t) := by
      simp [pretty, ← hbegin]
    rw [hbegin] at hmembers
    rw [htext, value, skip_of_not_isSpace rfl]
    simp only [skip_indent, skip_of_not_isSpace (show isSpace '"' = false from rfl)]
    split
    · next heq => cases (List.cons.inj heq).1
    · rw [hmembers]
      rfl

theorem Plain.readBack (hv : v.Plain) : ReadBack v := by
  induction hv with
  | null => exact readBack_null
  | bool b => exact readBack_bool b
  | int i => exact readBack_int i
  | text s => exact readBack_text s
  | array hplain ih => exact readBack_array fun v hv => ⟨hplain v hv, ih v hv⟩
  | object hkeys _ ih =>
    refine readBack_object fun m hm => ?_
    obtain ⟨k, hk⟩ := Option.isSome_iff_exists.1 (hkeys m hm)
    exact ⟨k, m.2, Prod.ext hk rfl, ih m hm⟩

/-- A document is read as the value it was written for, also with blanks after it. -/
theorem parse?_pretty (rest : List Char) (hv : v.Plain) (hrest : Ended rest)
    (hblank : skip rest = []) :
    parse? (String.ofList (pretty 0 v ++ rest)) = some v := by
  have hfuel : (pretty 0 v).length ≤ fuelFor (pretty 0 v ++ rest) := by
    rw [fuelFor, List.length_append]
    omega
  have hread := hv.readBack 0 _ rest hrest hfuel
  simp [parse?, hread, hblank]

end SpirvToolchain.Json
