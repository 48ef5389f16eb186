import Mathlib.Data.List.Forall2
import SpirvToolchain.Config.Decode
import SpirvToolchain.Proofs.Dict
import SpirvToolchain.Proofs.Json.Decode

/-! Documents with fields left out, added and put in another order, and what is read from them. -/
namespace SpirvToolchain

/-- The fields that are left out, by their paths from the top of a document. -/
abbrev Deletion := List String → Bool

namespace Deletion

def nothing : Deletion := fun _ => false

/-- What is left out below a field or a key. -/
def below (x : Deletion) (name : String) : Deletion := fun path => x (name :: path)

/-- The value of a field, or the default in its place. -/
def leave {α : Type} (x : Deletion) (name : String) (default value : α) : α :=
  if x [name] then default else value

end Deletion

namespace Json

/-- How a value differs from the one that was written, once some fields are left out. -/
abbrev Change := Deletion → Json → Json → Prop

namespace Change

/-- Nothing can be left out of the value. -/
def leaf : Change := fun _ j j' => j' = j

/-- A member under its old name, with its value changed by what is left out below it. -/
def Follows (change : String → Change) (x : Deletion) (m m' : String × Json) : Prop :=
  m'.1 = m.1 ∧ change m.1 (x.below m.1) m.2 m'.2

/-- A map keeps all its keys, in any order. -/
def map (change : Change) : Change := fun x j j' =>
  ∃ ms kept ms', j = .record ms ∧ List.Forall₂ (Follows (fun _ => change) x) ms kept ∧
    ms'.Perm kept ∧ j' = .record ms'

/-- The change of a field. -/
def ofField (fields : List (String × Change)) (name : String) : Change :=
  (fields.lookup name).getD leaf

/-- A record loses the fields that are left out, and may gain others that are none of its own. -/
def record (fields : List (String × Change)) : Change := fun x j j' =>
  ∃ ms kept strange ms', j = .record ms ∧
    List.Forall₂ (Follows (ofField fields) x) (ms.filter fun m => !x [m.1]) kept ∧
    (∀ m ∈ strange, m.1 ∉ fields.map (·.1)) ∧ ms'.Perm (kept ++ strange) ∧ j' = .record ms'

/-- A record none of whose fields has fields of its own. -/
def flat (names : List String) : Change := record (names.map fun name => (name, leaf))

end Change

open Change

variable {α : Type} {x : Deletion} {j : Json} {name : String} {change : Change}
  {fields : List (String × Change)} {ms ms' kept : List (String × Json)}

theorem record_inj : Json.record ms = .record ms' ↔ ms = ms' := by
  constructor
  · intro h
    have hread := congrArg members? h
    rw [members?_record, members?_record] at hread
    exact Option.some.inj hread
  · exact congrArg _

theorem Change.Follows.keys_eq {change : String → Change}
    (h : List.Forall₂ (Follows change x) ms kept) : kept.map (·.1) = ms.map (·.1) := by
  induction h with
  | nil => rfl
  | cons hm _ ih => rw [List.map_cons, List.map_cons, hm.1, ih]

theorem Change.Follows.lookup {change : String → Change}
    (h : List.Forall₂ (Follows change x) ms kept) (name : String) :
    Option.Rel (change name (x.below name)) (ms.lookup name) (kept.lookup name) := by
  induction h with
  | nil => exact .none
  | @cons m m' ms kept hm _ ih =>
    obtain ⟨hname, hchange⟩ := hm
    rw [Dict.lookup_cons_eq_ite, Dict.lookup_cons_eq_ite, hname]
    split
    · next heq =>
      subst heq
      exact .some hchange
    · exact ih

theorem lookup_filter (keep : String → Bool) (ms : List (String × Json)) (name : String) :
    (ms.filter fun m => keep m.1).lookup name = if keep name then ms.lookup name else none := by
  induction ms with
  | nil => simp
  | cons m ms ih =>
    rw [List.filter_cons]
    by_cases hm : keep m.1 = true
    · rw [if_pos hm, Dict.lookup_cons_eq_ite, Dict.lookup_cons_eq_ite, ih]
      split
      · next heq => rw [heq, if_pos hm]
      · rfl
    · rw [if_neg hm, Dict.lookup_cons_eq_ite, ih]
      split
      · next hkeep =>
        have hne : name ≠ m.1 := fun heq => hm (heq ▸ hkeep)
        rw [if_neg hne]
      · rfl

theorem lookup_eq_of_perm (h : ms.Perm ms') (hnodup : (ms.map (·.1)).Nodup) (name : String) :
    ms.lookup name = ms'.lookup name := by
  induction h with
  | nil => rfl
  | cons m _ ih =>
    rw [List.map_cons, List.nodup_cons] at hnodup
    rw [Dict.lookup_cons_eq_ite, Dict.lookup_cons_eq_ite, ih hnodup.2]
  | swap m n ms =>
    have hne : n.1 ≠ m.1 := fun heq => by simp [heq] at hnodup
    simp only [Dict.lookup_cons_eq_ite]
    split
    · next heq => rw [if_neg (heq ▸ hne)]
    · rfl
  | trans h _ ih ih' => exact (ih hnodup).trans (ih' ((h.map _).nodup_iff.1 hnodup))

/-- The fields that a decoder gets to see: of those of the value, all that are not left out. -/
def Fields.Kept (fs : Fields) (fields : List (String × Change)) (x : Deletion)
    (ms : List (String × Json)) : Prop :=
  ∀ name, Option.Rel (ofField fields name (x.below name))
    (if x [name] then none else ms.lookup name) (fs.lookup name)

theorem exists_fields? (d : Dialect) (h : Change.record fields x (.record ms) j)
    (hnames : ms.map (·.1) = fields.map (·.1)) (hnodup : (fields.map (·.1)).Nodup) :
    ∃ fs, fields? d (fields.map (·.1)) j = some fs ∧ Fields.Kept fs fields x ms := by
  obtain ⟨ms₀, kept, strange, ms', hms, hkept, hstrange, hperm, rfl⟩ := h
  obtain rfl := record_inj.1 hms
  have hkeys : (kept.map (·.1)).Sublist (ms.map (·.1)) := by
    rw [Follows.keys_eq hkept]
    exact List.filter_sublist.map _
  have hown : ∀ m ∈ kept, m.1 ∈ fields.map (·.1) := by
    intro m hm
    rw [← hnames]
    exact hkeys.subset (List.mem_map_of_mem hm)
  -- The strange members are passed over, so that only the kept ones can be there twice.
  have hknown : (ms'.filter (·.1 ∈ fields.map (·.1))).Perm kept := by
    refine (hperm.filter _).trans (List.Perm.of_eq ?_)
    rw [List.filter_append, List.filter_eq_self.2 (by simpa using hown),
      List.filter_eq_nil_iff.2 (by simpa using hstrange), List.append_nil]
  have honce : (kept.map (·.1)).Nodup := hkeys.nodup (hnames ▸ hnodup)
  have hread : fields? d (fields.map (·.1)) (.record ms') =
      some (ms'.filter (·.1 ∈ fields.map (·.1))) := by
    have hmembers := members?_record ms'
    rw [Json.record, members?] at hmembers
    rw [Json.record, fields?, hmembers, Option.bind_eq_bind, Option.bind_some]
    exact if_pos ((hknown.map _).nodup_iff.2 honce)
  refine ⟨_, hread, fun name => ?_⟩
  have hlookup := Follows.lookup hkept name
  rw [lookup_filter (fun name => !x [name])] at hlookup
  rw [lookup_eq_of_perm hknown ((hknown.map _).nodup_iff.2 honce)]
  cases hx : x [name] <;> simpa [hx] using hlookup

theorem exists_fields?_flat (d : Dialect) {names : List String} (h : flat names x (.record ms) j)
    (hnames : ms.map (·.1) = names) (hnodup : names.Nodup) :
    ∃ fs, fields? d names j = some fs ∧
      Fields.Kept fs (names.map fun name => (name, leaf)) x ms := by
  have hfields : (names.map fun name => (name, leaf)).map (·.1) = names := by
    rw [List.map_map]
    exact List.map_id names
  have hread := exists_fields? d h (hnames.trans hfields.symm) (hfields.symm ▸ hnodup)
  rwa [hfields] at hread

theorem ofField_flat (names : List String) (name : String) :
    ofField (names.map fun name => (name, leaf)) name = leaf := by
  induction names with
  | nil => rfl
  | cons n names ih =>
    rw [ofField] at ih ⊢
    rw [List.map_cons, Dict.lookup_cons_eq_ite]
    split
    · rfl
    · exact ih

/-- A change that leaves nothing out may leave a value as it is. -/
theorem map_nothing {encode : α → Json} (h : ∀ a, change .nothing (encode a) (encode a))
    (d : Dict α) :
    Change.map change .nothing (d.toJson encode) (d.toJson encode) := by
  refine ⟨_, _, _, rfl, List.forall₂_same.2 fun m hm => ⟨rfl, ?_⟩, List.Perm.refl _, rfl⟩
  obtain ⟨e, -, rfl⟩ := List.mem_map.1 hm
  exact h e.2

theorem record_nothing (h : ∀ m ∈ ms, ofField fields m.1 .nothing m.2 m.2) :
    Change.record fields .nothing (.record ms) (.record ms) := by
  have hall : (ms.filter fun m => !Deletion.nothing [m.1]) = ms := List.filter_true ms
  refine ⟨ms, ms, [], ms, rfl, ?_, List.forall_mem_nil _,
    List.Perm.of_eq (List.append_nil ms).symm, rfl⟩
  rw [hall]
  exact List.forall₂_same.2 fun m hm => ⟨rfl, h m hm⟩

theorem flat_of_perm {names : List String} (strange : List (String × Json))
    (hstrange : ∀ m ∈ strange, m.1 ∉ names)
    (hperm : ms'.Perm ((ms.filter fun m => !x [m.1]) ++ strange)) :
    flat names x (.record ms) (.record ms') := by
  refine ⟨ms, _, strange, ms', rfl, List.forall₂_same.2 fun m _ => ⟨rfl, ?_⟩, ?_, hperm, rfl⟩
  · rw [ofField_flat]
    rfl
  · simpa [Function.comp_def] using hstrange

theorem flat_nothing (names : List String) (ms : List (String × Json)) :
    flat names .nothing (.record ms) (.record ms) := by
  have hall : (ms.filter fun m => !Deletion.nothing [m.1]) = ms := List.filter_true ms
  refine flat_of_perm [] (List.forall_mem_nil _) (List.Perm.of_eq ?_)
  rw [hall, List.append_nil]

/-- Documents that were changed so are read as the value with those fields reset. -/
def Reads (change : Change) (encode : α → Json) (read? : Json → Option α)
    (reset : Deletion → α → α) : Prop :=
  ∀ x a j, change x (encode a) j → read? j = some (reset x a)

theorem reads_leaf {encode : α → Json} {read? : Json → Option α}
    (h : ∀ a, read? (encode a) = some a) : Reads leaf encode read? fun _ a => a := by
  rintro x a j rfl
  exact h a

theorem Reads.map {encode : α → Json} {read? : Json → Option α} {reset : Deletion → α → α}
    (h : Reads change encode read? reset) :
    Reads (Change.map change) (Dict.toJson encode) (dict? read?)
      fun x d => d.mapKeyed fun key a => reset (x.below key) a := by
  rintro x d j ⟨ms, kept, ms', hms, hkept, hperm, rfl⟩
  obtain rfl := record_inj.1 hms
  have hread : List.Forall₂ (fun m e => ((read? m.2).map fun v => (m.1, v)) = some e) kept
      (d.mapKeyed fun key a => reset (x.below key) a).entries := by
    refine List.forall₂_map_right_iff.2 (List.Forall₂.flip ?_)
    refine (List.forall₂_map_left_iff.1 hkept).imp ?_
    rintro e m ⟨hname, hchange⟩
    change ((read? m.2).map fun v => (m.1, v)) = some (e.1, reset (x.below e.1) e.2)
    rw [h _ _ _ hchange, hname]
    rfl
  obtain ⟨entries, hentries, hsame⟩ := List.perm_comp_forall₂ hperm hread
  rw [dict?, members?_record, Option.bind_eq_bind, Option.bind_some, mapM_eq_some hentries]
  exact congrArg some (Dict.ofList_eq_of_perm hsame)

/-- A field is read as its value, or has the default if it is left out. -/
theorem Fields.Kept.get_eq {fs : Fields} (h : fs.Kept fields x ms) {encode : α → Json}
    {read? : Json → Option α} {reset : Deletion → α → α} (hread : Reads change encode read? reset)
    (hchange : ofField fields name = change) {a : α} (hvalue : ms.lookup name = some (encode a))
    (default : α) :
    fs.get name read? default = some (x.leave name default (reset (x.below name) a)) := by
  have hkept := h name
  rw [hchange, hvalue] at hkept
  rw [Fields.get, Deletion.leave]
  by_cases hx : x [name] = true
  · rw [if_pos hx] at hkept ⊢
    cases hfound : fs.lookup name with
    | none => rfl
    | some j =>
      rw [hfound] at hkept
      cases hkept
  · rw [if_neg hx] at hkept ⊢
    cases hfound : fs.lookup name with
    | none =>
      rw [hfound] at hkept
      cases hkept
    | some j =>
      rw [hfound] at hkept
      cases hkept with
      | some hchanged => exact hread _ _ _ hchanged

end Json

end SpirvToolchain
