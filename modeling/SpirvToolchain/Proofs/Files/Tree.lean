import SpirvToolchain.Files.Tree

/-! What is found where a path leads, what a write leaves, and what is the same in two trees. -/
namespace SpirvToolchain.Tree

/-- The same lies everywhere, except in a directory. -/
def SameOutside (dir : Place) (t u : Tree) : Prop :=
  ∀ place, ¬ dir <+: place → t.node? place = u.node? place

namespace SameOutside

variable {dir place : Place} {t u v : Tree}

theorem refl (dir : Place) (t : Tree) : SameOutside dir t t := fun _ _ => rfl

theorem trans (h : SameOutside dir t u) (h' : SameOutside dir u v) : SameOutside dir t v :=
  fun place hplace => (h place hplace).trans (h' place hplace)

theorem put (h : dir <+: place) (node : Node) (t : Tree) : SameOutside dir (t.put place node) t := by
  intro other hother
  refine node?_put_of_ne ?_
  rintro rfl
  exact hother h

theorem prune (dir : Place) (t : Tree) : SameOutside dir (t.prune dir) t := by
  intro place hplace
  simp only [Tree.prune, List.isPrefixOf_iff_prefix, if_neg hplace]

end SameOutside

variable {t left : Tree} {base place : Place} {path text : String}

theorem resolve_eq_follow (h : t.resolve base path = .ok place) : place = Place.follow base path := by
  simp only [resolve, names, bind, Except.bind] at h
  split at h
  · cases h
  · next ns hnames =>
    split at hnames
    · cases hnames
    split at hnames
    · cases hnames
    split at hnames
    · cases hnames
    · obtain rfl := Except.ok.inj hnames
      exact walk_eq_steps h

/-- What is found lies where the text of the path leads. -/
theorem exists_node_of_has (h : t.has base path = true) :
    ∃ node, t.node? (Place.follow base path) = some node := by
  cases hresolve : t.resolve base path with
  | error e =>
    simp [has, find, hresolve, bind, Except.bind, Except.isOk, Except.toBool] at h
  | ok place =>
    obtain rfl := resolve_eq_follow hresolve
    cases hnode : t.node? (Place.follow base path) with
    | none =>
      simp [has, find, hresolve, hnode, bind, Except.bind, Except.isOk, Except.toBool] at h
    | some node => exact ⟨node, rfl⟩

/-- A text that is written lies at the target, unless a device takes it; nothing else changes. -/
theorem writeText_eq_ok (h : t.writeText base path text = .ok left) :
    ∃ place, t.target base path = .ok place ∧
      (left = t ∧ (∃ device, t.node? place = some (.device device)) ∨
        left = t.put place (.file (Text.Utf8.encode text.toList) (t.isExecutable place))) := by
  simp only [writeText, write, bind, Except.bind] at h
  split at h
  · cases h
  · next place htarget =>
    refine ⟨place, htarget, ?_⟩
    split at h
    · next device hdevice =>
      split at h
      · cases h
      · exact .inl ⟨(Except.ok.inj h).symm, device, hdevice⟩
    · exact .inr (Except.ok.inj h).symm

end SpirvToolchain.Tree
