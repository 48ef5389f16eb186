import SpirvToolchain.Files.Tree
import SpirvToolchain.Proofs.Artifact

/-! Where paths lead by their text: to the last name, looked up where the directory leads. -/
namespace SpirvToolchain

open SpirvToolchain.Path (separator)

namespace Path

theorem head_eq_separator_iff {p : List Char} : head p = [separator] ↔ isAbsolute p = true := by
  cases h : isAbsolute p with
  | true => simp [head, h]
  | false =>
    simp only [head, h, Bool.false_eq_true, if_false, iff_false]
    split <;> decide

theorem isAbsolute_joinOf {dir name : List Char} (hne : dir ≠ []) (hsep : separator ∉ name) :
    isAbsolute (joinOf dir name) = isAbsolute dir := by
  have hrel := isAbsolute_of_no_separator hsep
  obtain ⟨c, cs, rfl⟩ := List.exists_cons_of_ne_nil hne
  rw [joinOf, if_neg (by simp [hrel])]
  split <;> rfl

/-- A path without names lies in no directory. -/
theorem parent_of_body_nil {path : String} (h : body path.toList = []) : parent path = "" := by
  simp only [parent, parent?, directoryOf?, h]
  split <;> rfl

theorem parent_of_body_ne_nil {path : String} (hne : body path.toList ≠ []) :
    parent path =
      String.ofList (head path.toList ++ unsegments (dropIdle (body path.toList).dropLast)) := by
  rw [parent, parent?, directoryOf?_of_body_ne_nil hne]
  rfl

end Path

namespace Place

variable {base : Place} {path : String} {s : List Char} {ss : List (List Char)}

/-- On along the segments of a path. -/
def along (p : Place) (ss : List (List Char)) : Place := steps p (ss.map String.ofList)

theorem along_nil (p : Place) : along p [] = p := rfl

theorem along_cons (p : Place) (s : List Char) (ss : List (List Char)) :
    along p (s :: ss) = along (step p (String.ofList s)) ss := rfl

theorem along_append (p : Place) (ss tt : List (List Char)) :
    along p (ss ++ tt) = along (along p ss) tt := by
  simp [along, steps]

theorem step_of_idle (h : Path.isIdle s = true) (p : Place) : step p (String.ofList s) = p := by
  have hs : s = [] ∨ s = ['.'] := by simpa [Path.isIdle] using h
  rcases hs with rfl | rfl <;> simp [step]

theorem along_dropIdle (p : Place) (ss : List (List Char)) :
    along p (Path.dropIdle ss) = along p ss := by
  induction ss using List.reverseRecOn with
  | nil => rfl
  | append_singleton ss s ih =>
    cases hs : Path.isIdle s with
    | true =>
      have hdrop : Path.dropIdle (ss ++ [s]) = Path.dropIdle ss :=
        List.rdropWhile_concat_pos Path.isIdle ss s hs
      rw [hdrop, ih, along_append, along_cons, along_nil, step_of_idle hs]
    | false => rw [Path.dropIdle_concat ss hs]

/-- The head of a path leads nowhere by itself. -/
theorem along_drop_head (p : Place) (cs : List Char) :
    along p (Path.segments (cs.drop (Path.head cs).length)) = along p (Path.segments cs) := by
  have hidle (s : List Char) (hs : Path.isIdle s = true) (rest : List (List Char)) :
      along p (s :: rest) = along p rest := by
    rw [along_cons, step_of_idle hs]
  rcases Path.head_cases cs with hhead | hhead | hhead
  · have habs : cs.head? = some separator := by
      simpa [Path.isAbsolute] using Path.head_eq_separator_iff.1 hhead
    obtain ⟨rest, rfl⟩ := List.head?_eq_some_iff.1 habs
    rw [hhead, Path.segments, if_pos rfl, hidle [] rfl]
    rfl
  · rw [hhead]
    rcases Path.eq_of_head_dot hhead with rfl | ⟨rest, rfl⟩
    · exact (hidle [] rfl []).trans (hidle ['.'] rfl []).symm
    · have hdot : Path.segments ('.' :: separator :: rest) = ['.'] :: Path.segments rest :=
        Path.segments_append ['.'] rest
      have hsep : Path.segments (separator :: rest) = [] :: Path.segments rest := by
        simp [Path.segments]
      rw [hdot, hidle ['.'] rfl]
      exact (congrArg (along p) hsep).trans (hidle [] rfl _)
  · rw [hhead]
    rfl

theorem origin_eq (base : Place) (path : String) :
    origin base path = if Path.head path.toList = [separator] then [] else base := by
  simp only [origin, Path.head_eq_separator_iff]

theorem follow_eq_along_body (base : Place) (path : String) :
    follow base path = along (origin base path) (Path.body path.toList) := by
  rw [Path.body, along_dropIdle, along_drop_head]
  rfl

theorem follow_settled {h : List Char} (hs : Path.Settled h ss) (base : Place) :
    follow base (String.ofList (h ++ Path.unsegments ss)) =
      along (if h = [separator] then [] else base) ss := by
  rw [follow_eq_along_body, origin_eq, String.toList_ofList, hs.head_eq, hs.body_eq]

/-- A path leads one name on from where its directory leads. -/
theorem follow_eq_step (base : Place) (hne : Path.body path.toList ≠ []) :
    follow base path =
      step (follow base (Path.parent path))
        (String.ofList ((Path.body path.toList).getLast hne)) := by
  have hs := (Path.settled_body path.toList).take (List.dropLast_prefix _)
  have hlast : along (origin base path) (Path.body path.toList) =
      step (along (origin base path) (Path.body path.toList).dropLast)
        (String.ofList ((Path.body path.toList).getLast hne)) := by
    conv_lhs => rw [← List.dropLast_append_getLast hne]
    rw [along_append, along_cons, along_nil]
  rw [follow_eq_along_body, hlast, Path.parent_of_body_ne_nil hne, follow_settled hs,
    along_dropIdle, origin_eq]

@[simp] theorem follow_empty (base : Place) : follow base "" = base := by
  simp [follow, origin, names, Path.isAbsolute, Path.segments, steps, step]

/-- What a join looks up its name in: the directory, closed by a separator. -/
theorem along_joinOf (p : Place) {dir name : List Char} (hne : dir ≠ [])
    (hsep : separator ∉ name) :
    along p (Path.segments (Path.joinOf dir name)) =
      step (along p (Path.segments dir)) (String.ofList name) := by
  have hrel : Path.isAbsolute name = false := Path.isAbsolute_of_no_separator hsep
  have hname : Path.segments name = [name] := Path.segments_of_no_separator hsep
  by_cases hlast : dir.getLast? = some separator
  · obtain ⟨d, rfl⟩ := List.getLast?_eq_some_iff.1 hlast
    have hjoin : Path.joinOf (d ++ [separator]) name = d ++ separator :: name := by
      simp [Path.joinOf, hrel]
    have hempty (q : Place) : along q (Path.segments []) = q := step_of_idle (s := []) rfl q
    rw [hjoin, Path.segments_append, Path.segments_append, along_append, along_append, hname,
      hempty, along_cons, along_nil]
  · have hjoin : Path.joinOf dir name = dir ++ separator :: name := by
      simp [Path.joinOf, hrel, hne, hlast]
    rw [hjoin, Path.segments_append, along_append, hname, along_cons, along_nil]

/-- A name in a directory is one step on from there, however the directory is written. -/
theorem follow_join (base : Place) (dir : String) {name : String}
    (hsep : separator ∉ name.toList) :
    follow base (Path.join dir name) = step (follow base dir) name := by
  have hfollow (path : String) :
      follow base path = along (origin base path) (Path.segments path.toList) := rfl
  by_cases hempty : dir = ""
  · have hjoin : Path.join dir name = name := by
      simp [Path.join, Path.joinOf, hempty]
    have horigin : origin base name = base := by
      simp [origin, Path.isAbsolute_of_no_separator hsep]
    rw [hjoin, hempty, follow_empty, hfollow, horigin, Path.segments_of_no_separator hsep,
      along_cons, along_nil, String.ofList_toList]
  · have hne : dir.toList ≠ [] := mt String.toList_eq_nil_iff.1 hempty
    have horigin : origin base (Path.join dir name) = origin base dir := by
      simp only [origin, Path.join, String.toList_ofList, Path.isAbsolute_joinOf hne hsep]
    rw [hfollow, hfollow, horigin, Path.join, String.toList_ofList, along_joinOf _ hne hsep,
      String.ofList_toList]

theorem step_of_name {name : String} (h : Tree.isFileName name = true) (p : Place) :
    step p name = p ++ [name] := by
  simp only [Tree.isFileName, ne_eq, Bool.and_eq_true, decide_eq_true_eq] at h
  simp [step, h.1.1, h.1.2, h.2]

/-- Without a step up, each name leads one further down. -/
theorem steps_of_descending {ns : List String} (h : ".." ∉ ns) (p : Place) :
    steps p ns = p ++ ns.filter Tree.isFileName := by
  induction ns generalizing p with
  | nil => simp [steps]
  | cons n ns ih =>
    obtain ⟨hn, hns⟩ : ".." ≠ n ∧ ".." ∉ ns := by simpa using h
    have hcons : steps p (n :: ns) = steps (step p n) ns := rfl
    cases hname : Tree.isFileName n with
    | true => rw [hcons, ih hns, step_of_name hname, List.filter_cons_of_pos hname]; simp
    | false =>
      have hidle : step p n = p := by
        simp [Tree.isFileName] at hname
        simp [step]
        tauto
      rw [hcons, ih hns, hidle, List.filter_cons_of_neg (by simp [hname])]

/-- A path from the root leads to one place, wherever it is looked up. -/
theorem follow_of_isAbsolute (h : Path.isAbsolute path.toList = true) (base base' : Place) :
    follow base path = follow base' path := by
  simp [follow, origin, h]

/-- The directory of a path from the root is looked up from the root as well. -/
theorem follow_parent_of_isAbsolute (h : Path.isAbsolute path.toList = true) (base : Place) :
    follow (follow base (Path.parent path)) (Path.parent path) =
      follow base (Path.parent path) := by
  by_cases hne : Path.body path.toList = []
  · rw [Path.parent_of_body_nil hne, follow_empty]
  · have hs := (Path.settled_body path.toList).take (List.dropLast_prefix _)
    have habs : Path.isAbsolute (Path.parent path).toList = true := by
      rw [← Path.head_eq_separator_iff, Path.parent_of_body_ne_nil hne, String.toList_ofList,
        hs.head_eq, Path.head_eq_separator_iff, h]
    exact follow_of_isAbsolute habs _ _

theorem isFileName_artifact {filebase extension : String} (hb : ValidFilebase filebase)
    (he : extension ≠ "") : Tree.isFileName (filebase ++ "." ++ extension) = true := by
  have hbase : 1 ≤ filebase.length := Nat.one_le_iff_ne_zero.2 (by simpa using hb.1)
  have hextension : 1 ≤ extension.length := Nat.one_le_iff_ne_zero.2 (by simpa using he)
  have hlength : 3 ≤ (filebase ++ "." ++ extension).length := by
    simp only [String.length_append]
    have hdot : ".".length = 1 := rfl
    omega
  have hne (name : String) (hname : name.length < 3) : filebase ++ "." ++ extension ≠ name := by
    rintro rfl
    omega
  simp only [Tree.isFileName, ne_eq, Bool.and_eq_true, decide_eq_true_eq]
  exact ⟨⟨hne "" (by decide), hne "." (by decide)⟩, hne ".." (by decide)⟩

/-- An artifact lies where its directory leads. -/
theorem follow_artifactPath {filebase extension : String} (hb : ValidFilebase filebase)
    (he : extension ∈ Artifacts.extensions) (base : Place) (dir : String) :
    follow base (artifactPath dir filebase extension) =
      follow base dir ++ [filebase ++ "." ++ extension] := by
  have hne : extension ≠ "" := by
    rintro rfl
    simp [Artifacts.extensions] at he
  have hsep : separator ∉ (filebase ++ "." ++ extension).toList := by
    simpa using no_separator_of_validFilebase hb (Artifacts.no_separator_of_mem_extensions he)
  rw [artifactPath, follow_join base dir hsep, step_of_name (isFileName_artifact hb hne)]

/-- Each part of a place is a name that a file can have, and that a path can hold. -/
def Named (p : Place) : Prop :=
  ∀ name ∈ p, Tree.isFileName name = true ∧ separator ∉ name.toList

theorem toList_path (p : Place) :
    (Place.path p).toList = [separator] ++ Path.unsegments (p.map String.toList) := by
  simp [Place.path, Path.unsegments, separator, String.toList_intercalate]

theorem isIdle_of_isFileName {name : String} (h : Tree.isFileName name = true) :
    Path.isIdle name.toList = false := by
  simp only [Tree.isFileName, ne_eq, Bool.and_eq_true, decide_eq_true_eq] at h
  have hdot : name.toList ≠ ['.'] := fun heq => h.1.2 (String.toList_inj.1 heq)
  simp [Path.isIdle, hdot, h.1.1]

/-- What a path ends in is a name that a file can have. -/
theorem named_of_fileName? {name : String} (h : Path.fileName? path = some name) : Named [name] := by
  obtain ⟨cs, hcs, rfl⟩ := Option.map_eq_some_iff.1 h
  obtain ⟨hlast, hup⟩ := Option.filter_eq_some_iff.1 hcs
  obtain ⟨init, hbody⟩ := List.getLast?_eq_some_iff.1 hlast
  have hs := Path.settled_body path.toList
  have hne : Path.body path.toList ≠ [] := by simp [hbody]
  have hidle : Path.isIdle cs = false := by simpa [hbody] using hs.last_not_idle hne
  have hsep : separator ∉ cs := hs.noSeparator cs (by simp [hbody])
  intro name hname
  obtain rfl := List.mem_singleton.1 hname
  have hname (t : String) (ht : cs ≠ t.toList) : String.ofList cs ≠ t := by
    rintro rfl
    exact ht String.toList_ofList.symm
  have hparts : (cs ≠ [] ∧ cs ≠ ['.']) ∧ cs ≠ ['.', '.'] := by
    simpa [Path.isIdle] using And.intro hidle hup
  refine ⟨?_, by rwa [String.toList_ofList]⟩
  simp only [Tree.isFileName, ne_eq, Bool.and_eq_true, decide_eq_true_eq]
  exact ⟨⟨hname "" hparts.1.1, hname "." hparts.1.2⟩, hname ".." hparts.2⟩

namespace Named

variable {p : Place} {name : String}

theorem settled (h : Named p) : Path.Settled [separator] (p.map String.toList) where
  opens := .root _
  noSeparator := by
    intro s hs
    obtain ⟨name, hname, rfl⟩ := List.mem_map.1 hs
    exact (h name hname).2
  trimmed := by
    rcases List.eq_nil_or_concat p with rfl | ⟨init, last, rfl⟩
    · rfl
    · rw [List.concat_eq_append, List.map_append]
      exact Path.dropIdle_concat _ (isIdle_of_isFileName (h last (by simp)).1)

/-- A place is where its path leads. -/
theorem follow_path (h : Named p) (base : Place) : follow base p.path = p := by
  have hpath : p.path = String.ofList ([separator] ++ Path.unsegments (p.map String.toList)) := by
    rw [← toList_path, String.ofList_toList]
  have hnames : (p.map String.toList).map String.ofList = p := by simp
  have hup : ".." ∉ p := fun hmem => absurd (h ".." hmem).1 (by decide)
  have hall : p.filter Tree.isFileName = p := List.filter_eq_self.2 fun name hname => (h name hname).1
  rw [hpath, follow_settled h.settled, if_pos rfl, along, hnames, steps_of_descending hup, hall,
    List.nil_append]

theorem path_concat (h : Named p) (hsep : separator ∉ name.toList) :
    Place.path (p ++ [name]) = Path.join p.path name := by
  have hjoined : Path.joined [separator] (p.map String.toList) name.toList =
      (p ++ [name]).map String.toList := by
    simp [Path.joined, separator]
  rw [← String.toList_inj, Path.join, String.toList_ofList, toList_path, toList_path,
    h.settled.joinOf_eq hsep, hjoined]

theorem parent_path_concat (h : Named p) (hname : Tree.isFileName name = true)
    (hsep : separator ∉ name.toList) : Path.parent (Place.path (p ++ [name])) = p.path := by
  have hdirectory := h.settled.directoryOf?_joinOf (isIdle_of_isFileName hname) hsep
  rw [h.path_concat hsep, Path.parent, Path.parent?, Path.join, String.toList_ofList, toList_path,
    hdirectory, ← toList_path]
  simp

end Named

end Place

end SpirvToolchain
