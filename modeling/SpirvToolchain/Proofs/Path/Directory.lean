import Mathlib.Data.List.DropRight
import SpirvToolchain.Path

/-! Directories as paths give them: what is put into one has it as its directory again. -/
namespace SpirvToolchain.Path

variable {p h name s : List Char} {ss : List (List Char)}

theorem unsegments_cons_cons (s t : List Char) (rest : List (List Char)) :
    unsegments (s :: t :: rest) = s ++ separator :: unsegments (t :: rest) := by
  simp [unsegments, List.intercalate_cons_cons]

theorem unsegments_singleton (s : List Char) : unsegments [s] = s := by
  simp [unsegments]

theorem segments_of_no_separator (hs : separator ∉ s) : segments s = [s] := by
  induction s with
  | nil => rfl
  | cons c cs ih =>
    simp only [List.mem_cons, not_or] at hs
    simp [segments, Ne.symm hs.1, ih hs.2]

theorem segments_append (a b : List Char) :
    segments (a ++ separator :: b) = segments a ++ segments b := by
  induction a with
  | nil => simp [segments]
  | cons c a ih =>
    obtain ⟨s, rest, hs⟩ := List.exists_cons_of_ne_nil (segments_ne_nil a)
    rw [List.cons_append, segments, segments, ih, hs]
    split <;> simp

theorem segments_unsegments (hne : ss ≠ []) (hs : ∀ s ∈ ss, separator ∉ s) :
    segments (unsegments ss) = ss := by
  induction ss with
  | nil => exact absurd rfl hne
  | cons s rest ih =>
    obtain ⟨hs₁, hrest⟩ := List.forall_mem_cons.mp hs
    cases rest with
    | nil => rw [unsegments_singleton, segments_of_no_separator hs₁]
    | cons t rest =>
      rw [unsegments_cons_cons, segments_append, segments_of_no_separator hs₁,
        ih (by simp) hrest]
      rfl

theorem no_separator_of_mem_segments (hs : s ∈ segments p) : separator ∉ s := by
  induction p generalizing s with
  | nil => simp_all [segments]
  | cons c cs ih =>
    simp only [segments] at hs
    split at hs
    · rcases List.mem_cons.mp hs with rfl | hs
      · simp
      · exact ih hs
    · next hc =>
      cases hcs : segments cs with
      | nil => exact absurd hcs (segments_ne_nil cs)
      | cons t rest =>
        rw [hcs] at hs
        rcases List.mem_cons.mp hs with rfl | hs
        · have ht : separator ∉ t := ih (by simp [hcs])
          simp [Ne.symm hc, ht]
        · exact ih (by simp [hcs, hs])

theorem dropIdle_prefix_self (ss : List (List Char)) : dropIdle ss <+: ss :=
  List.rdropWhile_prefix isIdle ss

theorem dropIdle_idem (ss : List (List Char)) : dropIdle (dropIdle ss) = dropIdle ss :=
  List.rdropWhile_idempotent isIdle ss

theorem dropIdle_concat (ss : List (List Char)) (hs : isIdle s = false) :
    dropIdle (ss ++ [s]) = ss ++ [s] :=
  List.rdropWhile_concat_neg isIdle ss s (by simp [hs])

theorem body_prefix_segments (p : List Char) : body p <+: segments (p.drop (head p).length) :=
  dropIdle_prefix_self _

theorem head_cases (p : List Char) : head p = [separator] ∨ head p = ['.'] ∨ head p = [] := by
  unfold head
  split
  · exact .inl rfl
  · split
    · exact .inr (.inl rfl)
    · exact .inr (.inr rfl)

@[simp] theorem head_separator (cs : List Char) : head (separator :: cs) = [separator] := by
  simp [head, isAbsolute]

@[simp] theorem head_dot : head ['.'] = ['.'] := by decide

@[simp] theorem head_dot_separator (cs : List Char) : head ('.' :: separator :: cs) = ['.'] := by
  simp [head, isAbsolute, separator]

theorem eq_of_head_dot (hp : head p = ['.']) : p = ['.'] ∨ ∃ cs, p = '.' :: separator :: cs := by
  unfold head at hp
  split at hp
  · simp [separator] at hp
  · split at hp
    · next hdot =>
      rcases hdot with hdot | hdot
      · exact .inl hdot
      · obtain ⟨cs, hcs⟩ := List.isPrefixOf_iff_prefix.mp hdot
        exact .inr ⟨cs, by simp [← hcs]⟩
    · simp at hp

/-- What starts with a name has no head. -/
theorem head_append (hs : isIdle s = false) (hsep : separator ∉ s) (tail : List Char) :
    head (s ++ tail) = [] := by
  obtain ⟨hne, hdot⟩ : s ≠ [] ∧ s ≠ ['.'] := by simpa [isIdle] using hs
  obtain ⟨c, cs, rfl⟩ := List.exists_cons_of_ne_nil hne
  obtain ⟨hc, hcs⟩ : separator ≠ c ∧ separator ∉ cs := by simpa using hsep
  have habs : isAbsolute (c :: cs ++ tail) = false := by simp [isAbsolute, Ne.symm hc]
  have hdots : ¬ (c :: cs ++ tail = ['.'] ∨ ['.', separator].isPrefixOf (c :: cs ++ tail)) := by
    rw [List.isPrefixOf_iff_prefix]
    cases cs with
    | nil =>
      have hc' : c ≠ '.' := by simpa using hdot
      simp [hc', hc'.symm]
    | cons d ds =>
      have hd : separator ≠ d := by
        simp only [List.mem_cons, not_or] at hcs
        exact hcs.1
      simp [hd]
  rw [head, habs, if_neg (by simp), if_neg hdots]

theorem unsegments_cons (s : List Char) (ss : List (List Char)) :
    ∃ tail, unsegments (s :: ss) = s ++ tail := by
  cases ss with
  | nil => exact ⟨[], by simp [unsegments_singleton]⟩
  | cons t rest => exact ⟨_, unsegments_cons_cons s t rest⟩

/-- How a head and the segments after it go together in a path. -/
inductive Opens : List Char → List (List Char) → Prop
  | root (ss : List (List Char)) : Opens [separator] ss
  | dot {ss : List (List Char)} (hs : ∀ s ∈ ss.head?, s = []) : Opens ['.'] ss
  | bare {ss : List (List Char)} (hs : ∀ s ∈ ss.head?, isIdle s = false) : Opens [] ss

theorem Opens.mono {tt : List (List Char)} (ho : Opens h ss) (hp : tt <+: ss) :
    Opens h tt := by
  have hhead : ∀ s ∈ tt.head?, s ∈ ss.head? := by
    obtain ⟨rest, rfl⟩ := hp
    cases tt <;> simp
  cases ho with
  | root => exact .root tt
  | dot hs => exact .dot fun s hs' => hs s (hhead s hs')
  | bare hs => exact .bare fun s hs' => hs s (hhead s hs')

/-- A path without a head starts with a name, unless it is empty. -/
theorem not_idle_of_head_nil (hp : head p = []) : ∀ s ∈ (body p).head?, isIdle s = false := by
  intro s hs
  obtain ⟨rest, hrest⟩ := body_prefix_segments p
  obtain ⟨ss, hss⟩ := List.head?_eq_some_iff.mp hs
  have hseg : segments p = s :: (ss ++ rest) := by simpa [hp, hss] using hrest.symm
  have hpath : unsegments (s :: (ss ++ rest)) = p := by rw [← hseg, unsegments_segments]
  by_contra hidle
  have hcase : s = [] ∨ s = ['.'] := by
    by_contra hne
    exact hidle (by simpa [isIdle] using hne)
  cases htail : ss ++ rest with
  | nil =>
    rw [htail, unsegments_singleton] at hpath
    subst hpath
    rcases hcase with rfl | rfl
    · simp [body, hp, segments, dropIdle, isIdle] at hss
    · simp at hp
  | cons t tail =>
    rw [htail, unsegments_cons_cons] at hpath
    subst hpath
    rcases hcase with rfl | rfl <;> simp at hp

theorem opens_body (p : List Char) : Opens (head p) (body p) := by
  rcases head_cases p with hp | hp | hp
  · rw [hp]
    exact .root _
  · rw [hp]
    have hseg : Opens ['.'] (segments (p.drop 1)) := by
      refine .dot fun s hs => ?_
      rcases eq_of_head_dot hp with rfl | ⟨cs, rfl⟩ <;> simp_all [segments]
    exact hseg.mono (by simpa [hp] using body_prefix_segments p)
  · rw [hp]
    exact .bare (not_idle_of_head_nil hp)

/-- A head and segments that make up a path without an idle part at its end. -/
structure Settled (h : List Char) (ss : List (List Char)) : Prop where
  opens : Opens h ss
  noSeparator : ∀ s ∈ ss, separator ∉ s
  trimmed : dropIdle ss = ss

theorem settled_nil : Settled [] [] := ⟨.bare (by simp), by simp, rfl⟩

theorem Settled.last_not_idle (hs : Settled h ss) (hne : ss ≠ []) :
    isIdle (ss.getLast hne) = false := by
  simpa using List.rdropWhile_eq_self_iff.mp hs.trimmed hne

theorem Settled.head_eq (hs : Settled h ss) : head (h ++ unsegments ss) = h := by
  cases hs.opens with
  | root => simp
  | dot hdot =>
    cases ss with
    | nil => simp [unsegments]
    | cons s rest =>
      obtain rfl : s = [] := hdot s (by simp)
      cases rest with
      | nil => simpa [isIdle] using hs.last_not_idle (by simp)
      | cons t rest => simp [unsegments_cons_cons]
  | bare hname =>
    cases ss with
    | nil => rfl
    | cons s rest =>
      obtain ⟨tail, htail⟩ := unsegments_cons s rest
      rw [List.nil_append, htail]
      exact head_append (hname s (by simp)) (hs.noSeparator s (by simp)) tail

/-- A settled path falls apart into the segments it was made of. -/
theorem Settled.body_eq (hs : Settled h ss) : body (h ++ unsegments ss) = ss := by
  have hdrop : (h ++ unsegments ss).drop h.length = unsegments ss := by simp
  rw [body, hs.head_eq, hdrop]
  cases hss : ss with
  | nil => rfl
  | cons s rest => rw [← hss, segments_unsegments (by simp [hss]) hs.noSeparator, hs.trimmed]

theorem Settled.take (hs : Settled h ss) {tt : List (List Char)} (hp : tt <+: ss) :
    Settled h (dropIdle tt) where
  opens := hs.opens.mono ((dropIdle_prefix_self tt).trans hp)
  noSeparator s hmem := hs.noSeparator s (hp.subset ((dropIdle_prefix_self tt).subset hmem))
  trimmed := dropIdle_idem tt

theorem settled_body (p : List Char) : Settled (head p) (body p) where
  opens := opens_body p
  noSeparator _ hmem := no_separator_of_mem_segments ((body_prefix_segments p).subset hmem)
  trimmed := dropIdle_idem _

/-- The directory of a path is settled, and so is the empty one of a path that has none. -/
theorem exists_settled_directory (p : List Char) :
    ∃ h ss, Settled h ss ∧ (directoryOf? p).getD [] = h ++ unsegments ss := by
  unfold directoryOf?
  cases hb : body p with
  | nil =>
    refine ⟨[], [], settled_nil, ?_⟩
    simp only
    split <;> rfl
  | cons b bs =>
    have hs : Settled (head p) (b :: bs) := hb ▸ settled_body p
    exact ⟨_, _, hs.take (List.dropLast_prefix _), rfl⟩

theorem unsegments_concat (hne : ss ≠ []) (s : List Char) :
    unsegments (ss ++ [s]) = unsegments ss ++ separator :: s := by
  induction ss with
  | nil => exact absurd rfl hne
  | cons t rest ih =>
    cases rest with
    | nil => simp [unsegments_cons_cons, unsegments_singleton]
    | cons u rest =>
      rw [List.cons_append, List.cons_append, unsegments_cons_cons, ← List.cons_append,
        ih (by simp), unsegments_cons_cons]
      simp

/-- A settled path ends in a name, unless it is no more than a head. -/
theorem Settled.ends_in_name (hs : Settled h ss) (hne : ss ≠ []) :
    ∃ start s, h ++ unsegments ss = start ++ s ∧ s ≠ [] ∧ separator ∉ s := by
  obtain ⟨init, s, rfl⟩ := List.eq_nil_or_concat ss |>.resolve_left hne
  have hidle : isIdle s = false := by simpa using hs.last_not_idle hne
  have hnil : s ≠ [] := by
    rintro rfl
    simp [isIdle] at hidle
  have hsep : separator ∉ s := hs.noSeparator s (by simp)
  cases init with
  | nil => exact ⟨h, s, by simp [unsegments_singleton], hnil, hsep⟩
  | cons t rest =>
    refine ⟨h ++ unsegments (t :: rest) ++ [separator], s, ?_, hnil, hsep⟩
    rw [List.concat_eq_append, unsegments_concat (by simp)]
    simp

theorem isAbsolute_of_no_separator (hsep : separator ∉ p) : isAbsolute p = false := by
  cases p with
  | nil => rfl
  | cons c cs =>
    simp only [List.mem_cons, not_or] at hsep
    simp [isAbsolute, Ne.symm hsep.1]

/-- The segments of a join; a lone dot is closed by a separator first. -/
def joined (h : List Char) (ss : List (List Char)) (name : List Char) : List (List Char) :=
  if h = ['.'] ∧ ss = [] then [[], name] else ss ++ [name]

theorem Settled.joinOf_eq (hs : Settled h ss) (hsep : separator ∉ name) :
    joinOf (h ++ unsegments ss) name = h ++ unsegments (joined h ss name) := by
  have hrel := isAbsolute_of_no_separator hsep
  by_cases hne : ss = []
  · subst hne
    cases hs.opens <;>
      simp [joinOf, joined, hrel, unsegments, List.intercalate_cons_cons, separator]
  · -- What ends in a name does not end in a separator, so the join puts one in.
    obtain ⟨start, s, hpath, hnil, hs'⟩ := hs.ends_in_name hne
    have hlast : (start ++ s).getLast? ≠ some separator := by
      rw [List.getLast?_append_of_ne_nil _ hnil]
      intro hlast
      exact hs' (List.mem_of_getLast? hlast)
    rw [joinOf, hpath, if_neg (by simp [hrel, hnil]), if_neg hlast, ← hpath, joined,
      if_neg (by simp [hne]), unsegments_concat hne, List.append_assoc]

theorem joined_ne_nil : joined h ss name ≠ [] := by
  unfold joined
  split <;> simp

theorem Settled.dropLast_joined (hs : Settled h ss) :
    dropIdle (joined h ss name).dropLast = ss := by
  unfold joined
  split
  · next hdot => simp [hdot.2, dropIdle, isIdle]
  · rw [List.dropLast_concat, hs.trimmed]

theorem Settled.opens_joined (hs : Settled h ss) (hname : isIdle name = false) :
    Opens h (joined h ss name) := by
  unfold joined
  cases ss with
  | nil =>
    cases hs.opens with
    | root => exact .root _
    | dot => exact .dot (by simp)
    | bare => exact .bare (by simp [hname])
  | cons s rest =>
    rw [if_neg (by simp)]
    cases hs.opens with
    | root => exact .root _
    | dot hdot => exact .dot (by simpa using hdot)
    | bare hbare => exact .bare (by simpa using hbare)

theorem Settled.settled_joined (hs : Settled h ss) (hname : isIdle name = false)
    (hsep : separator ∉ name) : Settled h (joined h ss name) where
  opens := hs.opens_joined hname
  noSeparator s hmem := by
    have hcase : s = [] ∨ s = name ∨ s ∈ ss := by
      unfold joined at hmem
      split at hmem <;> simp at hmem <;> tauto
    rcases hcase with rfl | rfl | hmem
    · simp
    · exact hsep
    · exact hs.noSeparator s hmem
  trimmed := by
    unfold joined
    split
    · exact dropIdle_concat [[]] hname
    · exact dropIdle_concat ss hname

theorem directoryOf?_of_body_ne_nil (hb : body p ≠ []) :
    directoryOf? p = some (head p ++ unsegments (dropIdle (body p).dropLast)) := by
  obtain ⟨b, bs, hbs⟩ := List.exists_cons_of_ne_nil hb
  simp [directoryOf?, hbs]

/-- What is put into a directory has that directory. -/
theorem Settled.directoryOf?_joinOf (hs : Settled h ss) (hname : isIdle name = false)
    (hsep : separator ∉ name) :
    directoryOf? (joinOf (h ++ unsegments ss) name) = some (h ++ unsegments ss) := by
  have hj := hs.settled_joined hname hsep
  have hbody : body (h ++ unsegments (joined h ss name)) ≠ [] := by
    rw [hj.body_eq]
    exact joined_ne_nil
  rw [hs.joinOf_eq hsep, directoryOf?_of_body_ne_nil hbody, hj.body_eq, hj.head_eq,
    hs.dropLast_joined]

theorem getLast?_joinOf (hne : name ≠ []) (dir : List Char) :
    (joinOf dir name).getLast? = name.getLast? := by
  unfold joinOf
  split
  · rfl
  · split
    · exact List.getLast?_append_of_ne_nil dir hne
    · rw [List.getLast?_append_of_ne_nil dir (by simp), List.getLast?_cons_of_ne_nil hne]

theorem joinOf_left_cancel {q : List Char} (hp : separator ∉ p) (hq : separator ∉ q)
    (heq : joinOf h p = joinOf h q) : p = q := by
  simp only [joinOf, isAbsolute_of_no_separator hp, isAbsolute_of_no_separator hq] at heq
  split at heq
  · exact heq
  · split at heq <;> simpa using heq

end SpirvToolchain.Path
