import SpirvToolchain.Proofs.Compilation.Plain
import SpirvToolchain.Proofs.Text.Runs

/-! Output that names files, in a report where the path of the source is replaced. -/
namespace SpirvToolchain

open Text

variable {s t : List Char} {c : Char}

/-- An absolute path that stands in a line as it is, up to the colon after it. -/
structure NamedFile where
  path : String
  absolute : path.toList.head? = some '/' := by decide
  noColon : ':' ∉ path.toList := by decide
  oneLine : '\n' ∉ path.toList ∧ '\r' ∉ path.toList := by decide
  noEscape : Ansi.escape ∉ path.toList := by decide

/-- A report leaves the text as it is: nothing in it goes, and no absolute path starts in it. -/
structure Untouched (s : List Char) : Prop where
  noSlash : '/' ∉ s := by decide
  noReturn : '\r' ∉ s := by decide
  noEscape : Ansi.escape ∉ s := by decide

theorem Untouched.append (hs : Untouched s) (ht : Untouched t) : Untouched (s ++ t) where
  noSlash := List.not_mem_append hs.noSlash ht.noSlash
  noReturn := List.not_mem_append hs.noReturn ht.noReturn
  noEscape := List.not_mem_append hs.noEscape ht.noEscape

/-- Characters of a kind that has none of the three in it. -/
theorem Untouched.of_kind {kind : Char → Bool} (hslash : kind '/' = false)
    (hreturn : kind '\r' = false) (hescape : kind Ansi.escape = false)
    (hs : ∀ c ∈ s, kind c = true) : Untouched s where
  noSlash h := by simp [hs _ h] at hslash
  noReturn h := by simp [hs _ h] at hreturn
  noEscape h := by simp [hs _ h] at hescape

theorem NamedFile.exists_cons (p : NamedFile) : ∃ cs, p.path.toList = '/' :: cs := by
  obtain ⟨cs, hcs⟩ := List.head?_eq_some_iff.1 p.absolute
  exact ⟨cs, hcs⟩

theorem NamedFile.path_ne (p : NamedFile) : p.path ≠ "" := by
  intro h
  obtain ⟨cs, hcs⟩ := p.exists_cons
  rw [h] at hcs
  cases hcs

theorem shownAs_append (p : NamedFile) (hs : Untouched s) (t : List Char) :
    shownAs p.path.toList (s ++ t) = s ++ shownAs p.path.toList t := by
  rw [shownAs, trimReturns_append hs.noReturn, Ansi.strip_append hs.noEscape,
    replace_literal_append p.absolute hs.noSlash, shownAs]

/-- The colon after the name of a file ends all that is replaced in it. -/
theorem shownAs_name (p f : NamedFile) (t : List Char) :
    shownAs p.path.toList (f.path.toList ++ ':' :: t) =
      replace (literal p.path.toList) sourceName f.path.toList ++
        ':' :: shownAs p.path.toList t := by
  have hcolon : shownAs p.path.toList (':' :: t) = ':' :: shownAs p.path.toList t :=
    shownAs_append p (s := [':']) {} t
  have htrim : trimReturns (':' :: t) = ':' :: trimReturns t :=
    trimReturns_append (s := [':']) (by simp) t
  have hstrip : Ansi.strip (':' :: trimReturns t) = ':' :: Ansi.strip (trimReturns t) :=
    Ansi.strip_cons (by decide) _
  rw [← hcolon, shownAs, trimReturns_append f.oneLine.2, Ansi.strip_append f.noEscape, shownAs,
    htrim, hstrip, replace_append (apart_literal p.noColon _ _)]

/-- A path that starts with that of the source starts with its mark. -/
theorem replace_path_of_start {p f : NamedFile} (h : p.path.toList <+: f.path.toList) :
    ∃ rest, replace (literal p.path.toList) sourceName f.path.toList = sourceName ++ rest := by
  obtain ⟨cs, hcs⟩ := p.exists_cons
  obtain ⟨rest, hrest⟩ := h
  have hmatch : literal p.path.toList (p.path.toList ++ rest) = p.path.toList.length :=
    literal_eq_length (List.prefix_append _ _)
  rw [← hrest, replace_match_append (by simp [hcs]) hmatch]
  exact ⟨_, rfl⟩

/-- Any other path starts as it did, whatever is replaced further on. -/
theorem replace_path_of_other {p f : NamedFile} (h : ¬ p.path.toList <+: f.path.toList) :
    ∃ rest, replace (literal p.path.toList) sourceName f.path.toList = '/' :: rest := by
  obtain ⟨cs, hcs⟩ := f.exists_cons
  rw [hcs] at h ⊢
  exact ⟨_, replace_cons_of_no_match (literal_eq_zero h)⟩

theorem newline_notMem_shownAs {path : List Char} (hs : '\n' ∉ s) : '\n' ∉ shownAs path s := by
  intro h
  rcases mem_of_mem_replace h with h | h
  · exact absurd h (by decide)
  · obtain ⟨t, -, ht⟩ := exists_trimReturns_append s
    have hmem : '\n' ∈ trimReturns s := mem_of_mem_erase h
    exact hs (ht ▸ List.mem_append_left t hmem)

end SpirvToolchain
