import Mathlib.Data.List.Forall2
import SpirvToolchain.Command

/-! When the arguments of a command make a request, and which one. -/
namespace SpirvToolchain

variable {l : LibrarySpec} {text : String} {texts : List String} {ls : List LibrarySpec}

/-- The text has the id and the version of the library about its first colon, neither empty. -/
structure LibrarySpec.NamedBy (l : LibrarySpec) (text : String) : Prop where
  text_eq : text.toList = l.id.toList ++ ':' :: l.version.toList
  noColon : ':' ∉ l.id.toList
  id_ne : l.id ≠ ""
  version_ne : l.version ≠ ""

theorem LibrarySpec.parse?_eq_some_iff : LibrarySpec.parse? text = some l ↔ l.NamedBy text := by
  constructor
  · intro h
    rw [parse?] at h
    split at h
    · next id version hsplit =>
      obtain ⟨htext, hcolon⟩ := Text.splitFirst_append hsplit
      split at h
      · cases h
      · next hne =>
        obtain rfl := Option.some.inj h
        rw [not_or] at hne
        exact ⟨by simpa using htext, by simpa using hcolon, by simpa using hne.1,
          by simpa using hne.2⟩
    · cases h
  · intro h
    have hne : ¬ (l.id.toList = [] ∨ l.version.toList = []) := by simp [h.id_ne, h.version_ne]
    rw [parse?, h.text_eq, Text.splitFirst_append_cons _ h.noColon]
    simp only [if_neg hne, String.ofList_toList]

namespace RequestArgs

theorem readLibraries_eq_ok_iff :
    readLibraries texts = .ok ls ↔ List.Forall₂ (fun text l => l.NamedBy text) texts ls := by
  induction texts generalizing ls with
  | nil => simp [readLibraries, eq_comm]
  | cons text texts ih =>
    rw [readLibraries, List.forall₂_cons_left_iff]
    cases hparse : LibrarySpec.parse? text with
    | none =>
      constructor
      · intro h
        cases h
      · rintro ⟨l, ls', hl, -, -⟩
        rw [LibrarySpec.parse?_eq_some_iff.2 hl] at hparse
        cases hparse
    | some l =>
      have hl : ∀ {l'}, LibrarySpec.NamedBy l' text ↔ l' = l := by
        intro l'
        rw [← LibrarySpec.parse?_eq_some_iff, hparse, Option.some.injEq, eq_comm]
      cases hrest : readLibraries texts with
      | error e =>
        constructor
        · intro h
          cases h
        · rintro ⟨l', ls', -, hls, -⟩
          rw [ih.2 hls] at hrest
          cases hrest
      | ok ls' =>
        have hls := ih.1 hrest
        constructor
        · intro h
          obtain rfl : l :: ls' = ls := Except.ok.inj h
          exact ⟨l, ls', hl.2 rfl, hls, rfl⟩
        · rintro ⟨l', ls'', hl', hls'', rfl⟩
          obtain rfl := hl.1 hl'
          obtain rfl : ls' = ls'' := Except.ok.inj (hrest.symm.trans (ih.2 hls''))
          rfl

/-- The request for the source at `staged` with these libraries. -/
def requestFor (a : RequestArgs) (staged : String) (ls : List LibrarySpec) : Request where
  inputFilename := staged
  userOptions := a.options
  filters := { binary := a.binary }
  backendOptions := { produceOptInfo := a.produceOptInfo }
  libraries := ls
  outputFilebase := a.outputBase

/-- Arguments make a request if each library is named and the base name is one, and no other. -/
theorem toRequest_eq_ok_iff {a : RequestArgs} {staged : String} {q : Request} :
    a.toRequest staged = .ok q ↔
      ∃ ls, List.Forall₂ (fun text l => l.NamedBy text) a.libraries ls ∧
        ValidFilebase a.outputBase ∧ q = a.requestFor staged ls := by
  cases hlibraries : readLibraries a.libraries with
  | error e =>
    rw [toRequest, hlibraries]
    constructor
    · intro h
      cases h
    · rintro ⟨ls, hls, -⟩
      rw [readLibraries_eq_ok_iff.2 hls] at hlibraries
      cases hlibraries
  | ok libraries =>
    have hmade : a.toRequest staged =
        (a.requestFor staged libraries).validate.mapError CommandError.pipeline := by
      rw [toRequest, hlibraries]
      rfl
    have hnamed := readLibraries_eq_ok_iff.1 hlibraries
    rw [hmade]
    by_cases hbase : ValidFilebase a.outputBase
    · have hvalid :
          (a.requestFor staged libraries).validate = .ok (a.requestFor staged libraries) :=
        if_pos hbase
      rw [hvalid]
      constructor
      · intro h
        obtain rfl : a.requestFor staged libraries = q := Except.ok.inj h
        exact ⟨libraries, hnamed, hbase, rfl⟩
      · rintro ⟨ls, hls, -, rfl⟩
        obtain rfl : libraries = ls :=
          Except.ok.inj (hlibraries.symm.trans (readLibraries_eq_ok_iff.2 hls))
        rfl
    · have hinvalid : (a.requestFor staged libraries).validate = .error _ := if_neg hbase
      rw [hinvalid]
      constructor
      · intro h
        cases h
      · rintro ⟨-, -, hvalid, -⟩
        exact absurd hvalid hbase

theorem exists_namedBy (h : List.Forall₂ (fun text l => LibrarySpec.NamedBy l text) texts ls) :
    ∀ text ∈ texts, ∃ l : LibrarySpec, l.NamedBy text := by
  induction h with
  | nil => exact List.forall_mem_nil _
  | cons hl _ ih => exact List.forall_mem_cons.2 ⟨⟨_, hl⟩, ih⟩

/-- A library without a name, or a base name that is none, is told of in place of a request. -/
theorem exists_toRequest_error {a : RequestArgs} (staged : String)
    (h : (∃ text ∈ a.libraries, ∀ l : LibrarySpec, ¬ l.NamedBy text) ∨
      ¬ ValidFilebase a.outputBase) :
    ∃ e, a.toRequest staged = .error e := by
  cases hmade : a.toRequest staged with
  | error e => exact ⟨e, rfl⟩
  | ok q =>
    obtain ⟨ls, hls, hbase, -⟩ := toRequest_eq_ok_iff.1 hmade
    rcases h with ⟨text, htext, hunnamed⟩ | hunfit
    · obtain ⟨l, hl⟩ := exists_namedBy hls text htext
      exact absurd hl (hunnamed l)
    · exact absurd hbase hunfit

end RequestArgs

end SpirvToolchain
