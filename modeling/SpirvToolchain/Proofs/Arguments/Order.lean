import SpirvToolchain.Arguments.FrontEnd

/-! The front end's command line as a whole: its order, its libraries, and what linking adds. -/
namespace SpirvToolchain

namespace Libraries

variable {catalogue : Catalogue} {specs : List LibrarySpec}

/-- What the catalogue has under the id of a library, and there under its version. -/
def versionOf (catalogue : Catalogue) (s : LibrarySpec) : Option LibraryVersion :=
  (catalogue.entries.lookup s.id).bind fun versions => versions.entries.lookup s.version

theorem find?_eq_versionOf (catalogue : Catalogue) (s : LibrarySpec) :
    catalogue.find? s.id s.version = versionOf catalogue s := rfl

def isKnown (catalogue : Catalogue) (s : LibrarySpec) : Bool := (versionOf catalogue s).isSome

/-- What a version has for a group; nothing if it is not known. -/
def entriesOf (catalogue : Catalogue) (entries : LibraryVersion → List String) (s : LibrarySpec) :
    List String :=
  (versionOf catalogue s).elim [] entries

/-- The warnings about the versions that are not known, in the order they were asked for. -/
def unknownWarnings (catalogue : Catalogue) (specs : List LibrarySpec) : List Event :=
  (specs.filter (!isKnown catalogue ·)).map fun s =>
    .warn ("Unknown library " ++ s.id ++ " version " ++ s.version)

variable (entries : LibraryVersion → List String)

theorem args_look :
    (look catalogue entries specs).args = specs.flatMap (entriesOf catalogue entries) := by
  induction specs with
  | nil => rfl
  | cons s rest ih =>
    cases hs : versionOf catalogue s <;> simp [look, find?_eq_versionOf, entriesOf, hs, ih]

theorem events_look : (look catalogue entries specs).events = unknownWarnings catalogue specs := by
  induction specs with
  | nil => rfl
  | cons s rest ih =>
    cases hs : versionOf catalogue s <;>
      simp [look, find?_eq_versionOf, unknownWarnings, isKnown, hs, ih]

theorem entriesOf_eq_nil {l : LibrarySpec} (hl : isKnown catalogue l = false) :
    entriesOf catalogue entries l = [] := by
  have hnone : versionOf catalogue l = none := by simpa [isKnown] using hl
  rw [entriesOf, hnone]
  rfl

/-- A version that is not known can be left out. -/
theorem flatMap_entriesOf_filter (keep : LibrarySpec → Bool) :
    (specs.filter fun l => isKnown catalogue l || keep l).flatMap (entriesOf catalogue entries) =
      specs.flatMap (entriesOf catalogue entries) := by
  induction specs with
  | nil => rfl
  | cons l rest ih =>
    rw [List.filter_cons, List.flatMap_cons]
    split
    · rw [List.flatMap_cons, ih]
    · next hl =>
      rw [Bool.not_eq_true, Bool.or_eq_false_iff] at hl
      rw [ih, entriesOf_eq_nil entries hl.1, List.nil_append]

end Libraries

namespace FrontEnd

open Libraries

variable (s : Setup) (r : Request) (outputFilename : String)

/-- What the libraries of a request have for one group, one after another. -/
def libraryArgs (entries : LibraryVersion → List String) : List String :=
  r.libraries.flatMap (entriesOf s.catalogue entries)

/-- The names of the shared libraries, then the places where they are found. -/
def sharedBlock : List String :=
  libraryArgs s r (fun v => v.link.map ("-l" ++ ·)) ++
    libraryArgs s r (fun v => v.libPaths.flatMap fun p => ["-L" ++ p, "-Wl,-rpath," ++ p])

/-- The names of the static libraries. -/
def staticBlock : List String := libraryArgs s r fun v => v.staticLink.map ("-l" ++ ·)

/-- The request with something to link, or nothing. -/
def linking (binary : Bool) : Request := { r with filters := { r.filters with binary } }

theorem groups_eq : groups s r outputFilename = {
    base := ["-cc1", "-debug-info-kind=limited", "-dwarf-version=5", "-debugger-tuning=gdb", "-o",
      artifactPath (Path.parent outputFilename) s.filebase "bc"]
    compiler := s.compiler.options.filter (· ≠ "-fno-crash-diagnostics")
    report :=
      if s.compiler.supportsOptOutput && r.backendOptions.produceOptInfo then [s.compiler.optArg]
      else []
    includes := libraryArgs s r fun v => v.includePaths.map ("-isystem" ++ ·)
    libraryOptions := libraryArgs s r (·.options)
    sharedLinks := if r.filters.binary then sharedBlock s r else []
    userOptions := UserOptions.filter s.userOptions r.userOptions
    input := [r.inputFilename]
    staticLinks := if r.filters.binary then staticBlock s r else [] } := by
  rw [groups, includeArgs, options, sharedLinkArgs, sharedPathArgs, staticLinkArgs]
  simp only [args_look]
  rfl

theorem arguments_filter_known (keep : LibrarySpec → Bool) :
    arguments s
        { r with libraries := r.libraries.filter fun l => isKnown s.catalogue l || keep l }
        outputFilename = arguments s r outputFilename := by
  have hgroup (entries : LibraryVersion → List String) :
      libraryArgs s
          { r with libraries := r.libraries.filter fun l => isKnown s.catalogue l || keep l }
          entries = libraryArgs s r entries :=
    flatMap_entriesOf_filter entries keep
  simp only [arguments, groups_eq, sharedBlock, staticBlock, hgroup]

/-- The arguments before those that link shared libraries. -/
def front : List String :=
  let g := groups s r outputFilename
  [g.base, g.compiler, g.report, g.includes, g.libraryOptions].flatten

/-- The arguments between those that link shared libraries and those that link static ones. -/
def back : List String :=
  let g := groups s r outputFilename
  [g.userOptions, g.input].flatten

theorem arguments_linking (binary : Bool) : arguments s (linking r binary) outputFilename =
    front s r outputFilename ++ (if binary then sharedBlock s r else []) ++
      back s r outputFilename ++ if binary then staticBlock s r else [] := by
  have hshared : (groups s (linking r binary) outputFilename).sharedLinks =
      if binary then sharedBlock s r else [] := by
    rw [groups_eq]
    rfl
  have hstatic : (groups s (linking r binary) outputFilename).staticLinks =
      if binary then staticBlock s r else [] := by
    rw [groups_eq]
    rfl
  rw [← hshared, ← hstatic]
  simp only [arguments, Groups.toArgs, Groups.all, front, back, List.flatten_cons, List.flatten_nil,
    List.append_nil, List.append_assoc]
  rfl

/-- What is looked up is what stands in the command line, group by group. -/
theorem flatMap_looks : (looks r).flatMap (libraryArgs s r) =
    libraryArgs s r (fun v => v.includePaths.map ("-isystem" ++ ·)) ++
      libraryArgs s r (·.options) ++
      if r.filters.binary then sharedBlock s r ++ staticBlock s r else [] := by
  rw [looks, List.flatMap_append, List.flatMap_cons, List.flatMap_singleton]
  congr 1
  cases r.filters.binary with
  | false => rfl
  | true =>
    rw [sharedBlock, List.append_assoc]
    simp only [if_true, List.flatMap_cons, List.flatMap_nil, List.append_nil]
    rfl

/--
A command line is its nine groups in order, and a library group has the entries of each version
asked for, one after another. A version that is not known changes no argument and has one warning
for each group that is looked up. What is not linked is missing in its two places, and nothing else
is.
-/
theorem arguments_in_order :
    arguments s r outputFilename = [
      ["-cc1", "-debug-info-kind=limited", "-dwarf-version=5", "-debugger-tuning=gdb", "-o",
        artifactPath (Path.parent outputFilename) s.filebase "bc"],
      s.compiler.options.filter (· ≠ "-fno-crash-diagnostics"),
      if s.compiler.supportsOptOutput && r.backendOptions.produceOptInfo then [s.compiler.optArg]
      else [],
      libraryArgs s r fun v => v.includePaths.map ("-isystem" ++ ·),
      libraryArgs s r (·.options),
      if r.filters.binary then sharedBlock s r else [],
      UserOptions.filter s.userOptions r.userOptions,
      [r.inputFilename],
      if r.filters.binary then staticBlock s r else []].flatten ∧
    (∀ keep : LibrarySpec → Bool,
      arguments s
          { r with libraries := r.libraries.filter fun l => isKnown s.catalogue l || keep l }
          outputFilename = arguments s r outputFilename) ∧
    ((looks r).flatMap (libraryArgs s r) =
        libraryArgs s r (fun v => v.includePaths.map ("-isystem" ++ ·)) ++
          libraryArgs s r (·.options) ++
          if r.filters.binary then sharedBlock s r ++ staticBlock s r else []) ∧
    warnings s r =
      (looks r).flatMap (fun _ => unknownWarnings s.catalogue r.libraries) ++
        UserOptions.warnings s.userOptions r.userOptions ∧
    ∃ front back,
      arguments s (linking r true) outputFilename =
        front ++ sharedBlock s r ++ back ++ staticBlock s r ∧
      arguments s (linking r false) outputFilename = front ++ back := by
  refine ⟨?_, arguments_filter_known s r outputFilename, flatMap_looks s r, ?_,
    front s r outputFilename, back s r outputFilename, ?_, ?_⟩
  · rw [arguments, groups_eq]
    rfl
  · simp only [warnings, events_look]
  · exact arguments_linking s r outputFilename true
  · simpa using arguments_linking s r outputFilename false

end FrontEnd

end SpirvToolchain
