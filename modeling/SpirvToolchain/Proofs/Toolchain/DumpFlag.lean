import Mathlib.Data.List.Count
import SpirvToolchain.Proofs.Arguments.Order
import SpirvToolchain.Proofs.Toolchain.Product

/-! The flag of a dump: passed as often as it is given, and once where it is not. -/
namespace SpirvToolchain

variable {flag : String}

/-- The flags of the two dumps. -/
def dumpFlags : List String := ["-ast-dump", "-emit-llvm"]

namespace Arguments

variable {args : List String} {old new : String}

theorem count_withOnce (args : List String) (flag : String) :
    (withOnce args flag).count flag = max 1 (args.count flag) := by
  by_cases h : flag ∈ args
  · have hpos : 0 < args.count flag := List.count_pos_iff.2 h
    rw [withOnce_of_mem h]
    omega
  · have hzero : args.count flag = 0 := List.count_eq_zero.2 h
    rw [withOnce, if_neg h, List.count_append, hzero]
    simp

theorem count_without (h : flag ≠ old) : (without args old).count flag = args.count flag :=
  List.count_filter (by simpa using h)

theorem count_replaced (hold : old ≠ flag) (hnew : new ≠ flag) :
    (replaced args old new).count flag = args.count flag := by
  induction args with
  | nil => rfl
  | cons a rest ih =>
    by_cases ha : a = old
    · subst ha
      rw [replaced, if_pos rfl, List.count_cons_of_ne hnew, List.count_cons_of_ne hold]
    · rw [replaced, if_neg ha, List.count_cons, List.count_cons, ih]

end Arguments

/-- What the compiler writes has no such flag for its name, as it ends in another letter. -/
theorem artifactPath_ne_dumpFlag (hflag : flag ∈ dumpFlags) {extension : String}
    (he : extension ∈ ["bc", "ll"]) (dir base : String) :
    artifactPath dir base extension ≠ flag := by
  have hends : ∀ extension ∈ ["bc", "ll"], extension.toList ≠ [] ∧
      ∀ flag ∈ dumpFlags, extension.toList.getLast? ≠ flag.toList.getLast? := by decide
  obtain ⟨hne, hlast⟩ := hends extension he
  rintro rfl
  exact hlast _ hflag (getLast?_artifactPath dir base hne).symm

namespace FrontEnd

open Libraries

variable (s : Setup) (r : Request)

/--
What a command line takes over as it stands: the options of the configuration, with the flag for a
report, those of the libraries, those of the user that may be passed on, and the input.
-/
def given : List String :=
  s.compiler.options ++
    (if s.compiler.supportsOptOutput && r.backendOptions.produceOptInfo then [s.compiler.optArg]
      else []) ++
    libraryArgs s r (·.options) ++ UserOptions.filter s.userOptions r.userOptions ++
    [r.inputFilename]

variable {s r}

theorem notMem_libraryArgs {entries : LibraryVersion → List String} (h : ∀ v, flag ∉ entries v) :
    flag ∉ libraryArgs s r entries := by
  intro hmem
  obtain ⟨l, -, hl⟩ := List.mem_flatMap.1 hmem
  unfold entriesOf at hl
  cases hv : versionOf s.catalogue l with
  | none => simp [hv] at hl
  | some v =>
    rw [hv] at hl
    exact h v hl

/-- How the entries of a library start, apart from its options. -/
def entryStarts : List String := ["-isystem", "-l", "-L", "-Wl,-rpath,"]

theorem append_ne_dumpFlag (hflag : flag ∈ dumpFlags) {start : String} (h : start ∈ entryStarts)
    (name : String) : start ++ name ≠ flag := by
  have hother : ∀ start ∈ entryStarts, ∀ flag ∈ dumpFlags, ¬ start.toList <+: flag.toList := by
    decide
  rintro rfl
  apply hother start h _ hflag
  rw [String.toList_append]
  exact List.prefix_append _ _

theorem notMem_map_append (hflag : flag ∈ dumpFlags) {start : String} (h : start ∈ entryStarts)
    (names : List String) : flag ∉ names.map (start ++ ·) := by
  intro hmem
  obtain ⟨name, -, hname⟩ := List.mem_map.1 hmem
  exact append_ne_dumpFlag hflag h name hname

theorem notMem_sharedBlock (hflag : flag ∈ dumpFlags) : flag ∉ sharedBlock s r := by
  apply List.not_mem_append
  · apply notMem_libraryArgs
    intro v
    exact notMem_map_append hflag (by decide) v.link
  · apply notMem_libraryArgs
    intro v hmem
    obtain ⟨path, -, hpath⟩ := List.mem_flatMap.1 hmem
    rcases List.mem_cons.1 hpath with h | h
    · exact append_ne_dumpFlag hflag (by decide) path h.symm
    · exact append_ne_dumpFlag hflag (by decide) path (List.mem_singleton.1 h).symm

theorem notMem_baseOptions (hflag : flag ∈ dumpFlags) (outputFilename : String) :
    flag ∉ baseOptions s outputFilename := by
  have hopening : ∀ flag ∈ dumpFlags, flag ∉ baseFlags ∧ flag ≠ "-o" := by decide
  apply List.not_mem_append (hopening flag hflag).1
  intro hmem
  rcases List.mem_cons.1 hmem with h | h
  · exact (hopening flag hflag).2 h
  · exact artifactPath_ne_dumpFlag hflag List.mem_cons_self _ _ (List.mem_singleton.1 h).symm

/-- What a command line makes up itself, with the names of places and libraries, is no such flag. -/
theorem count_arguments (hflag : flag ∈ dumpFlags) (outputFilename : String) :
    (arguments s r outputFilename).count flag = (given s r).count flag := by
  rw [arguments, groups_eq]
  have hbase : ["-cc1", "-debug-info-kind=limited", "-dwarf-version=5", "-debugger-tuning=gdb",
      "-o", artifactPath (Path.parent outputFilename) s.filebase "bc"].count flag = 0 :=
    List.count_eq_zero.2 (notMem_baseOptions hflag outputFilename)
  have hcompiler : (s.compiler.options.filter (· ≠ "-fno-crash-diagnostics")).count flag =
      s.compiler.options.count flag := by
    apply Arguments.count_without
    rintro rfl
    exact absurd hflag (by decide)
  have hincludes :
      (libraryArgs s r fun v => v.includePaths.map ("-isystem" ++ ·)).count flag = 0 := by
    apply List.count_eq_zero.2
    apply notMem_libraryArgs
    intro v
    exact notMem_map_append hflag (by decide) v.includePaths
  have hshared : (if r.filters.binary then sharedBlock s r else []).count flag = 0 := by
    split
    · exact List.count_eq_zero.2 (notMem_sharedBlock hflag)
    · rfl
  have hstatic : (if r.filters.binary then staticBlock s r else []).count flag = 0 := by
    split
    · apply List.count_eq_zero.2
      apply notMem_libraryArgs
      intro v
      exact notMem_map_append hflag (by decide) v.staticLink
    · rfl
  simp only [Groups.toArgs, Groups.all, List.count_flatten, List.map_cons, List.map_nil,
    List.sum_cons, List.sum_nil, given, List.count_append, hbase, hcompiler, hincludes, hshared,
    hstatic]
  omega

end FrontEnd

namespace Toolchain

variable {σ : Type} (host : Host σ) (t : Toolchain) (q : Request) (r : Record σ)

theorem count_divertedCall (hflag : flag ∈ dumpFlags) :
    (t.divertedCall q flag).args.count flag =
      max 1 ((FrontEnd.given (t.setup q) q).count flag) := by
  let artifacts := (t.diverter q).artifacts q.inputFilename
  have hcolours : flag ≠ "-fcolor-diagnostics" := by
    rintro rfl
    exact absurd hflag (by decide)
  have hbitcode : artifacts.bitcode ≠ flag := artifactPath_ne_dumpFlag hflag (by decide) _ _
  have htext : artifacts.irText ≠ flag := artifactPath_ne_dumpFlag hflag (by decide) _ _
  calc (t.divertedCall q flag).args.count flag
      = (Arguments.replaced (Arguments.without (Arguments.withOnce (t.arguments q) flag)
          "-fcolor-diagnostics") artifacts.bitcode artifacts.irText).count flag := rfl
    _ = (Arguments.withOnce (t.arguments q) flag).count flag := by
      rw [Arguments.count_replaced hbitcode htext, Arguments.count_without hcolours]
    _ = max 1 ((t.arguments q).count flag) := Arguments.count_withOnce _ _
    _ = max 1 ((FrontEnd.given (t.setup q) q).count flag) := by
      rw [arguments, FrontEnd.count_arguments hflag]

/--
The compiler is run once for a dump, with the flag of that dump as often as the configuration, the
libraries, the options of the user and the input give it, and once if none of them does. So the
flag stands there exactly once unless it is given more than once.
-/
theorem dump_passes_flag :
    let given := FrontEnd.given (t.setup q) q
    (∃ call, ((t.ast host q).outcome r).2.invocations = r.invocations ++ [call] ∧
      call.exe = t.config.compiler.exe ∧
      call.args.count "-ast-dump" = max 1 (given.count "-ast-dump") ∧
      (call.args.count "-ast-dump" = 1 ↔ given.count "-ast-dump" ≤ 1)) ∧
    ∃ call, ((t.ir host q).outcome r).2.invocations = r.invocations ++ [call] ∧
      call.exe = t.config.compiler.exe ∧
      call.args.count "-emit-llvm" = max 1 (given.count "-emit-llvm") ∧
      (call.args.count "-emit-llvm" = 1 ↔ given.count "-emit-llvm" ≤ 1) := by
  intro given
  have honce {n m : Nat} (h : n = max 1 m) : n = max 1 m ∧ (n = 1 ↔ m ≤ 1) := by omega
  refine ⟨⟨_, (t.ast_ran host q r).1, rfl, ?_⟩, ⟨_, (t.ir_ran host q r).1, rfl, ?_⟩⟩
  · exact honce (t.count_divertedCall q (by decide))
  · exact honce (t.count_divertedCall q (by decide))

/-- Gives the flags of both dumps twice. -/
def insistentRequest : Request :=
  { inputFilename := "/tmp/a.cl"
    userOptions := ["-ast-dump", "-emit-llvm", "-ast-dump", "-emit-llvm"] }

theorem dump_repeats_flag :
    insistentRequest.validate = .ok insistentRequest ∧
    ∃ (t : Toolchain) (tree ir : Invocation),
      ((t.ast Script.host insistentRequest).outcome { state := {} }).2.invocations = [tree] ∧
      ((t.ir Script.host insistentRequest).outcome { state := {} }).2.invocations = [ir] ∧
      tree.args.count "-ast-dump" = 2 ∧ ir.args.count "-emit-llvm" = 2 := by
  let t : Toolchain := { config := {} }
  have htree : (FrontEnd.given (t.setup insistentRequest) insistentRequest).count "-ast-dump" = 2 := by
    decide
  have hir : (FrontEnd.given (t.setup insistentRequest) insistentRequest).count "-emit-llvm" = 2 := by
    decide
  obtain ⟨⟨tree, htrees, -, htwice, -⟩, ir, hirs, -, htwice', -⟩ :=
    dump_passes_flag Script.host t insistentRequest { state := {} }
  refine ⟨by decide, t, tree, ir, htrees, hirs, ?_, ?_⟩
  · rw [htwice, htree]
    rfl
  · rw [htwice', hir]
    rfl

end Toolchain

end SpirvToolchain
