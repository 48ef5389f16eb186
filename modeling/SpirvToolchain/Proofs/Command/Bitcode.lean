import SpirvToolchain.Proofs.Command.Frame
import SpirvToolchain.Proofs.Toolchain.WorkingDirectory

/-! A compiler that leaves nothing behind, in a stage that holds the source alone. -/
namespace SpirvToolchain

open SpirvToolchain.Path (separator)

theorem Workshop.host_present (w : Workshop) (path : String) (t : Tree) :
    w.host.present path t = t.has w.base path := rfl

namespace Toolchain

variable {σ : Type} (host : Host σ) (t : Toolchain) (q : Request)

/-- The compiler ends well and leaves everything as it was. -/
structure Idles (s : σ) : Prop where
  code : (host.outputOf (t.compilerCall q) s).code = 0
  after : host.after (t.compilerCall q) s = s

/-- After a compiler that did nothing, all depends on what was there before. -/
theorem Idles.compile {host : Host σ} {t : Toolchain} {q : Request} {r : Record σ}
    (h : t.Idles host q r.state) :
    let final := (t.compile host q).outcome r
    ∃ n, final.2.invocations = r.invocations ++ (t.plan q).take n ∧ 1 ≤ n ∧ n ≤ 3 ∧
      (2 ≤ n ↔ host.present (artifact q "bc") r.state = true) ∧
      (host.present (artifact q "bc") r.state = false → final.1.code = -1) := by
  obtain ⟨n, hcourse⟩ := t.course_compile host q r
  have htranslator := hcourse.translator_iff
  have hlast := hcourse.code_eq
  -- Both facts are about the state after the compiler, which is the one before it.
  change 2 ≤ n ↔ (host.outputOf (t.compilerCall q) r.state).code = 0 ∧
    host.present (artifact q "bc") (host.after (t.compilerCall q) r.state) = true at htranslator
  change some _ = if (host.outputOf (t.compilerCall q) r.state).code = 0 ∧
    host.present (artifact q "bc") (host.after (t.compilerCall q) r.state) = false
    then some (-1) else _ at hlast
  rw [h.code, h.after] at htranslator hlast
  refine ⟨n, hcourse.invocations, hcourse.bounds.1, hcourse.bounds.2,
    htranslator.trans (and_iff_right rfl), fun hmissing => ?_⟩
  rw [if_pos ⟨rfl, hmissing⟩] at hlast
  exact Option.some.inj hlast

end Toolchain

namespace Workplace

open Toolchain (artifact)

/-- The stage can be named by a path, and nothing lies there yet. -/
structure Fresh (p : Workplace) (files : Tree) : Prop where
  named : Place.Named p.stage
  unused : ∀ place, p.stage <+: place → files.node? place = none

variable {p : Workplace} {files staged : Tree} {input name : String} {q : Request}

/-- Nothing but the copy of the source lies in a fresh stage. -/
theorem Staged.node?_stage (h : p.Staged files input name staged) (hfresh : p.Fresh files)
    {other : String} (hne : other ≠ name) : staged.node? (p.stage ++ [other]) = none := by
  obtain ⟨octets, executable, -, rfl⟩ := h.copied
  have hcopy : p.stage ++ [other] ≠ p.stage ++ [name] := by simpa using hne
  have hstage : p.stage ++ [other] ≠ p.stage := by simp
  rw [Tree.node?_put_of_ne hcopy, Tree.node?_put_of_ne hstage]
  exact hfresh.unused _ (List.prefix_append _ _)

theorem sourceDir_eq (hstage : Place.Named p.stage) (hname : Place.Named [name])
    (hinput : q.inputFilename = (p.stage ++ [name]).path) : q.sourceDir = p.stage.path := by
  obtain ⟨hfile, hsep⟩ := hname name (List.mem_singleton_self name)
  rw [Request.sourceDir, hinput, hstage.parent_path_concat hfile hsep]

/-- The artifacts of a staged source lie in the stage. -/
theorem artifact_eq (hstage : Place.Named p.stage) (hname : Place.Named [name])
    (hinput : q.inputFilename = (p.stage ++ [name]).path) (hb : ValidFilebase q.outputFilebase)
    {extension : String} (he : extension ∈ Artifacts.extensions) :
    artifact q extension = (p.stage ++ [q.outputFilebase ++ "." ++ extension]).path := by
  have hsep : separator ∉ (q.outputFilebase ++ "." ++ extension).toList := by
    simpa using no_separator_of_validFilebase hb (Artifacts.no_separator_of_mem_extensions he)
  rw [artifact, artifactPath, sourceDir_eq hstage hname hinput, hstage.path_concat hsep]

/-- Of all artifacts only the source itself can be present in a fresh stage. -/
theorem Staged.eq_of_present (h : p.Staged files input name staged) (hfresh : p.Fresh files)
    (hinput : q.inputFilename = (p.stage ++ [name]).path) (hb : ValidFilebase q.outputFilebase)
    {extension : String} (he : extension ∈ Artifacts.extensions)
    (hpresent : p.workshop.host.present (artifact q extension) staged = true) :
    q.outputFilebase ++ "." ++ extension = name := by
  have hname := Place.named_of_fileName? h.name_eq
  rw [Workshop.host_present] at hpresent
  obtain ⟨node, hnode⟩ := Tree.exists_node_of_has hpresent
  rw [Toolchain.follow_artifact q hb he, sourceDir_eq hfresh.named hname hinput,
    hfresh.named.follow_path] at hnode
  by_contra hne
  rw [h.node?_stage hfresh hne] at hnode
  cases hnode

/--
A compilation whose compiler does nothing, and says that all went well, ends there with a code of
its own, unless the source is called what its bitcode would be. Then the bitcode is looked for
where the copy of the source lies, and the translator is started if that is found.
-/
theorem compile_without_bitcode (config : ToolchainConfig) {args : RequestArgs}
    (output : Option String) (hfresh : p.Fresh files) (hopening : (p.opening args files).1 = .ok q)
    (hidles : ({ config } : Toolchain).Idles p.workshop.host q
      (p.opening args files).2.record.state) :
    let final := p.run config (.compile args output) files
    let calls := final.2.record.invocations
    let bitcode := args.outputBase ++ ".bc"
    calls <+: ({ config } : Toolchain).plan q ∧
    (Path.fileName? args.input ≠ some bitcode → final.1 = .ok (-1) ∧ calls.length = 1) ∧
    (Path.fileName? args.input = some bitcode → artifact q "bc" = q.inputFilename ∧
      (2 ≤ calls.length ↔
        p.workshop.host.present q.inputFilename (p.opening args files).2.record.state = true)) := by
  intro final calls bitcode
  obtain ⟨left, hending, -⟩ := p.ending_run config (.compile args output) files
  obtain ⟨made, r, hcompiled, hcalls, hresult⟩ := hending.compiled hopening
  obtain ⟨name, hstaged, hinput, hbase, hvalid⟩ := p.exists_staged_of_opening hopening
  have hb := Request.validFilebase_of_validate hvalid
  have hname := Place.named_of_fileName? hstaged.name_eq
  obtain ⟨n, hinvocations, hlow, hhigh, htranslator, hmissing⟩ := hidles.compile
  rw [hcompiled.outcome, p.invocations_opening, List.nil_append] at hinvocations
  rw [hcompiled.outcome] at hmissing
  have hplan : calls = (({ config } : Toolchain).plan q).take n := hcalls.trans hinvocations
  have hlength : calls.length = n := by
    have hthree : (({ config } : Toolchain).plan q).length = 3 := rfl
    rw [hplan, List.length_take, hthree]
    omega
  have hbitcode : q.outputFilebase ++ "." ++ "bc" = bitcode := by
    rw [hbase, String.append_assoc]
    rfl
  have htaken : calls <+: ({ config } : Toolchain).plan q := by
    rw [hplan]
    exact List.take_prefix _ _
  refine ⟨htaken, fun hother => ?_, fun hsame => ?_⟩
  · have habsent : p.workshop.host.present (artifact q "bc")
        (p.opening args files).2.record.state = false := by
      by_contra hpresent
      have hfound := hstaged.eq_of_present hfresh hinput hb (by decide) (eq_true_of_ne_false hpresent)
      rw [hstaged.name_eq, ← hfound, hbitcode] at hother
      exact hother rfl
    have hcode : made.code = -1 := hmissing habsent
    have hone : ¬ 2 ≤ n := by simp [htranslator, habsent]
    refine ⟨?_, by omega⟩
    rw [← hcode]
    exact hresult (by rw [hcode]; decide)
  · obtain rfl : name = bitcode := Option.some.inj (hstaged.name_eq.symm.trans hsame)
    have hartifact : artifact q "bc" = q.inputFilename := by
      rw [artifact_eq hfresh.named hname hinput hb (by decide), hbitcode, hinput]
    rw [hlength, htranslator, hartifact]
    exact ⟨rfl, Iff.rfl⟩

/-- A request for a source that is called what its bitcode is to be called. -/
def sampleRequest : Request := { inputFilename := "/tmp/spvc/output.bc" }

theorem fresh_sampleWorkplace (compiled : Tree → Tree) (name : String) :
    (sampleWorkplace compiled).Fresh (sampleFiles name) where
  named := by
    have hstage : (sampleWorkplace compiled).stage = ["tmp", "spvc"] := rfl
    rw [Place.Named, hstage]
    decide
  unused := by
    rintro place ⟨rest, rfl⟩
    rfl

theorem compile_sampleRequest :
    let p := sampleWorkplace id
    let t : Toolchain := { config := {} }
    let args : RequestArgs := { input := "/work/output.bc" }
    let s := (p.opening args (sampleFiles "output.bc")).2.record.state
    let final := p.run {} (.compile args none) (sampleFiles "output.bc")
    t.Idles p.workshop.host sampleRequest s ∧
    (∃ translator ∈ final.2.record.invocations, translator.exe = "llvm-spirv") ∧
    final.1 = .ok 0 := by
  intro p t args s final
  have hopening : (p.opening args (sampleFiles "output.bc")).1 = .ok sampleRequest := by decide
  have hidles : t.Idles p.workshop.host sampleRequest s := ⟨by decide, rfl⟩
  obtain ⟨hplan, -, hnamed⟩ :=
    compile_without_bitcode {} none (fresh_sampleWorkplace id "output.bc") hopening hidles
  obtain ⟨-, hstarted⟩ := hnamed (by decide)
  have hlength : 2 ≤ final.2.record.invocations.length := hstarted.2 (by decide)
  have htranslator : final.2.record.invocations[1].exe = "llvm-spirv" := by
    rw [hplan.getElem hlength]
    rfl
  exact ⟨hidles, ⟨_, List.getElem_mem hlength, htranslator⟩, by decide⟩

end Workplace

end SpirvToolchain
