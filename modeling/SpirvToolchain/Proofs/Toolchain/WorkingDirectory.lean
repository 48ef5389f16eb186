import SpirvToolchain.Proofs.Path.Place
import SpirvToolchain.Proofs.Toolchain.Product

/-! The files of a request, as the tools find them from the directory that they work in. -/
namespace SpirvToolchain

variable {σ : Type}

/-- Where a program finds a path; its own directory is looked up in that of the process. -/
def Invocation.placeOf (i : Invocation) (base : Place) (path : String) : Place :=
  Place.follow (i.options.cwd.elim base (Place.follow base)) path

namespace Place

/-- A directory that leads to the same place again when it is looked up there. -/
def Returns (base : Place) (dir : String) : Prop := follow (follow base dir) dir = follow base dir

/-- A directory that is written from another one, and goes down, leads further down each time. -/
theorem not_returns_of_descending {base : Place} {dir : String}
    (hrel : Path.isAbsolute dir.toList = false) (hdown : ".." ∉ names dir)
    (hname : ∃ name ∈ names dir, Tree.isFileName name = true) : ¬ Returns base dir := by
  have hfollow (p : Place) : follow p dir = p ++ (names dir).filter Tree.isFileName := by
    have horigin : origin p dir = p := by simp [origin, hrel]
    rw [follow, horigin, steps_of_descending hdown]
  have hne : (names dir).filter Tree.isFileName ≠ [] := by
    obtain ⟨name, hmem, hname⟩ := hname
    exact List.ne_nil_of_mem (List.mem_filter.2 ⟨hmem, hname⟩)
  intro h
  rw [Returns, hfollow, hfollow] at h
  exact hne (by simpa using h)

end Place

namespace Toolchain

variable (host : Host σ) (t : Toolchain) (q : Request) (r : Record σ)

/-- The source of a request and all that may be made from it. -/
def filesOf : List String := q.inputFilename :: Artifacts.extensions.map (artifact q)

theorem cwd_of_mem_plan {call : Invocation} (h : call ∈ t.plan q) :
    call.options.cwd = some q.sourceDir := by
  simp only [plan, Pipeline.plan, List.mem_cons, List.not_mem_nil, or_false] at h
  rcases h with rfl | rfl | rfl <;> rfl

theorem follow_artifact (hb : ValidFilebase q.outputFilebase) {extension : String}
    (he : extension ∈ Artifacts.extensions) (base : Place) :
    Place.follow base (artifact q extension) =
      Place.follow base q.sourceDir ++ [q.outputFilebase ++ "." ++ extension] :=
  Place.follow_artifactPath hb he base q.sourceDir

/-- Two places from which the directory of the source is the same show the same files. -/
theorem follow_filesOf {base base' : Place} (hb : ValidFilebase q.outputFilebase)
    (hdir : Place.follow base' q.sourceDir = Place.follow base q.sourceDir) :
    ∀ path ∈ filesOf q, Place.follow base' path = Place.follow base path := by
  intro path hpath
  rcases List.mem_cons.1 hpath with rfl | hpath
  · have hparent : Path.parent q.inputFilename = q.sourceDir := rfl
    by_cases hbody : Path.body q.inputFilename.toList = []
    · rw [← hparent, Path.parent_of_body_nil hbody, Place.follow_empty, Place.follow_empty] at hdir
      rw [hdir]
    · rw [Place.follow_eq_step base' hbody, Place.follow_eq_step base hbody, hparent, hdir]
  · obtain ⟨extension, he, rfl⟩ := List.mem_map.1 hpath
    rw [follow_artifact q hb he, follow_artifact q hb he, hdir]

/--
The programs of a compilation find the files of the request where the process itself would look
for them exactly if the directory of the source leads to itself from where it leads. A source
named from the root always lies in such a directory. One named from the directory of the process
never does when its path goes down: then each program looks that much further down.
-/
theorem compile_finds_files_iff (base : Place) (hq : q.validate = .ok q) :
    let final := (t.compile host q).outcome r
    ∃ calls, final.2.invocations = r.invocations ++ calls ∧
      ((∀ call ∈ calls, ∀ path ∈ filesOf q, path ∈ call.args →
          call.placeOf base path = Place.follow base path) ↔
        Place.Returns base q.sourceDir) ∧
      (Path.isAbsolute q.inputFilename.toList = true → Place.Returns base q.sourceDir) ∧
      (Path.isAbsolute q.sourceDir.toList = false → ".." ∉ Place.names q.sourceDir →
        (∃ name ∈ Place.names q.sourceDir, Tree.isFileName name = true) →
        ¬ Place.Returns base q.sourceDir) := by
  have hb := Request.validFilebase_of_validate hq
  obtain ⟨n, hcourse⟩ := t.course_compile host q r
  have hplace {call : Invocation} (hcall : call ∈ (t.plan q).take n) (path : String) :
      call.placeOf base path = Place.follow (Place.follow base q.sourceDir) path := by
    rw [Invocation.placeOf, t.cwd_of_mem_plan q (List.mem_of_mem_take hcall), Option.elim_some]
  refine ⟨(t.plan q).take n, hcourse.invocations, ⟨fun hagree => ?_, fun hreturns => ?_⟩,
    fun habs => Place.follow_parent_of_isAbsolute habs base, Place.not_returns_of_descending⟩
  · -- The compiler runs in any case, and is told where to put its bitcode.
    have hcompiler : t.compilerCall q ∈ (t.plan q).take n := by
      obtain ⟨m, rfl⟩ := Nat.exists_eq_add_of_le' hcourse.bounds.1
      exact List.mem_cons_self
    have hargs : artifact q "bc" ∈ (t.compilerCall q).args :=
      List.mem_of_getElem? (getElem?_compilerCall t q (t.getElem?_arguments q hb).2 _)
    have hbc : "bc" ∈ Artifacts.extensions := by decide
    have hfile : artifact q "bc" ∈ filesOf q :=
      List.mem_cons_of_mem _ (List.mem_map.2 ⟨"bc", hbc, rfl⟩)
    have hsame := hagree _ hcompiler _ hfile hargs
    rw [hplace hcompiler, follow_artifact q hb hbc, follow_artifact q hb hbc] at hsame
    exact List.append_cancel_right hsame
  · intro call hcall path hpath _
    rw [hplace hcall, follow_filesOf q hb hreturns path hpath]

/-- A source in a directory beside the process. -/
def nestedRequest : Request := { inputFilename := "src/a.cl" }

/-- The compiler is told to write below the directory in which its bitcode is looked for. -/
theorem compile_misplaces_nested :
    nestedRequest.validate = .ok nestedRequest ∧
    ∃ calls,
      ((compile Script.host { config := {} } nestedRequest).outcome { state := {} }).2.invocations =
        calls ∧
      (∃ call ∈ calls, ∃ path ∈ filesOf nestedRequest, path ∈ call.args ∧
        call.placeOf ["work"] path ≠ Place.follow ["work"] path) ∧
      Place.follow ["work"] (artifact nestedRequest "bc") = ["work", "src", "output.bc"] ∧
      Place.follow (Place.follow ["work"] nestedRequest.sourceDir) (artifact nestedRequest "bc") =
        ["work", "src", "src", "output.bc"] := by
  have hq : nestedRequest.validate = .ok nestedRequest := by decide
  have hdir : Place.names nestedRequest.sourceDir = ["src"] := by decide
  obtain ⟨calls, hcalls, hiff, -, hdown⟩ :=
    compile_finds_files_iff Script.host { config := {} } nestedRequest { state := {} } ["work"] hq
  have hnot : ¬ Place.Returns ["work"] nestedRequest.sourceDir := by
    refine hdown (by decide) ?_ ?_ <;> rw [hdir] <;> decide
  refine ⟨hq, calls, hcalls, ?_, by decide, by decide⟩
  by_contra hnone
  refine hnot (hiff.1 fun call hcall path hpath hargs => ?_)
  by_contra hne
  exact hnone ⟨call, hcall, path, hpath, hargs, hne⟩

end Toolchain

end SpirvToolchain
