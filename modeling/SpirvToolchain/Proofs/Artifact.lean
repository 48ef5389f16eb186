import Mathlib.Data.List.Nodup
import SpirvToolchain.Artifact
import SpirvToolchain.Request
import SpirvToolchain.Proofs.Path.Directory

/-! Artifacts of a valid base name: four files, all of them in the directory of the source. -/
namespace SpirvToolchain

open SpirvToolchain.Path (separator)

variable {input base extension : String}

/-- The extensions of the artifacts, in the order of the tools. -/
def Artifacts.extensions : List String := ["bc", "spv", "spvasm", "ll"]

theorem Artifacts.no_separator_of_mem_extensions (he : extension ∈ Artifacts.extensions) :
    separator ∉ extension.toList := by
  simp only [Artifacts.extensions, List.mem_cons, List.not_mem_nil, or_false] at he
  rcases he with rfl | rfl | rfl | rfl <;> decide

theorem toList_artifactPath (dir base extension : String) :
    (artifactPath dir base extension).toList =
      Path.joinOf dir.toList (base.toList ++ '.' :: extension.toList) := by
  simp [artifactPath, Path.join]

theorem no_separator_of_validFilebase (hb : ValidFilebase base)
    (he : separator ∉ extension.toList) :
    separator ∉ base.toList ++ '.' :: extension.toList := by
  have hdot : separator ≠ '.' := by decide
  simp [hb.2, he, hdot]

theorem not_idle_of_validFilebase (hb : ValidFilebase base) (tail : List Char) :
    Path.isIdle (base.toList ++ '.' :: tail) = false := by
  obtain ⟨c, cs, hbase⟩ : ∃ c cs, base.toList = c :: cs := by
    apply List.exists_cons_of_ne_nil
    simpa using hb.1
  simp [Path.isIdle, hbase]

theorem exists_settled_parent (input : String) :
    ∃ h ss, Path.Settled h ss ∧ (Path.parent input).toList = h ++ Path.unsegments ss := by
  obtain ⟨h, ss, hs, hp⟩ := Path.exists_settled_directory input.toList
  refine ⟨h, ss, hs, ?_⟩
  rw [← hp, Path.parent, Path.parent?]
  cases Path.directoryOf? input.toList <;> simp

/-- An artifact made from a source file lies in the directory of the source, as text. -/
theorem parent?_artifactPath (hb : ValidFilebase base) (he : separator ∉ extension.toList)
    (input : String) :
    Path.parent? (artifactPath (Path.parent input) base extension) = some (Path.parent input) := by
  obtain ⟨h, ss, hs, hp⟩ := exists_settled_parent input
  rw [Path.parent?, toList_artifactPath, hp,
    hs.directoryOf?_joinOf (not_idle_of_validFilebase hb _) (no_separator_of_validFilebase hb he),
    ← hp]
  simp

/-- An artifact ends as its extension does. -/
theorem getLast?_artifactPath (dir base : String) (hne : extension.toList ≠ []) :
    (artifactPath dir base extension).toList.getLast? = extension.toList.getLast? := by
  rw [toList_artifactPath, Path.getLast?_joinOf (by simp),
    List.getLast?_append_of_ne_nil _ (by simp), List.getLast?_cons_of_ne_nil hne]

theorem artifactPath_left_cancel {dir other : String} (hb : ValidFilebase base)
    (he : separator ∉ extension.toList) (ho : separator ∉ other.toList)
    (heq : artifactPath dir base extension = artifactPath dir base other) :
    extension = other := by
  have hlist := congrArg String.toList heq
  simp only [toList_artifactPath] at hlist
  have hname := Path.joinOf_left_cancel (no_separator_of_validFilebase hb he)
    (no_separator_of_validFilebase hb ho) hlist
  exact String.toList_inj.mp (by simpa using hname)

theorem nodup_artifactPaths (hb : ValidFilebase base) (dir : String) :
    (Artifacts.extensions.map (artifactPath dir base)).Nodup := by
  apply List.Nodup.map_on ?_ (by decide)
  intro x hx y hy heq
  exact artifactPath_left_cancel hb (Artifacts.no_separator_of_mem_extensions hx)
    (Artifacts.no_separator_of_mem_extensions hy) heq

/-- The way back from an artifact to its directory leads to its siblings. -/
theorem artifactPath_parent_artifactPath (hb : ValidFilebase base)
    (he : separator ∉ extension.toList) (input other : String) :
    artifactPath (Path.parent (artifactPath (Path.parent input) base extension)) base other =
      artifactPath (Path.parent input) base other := by
  rw [Path.parent, parent?_artifactPath hb he, Option.getD_some]

end SpirvToolchain
