import SpirvToolchain.Dump.Ir
import SpirvToolchain.Proofs.Text.Runs
import SpirvToolchain.Proofs.Text.Search

/-! Attached metadata: the pattern finds what reads `, !name !N`, up to the last digit. -/
namespace SpirvToolchain.Ir

open Text

variable {s t m : List Char}

/-- A comma, white space or none, and the metadata: `!name !N`. -/
def IsAttachment (m : List Char) : Prop :=
  ∃ blanks name digits, m = ',' :: (blanks ++ '!' :: (name ++ ' ' :: '!' :: digits)) ∧
    (∀ c ∈ blanks, isBlank c = true) ∧ Run isNameChar name ∧ Run isDigit digits

theorem attachment_append (hm : IsAttachment m) (ht : Stops isDigit t) :
    attachment (m ++ t) = m.length := by
  obtain ⟨blanks, name, digits, rfl, hblanks, hname, hdigits⟩ := hm
  have hmark : Stops isBlank ('!' :: (name ++ ' ' :: '!' :: (digits ++ t))) :=
    stops_cons (by decide) _
  have hspace : Stops isNameChar (' ' :: '!' :: (digits ++ t)) := stops_cons (by decide) _
  simp only [List.cons_append, List.append_assoc, attachment, trimStart,
    dropWhile_all_append hblanks hmark, takeWhile_all_append hblanks hmark,
    dropWhile_all_append hname.2 hspace, takeWhile_all_append hname.2 hspace,
    takeWhile_all_append hdigits.2 ht, hdigits.head?_append]
  rw [if_pos ⟨hname.1, trivial⟩]
  simp
  omega

theorem IsAttachment.exists_concat (hm : IsAttachment m) :
    ∃ init d, m = init ++ [d] ∧ isDigit d = true := by
  obtain ⟨blanks, name, digits, rfl, -, -, hdigits⟩ := hm
  obtain ⟨ds, d, rfl⟩ := (List.eq_nil_or_concat digits).resolve_left hdigits.1
  exact ⟨',' :: (blanks ++ '!' :: (name ++ ' ' :: '!' :: ds)), d, by simp, hdigits.2 d (by simp)⟩

theorem isAttachment_of_attachment (h : attachment s ≠ 0) :
    ∃ m t, IsAttachment m ∧ Stops isDigit t ∧ s = m ++ t := by
  unfold attachment at h
  split at h
  · next s =>
    split at h
    · next name hmark =>
      split at h
      · next ds hspace =>
        dsimp only at h
        split at h
        · next hrun =>
          refine ⟨',' :: (s.takeWhile isBlank ++
              '!' :: (name.takeWhile isNameChar ++ ' ' :: '!' :: ds.takeWhile isDigit)),
            ds.dropWhile isDigit, ⟨_, _, _, rfl, ?_, ⟨hrun.1, ?_⟩, run_takeWhile hrun.2⟩,
            stops_dropWhile isDigit ds, ?_⟩
          · exact List.all_eq_true.1 List.all_takeWhile
          · exact List.all_eq_true.1 List.all_takeWhile
          · simp only [List.cons_append, List.append_assoc, List.takeWhile_append_dropWhile]
            rw [← hspace, List.takeWhile_append_dropWhile, ← hmark, trimStart,
              List.takeWhile_append_dropWhile]
        · contradiction
      · contradiction
    · contradiction
  · contradiction

end SpirvToolchain.Ir
