import SpirvToolchain.Proofs.Ir.Attachment
import SpirvToolchain.Proofs.Text.Erase

/-! What a line shows once attachments are erased, told by the line itself. -/
namespace SpirvToolchain.Ir

open Text

variable {g m t : List Char} {c : Char} {trim : Bool}

/-- Whether an attachment, once it is opened, can go on with the character. -/
def continues (c : Char) : Bool := isBlank c || isNameChar c || isDigit c || c == '!'

/-- What parts a sign in two: one space, or in a line that is yet to be trimmed any white space. -/
def Gap (trim : Bool) (g : List Char) : Prop := if trim then Run isBlank g else g = [' ']

/-- A comma, white space or none, and the metadata: `!name` and `!N` with a gap between them. -/
def IsAttached (trim : Bool) (m : List Char) : Prop :=
  ∃ blanks name gap digits, m = ',' :: (blanks ++ '!' :: (name ++ (gap ++ '!' :: digits))) ∧
    (∀ c ∈ blanks, isBlank c = true) ∧ Run isNameChar name ∧ Gap trim gap ∧ Run isDigit digits

theorem Gap.run (hg : Gap trim g) : Run isBlank g := by
  cases trim with
  | false =>
    obtain rfl : g = [' '] := hg
    exact ⟨List.cons_ne_nil _ _, List.forall_mem_singleton.2 isBlank_space⟩
  | true => exact hg

theorem isAttached_false_iff : IsAttached false m ↔ IsAttachment m := by
  constructor
  · rintro ⟨blanks, name, gap, digits, rfl, hblanks, hname, rfl, hdigits⟩
    exact ⟨blanks, name, digits, rfl, hblanks, hname, hdigits⟩
  · rintro ⟨blanks, name, digits, rfl, hblanks, hname, hdigits⟩
    exact ⟨blanks, name, [' '], digits, rfl, hblanks, hname, rfl, hdigits⟩

theorem IsAttached.exists_cons (hm : IsAttached trim m) :
    ∃ m', m = ',' :: m' ∧ ∀ c ∈ m', continues c = true := by
  obtain ⟨blanks, name, gap, digits, rfl, hblanks, hname, hgap, hdigits⟩ := hm
  refine ⟨_, rfl, fun c hc => ?_⟩
  simp only [List.mem_append, List.mem_cons] at hc
  rcases hc with hc | rfl | hc | hc | rfl | hc
  · simp [continues, hblanks c hc]
  · rfl
  · simp [continues, hname.2 c hc]
  · simp [continues, hgap.run.2 c hc]
  · rfl
  · simp [continues, hdigits.2 c hc]

theorem IsAttachment.exists_cons (hm : IsAttachment m) :
    ∃ m', m = ',' :: m' ∧ ∀ c ∈ m', continues c = true :=
  (isAttached_false_iff.2 hm).exists_cons

theorem IsAttachment.append_digits (hm : IsAttachment m) (ht : ∀ c ∈ t, isDigit c = true) :
    IsAttachment (m ++ t) := by
  obtain ⟨blanks, name, digits, rfl, hblanks, hname, hdigits⟩ := hm
  refine ⟨blanks, name, digits ++ t, by simp, hblanks, hname, ?_, ?_⟩
  · simp [hdigits.1]
  · exact List.forall_mem_append.2 ⟨hdigits.2, ht⟩

/-- An attachment is matched with all the digits that follow it. -/
theorem attachment_append_eq (hm : IsAttachment m) (t : List Char) :
    attachment (m ++ t) = m.length + (t.takeWhile isDigit).length := by
  have hlong := hm.append_digits (t := t.takeWhile isDigit) fun _ => List.mem_takeWhile_imp
  have hmatch := attachment_append hlong (stops_dropWhile isDigit t)
  rw [List.append_assoc, List.takeWhile_append_dropWhile, List.length_append] at hmatch
  exact hmatch

theorem attachment_cons (hc : c ≠ ',') (s : List Char) : attachment (c :: s) = 0 := by
  by_contra h
  obtain ⟨m, t, hm, -, heq⟩ := isAttachment_of_attachment h
  obtain ⟨m', rfl, -⟩ := hm.exists_cons
  exact hc (List.cons.inj heq).1

theorem local_attachment : Local attachment where
  within s := by
    by_cases h : attachment s = 0
    · rw [h]
      exact Nat.zero_le _
    · obtain ⟨m, t, hm, ht, rfl⟩ := isAttachment_of_attachment h
      rw [attachment_append hm ht, List.length_append]
      exact Nat.le_add_right _ _
  cut s t hfits := by
    by_cases h : attachment (s ++ t) = 0
    · rw [h]
      by_contra hs
      obtain ⟨m, r, hm, -, rfl⟩ := isAttachment_of_attachment hs
      rw [List.append_assoc, attachment_append_eq hm] at h
      obtain ⟨m', rfl, -⟩ := hm.exists_cons
      simp at h
    · obtain ⟨m, r, hm, hr, heq⟩ := isAttachment_of_attachment h
      rw [heq, attachment_append hm hr] at hfits ⊢
      obtain ⟨r', rfl⟩ := List.prefix_of_prefix_length_le ⟨r, heq.symm⟩ (List.prefix_append s t) hfits
      have hr' : Stops isDigit r' := by
        rw [List.append_assoc, List.append_cancel_left_eq] at heq
        cases r' with
        | nil => exact stops_nil isDigit
        | cons c r' =>
          rw [← heq] at hr
          exact hr
      exact attachment_append hm hr'

theorem marked_attachment : Marked attachment ',' where
  start _ s hc := attachment_cons hc s
  stays s t hpos hend := by
    obtain ⟨m, r, hm, hr, rfl⟩ := isAttachment_of_attachment hpos
    rw [attachment_append hm hr] at hend ⊢
    cases r with
    | nil => simp at hend
    | cons c r =>
      rw [List.append_assoc]
      exact attachment_append hm hr

/-- No attachment goes over a character that only starts one, or has no place in one. -/
theorem apart_attachment (hc : continues c = false) (s t : List Char) :
    Apart attachment s (c :: t) := by
  refine local_attachment.apart fun v hne _ => ?_
  by_cases h : attachment (v ++ c :: t) = 0
  · rw [h]
    exact Nat.zero_le _
  · obtain ⟨m, r, hm, hr, heq⟩ := isAttachment_of_attachment h
    rw [heq, attachment_append hm hr]
    obtain ⟨m', rfl, hcontinues⟩ := hm.exists_cons
    obtain ⟨d, v, rfl⟩ := List.exists_cons_of_ne_nil hne
    have hnot : c ∉ m' := fun hmem => by simp [hcontinues c hmem] at hc
    have hin : m' ++ r = v ++ c :: t := (List.cons.inj heq).2.symm
    have hstart : m' <+: v := (prefix_append_cons_iff hnot).1 ⟨r, hin⟩
    exact Nat.succ_le_succ hstart.length_le

theorem erase_attachment_append_cons (hc : continues c = false) (s t : List Char) :
    erase attachment (s ++ c :: t) = erase attachment s ++ erase attachment (c :: t) :=
  replace_append (apart_attachment hc s t)

end SpirvToolchain.Ir
