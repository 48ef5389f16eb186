import SpirvToolchain.Proofs.Ir.Lines
import SpirvToolchain.Proofs.Ir.Signs

/-!
What a line still shows of what the filters hide. A line is looked at before it is reduced, and
attachments are erased in one pass, so a sign can be put together by either.
-/
namespace SpirvToolchain.Ir

open Text

variable {f : Filters} {i m s u v x : List Char} {trim : Bool}

/-- A name that is followed by anything but one space and a number's mark is not attached. -/
theorem attachment_eq_zero {blanks name rest : List Char} (hblanks : ∀ c ∈ blanks, isBlank c = true)
    (hname : ∀ c ∈ name, isNameChar c = true) (hrest : Stops isNameChar rest)
    (hmark : ∀ ds, rest ≠ ' ' :: '!' :: ds) :
    attachment (',' :: (blanks ++ '!' :: (name ++ rest))) = 0 := by
  have hstart : Stops isBlank ('!' :: (name ++ rest)) := stops_cons (by decide) _
  simp only [attachment, trimStart, dropWhile_all_append hblanks hstart,
    dropWhile_all_append hname hrest]

/-- In a line that is yet to be trimmed, what will be an attachment is one as a whole or none. -/
theorem IsAttached.attachment_cases (hm : IsAttached trim m) :
    attachment m = 0 ∨ attachment m = m.length := by
  obtain ⟨blanks, name, gap, digits, rfl, hblanks, hname, hgap, hdigits⟩ := hm
  by_cases hsingle : gap = [' ']
  · subst hsingle
    have hself := attachment_append ⟨blanks, name, digits, rfl, hblanks, hname, hdigits⟩
      (stops_nil isDigit)
    rw [List.append_nil] at hself
    exact .inr hself
  · obtain ⟨hne, hblank⟩ : Run isBlank gap := hgap.run
    obtain ⟨c, gap, rfl⟩ := List.exists_cons_of_ne_nil hne
    obtain ⟨hc, hrest⟩ := List.forall_mem_cons.1 hblank
    refine .inl (attachment_eq_zero hblanks hname.2 (stops_cons ?_ _) fun ds heq => ?_)
    · refine Bool.eq_false_iff.2 fun h => ?_
      simp [isBlank_of_isNameChar h] at hc
    · obtain ⟨rfl, htail⟩ := List.cons.inj heq
      cases gap with
      | nil => exact hsingle rfl
      | cons d gap =>
        obtain ⟨rfl, -⟩ := List.cons.inj htail
        exact absurd (hrest '!' List.mem_cons_self) (by decide)

/-- No digit is left at the start of a line that starts with none. -/
theorem stops_erase_attachment (hs : Stops isDigit s) : Stops isDigit (erase attachment s) := by
  rw [erase]
  induction s using scan_induction attachment with
  | nil => exact hs
  | keep c s hn ih =>
    rw [replace_cons_of_no_match hn]
    exact stops_cons (hs c rfl) _
  | skip c s n hn ih =>
    rw [replace_cons_of_match hn, List.nil_append]
    refine ih ?_
    have hne : attachment (c :: s) ≠ 0 := by
      rw [hn]
      exact Nat.succ_ne_zero n
    obtain ⟨m, t, hm, ht, heq⟩ := isAttachment_of_attachment hne
    rw [heq, attachment_append hm ht] at hn
    have hdrop : s.drop n = (c :: s).drop (n + 1) := rfl
    rw [hdrop, heq, ← hn, List.drop_left]
    exact ht

/-- An attachment between the parts of a text starts with a comma, and no digit follows it. -/
theorem attachment_between (hjoins : Joins attachment x u i v) :
    (∃ i', i = ',' :: i') ∧ Stops isDigit v := by
  have hne : attachment (i ++ v) ≠ 0 := by
    rw [hjoins.matches_gap]
    exact fun h => hjoins.gap (List.length_eq_zero_iff.1 h)
  obtain ⟨m, t, hm, ht, heq⟩ := isAttachment_of_attachment hne
  have hlength := hjoins.matches_gap
  rw [heq, attachment_append hm ht] at hlength
  obtain ⟨rfl, rfl⟩ := List.append_inj heq hlength.symm
  obtain ⟨m', rfl, -⟩ := hm.exists_cons
  exact ⟨⟨m', rfl⟩, ht⟩

/-- The first part of an attachment that another stands in is none itself. -/
theorem attachment_opening (hm : IsAttached trim (',' :: x))
    (hjoins : Joins attachment (',' :: x) (',' :: u) i v) (b : List Char) :
    attachment (',' :: (u ++ (i ++ b))) = 0 := by
  by_contra h
  obtain ⟨m, t, hattachment, -, heq⟩ := isAttachment_of_attachment h
  obtain ⟨m', rfl, hcontinues⟩ := hattachment.exists_cons
  obtain ⟨⟨i', rfl⟩, hv⟩ := attachment_between hjoins
  have hcomma : ',' ∉ m' := fun hmem => absurd (hcontinues ',' hmem) (by decide)
  obtain ⟨r, rfl⟩ : m' <+: u :=
    (prefix_append_cons_iff hcomma).1 ⟨t, (List.cons.inj heq).2.symm⟩
  have hjoined : ',' :: x = (',' :: m') ++ (r ++ erase attachment v) := by
    rw [hjoins.eq]
    simp
  have hwhole := attachment_append_eq hattachment (r ++ erase attachment v)
  rw [← hjoined] at hwhole
  have hall : ((r ++ erase attachment v).takeWhile isDigit).length =
      (r ++ erase attachment v).length := by
    rcases hm.attachment_cases with hzero | hlength
    · rw [hzero, List.length_cons] at hwhole
      omega
    · rw [hlength, hjoined, List.length_append] at hwhole
      omega
  -- So digits go on where the other attachment stood, but none is left there.
  have hdigits := List.takeWhile_eq_self_iff.1 ((List.takeWhile_prefix isDigit).eq_of_length hall)
  obtain ⟨d, rest, hrest⟩ := List.exists_cons_of_ne_nil hjoins.rest
  have hdigit := hdigits d (by simp [hrest])
  rw [stops_erase_attachment hv d (by rw [hrest]; rfl)] at hdigit
  contradiction

theorem attached_erase_iff (hm : IsAttached trim m) : m <:+: erase attachment s ↔
    (∃ b, m ++ b <:+ s ∧ attachment (m ++ b) = 0) ∨ Parted attachment m s := by
  obtain ⟨x, rfl, hcontinues⟩ := hm.exists_cons
  have hx : ',' ∉ x := fun hmem => absurd (hcontinues ',' hmem) (by decide)
  have hapart := apart_attachment (c := ',') (by decide)
  constructor
  · intro h
    refine (local_attachment.infix_erase_cases (List.cons_ne_nil ',' x) h).imp_left ?_
    rintro ⟨a, b, rfl, hzero⟩
    exact ⟨b, List.suffix_append a _, hzero⟩
  · rintro (⟨b, ⟨a, rfl⟩, hzero⟩ | hparted)
    · exact marked_attachment.infix_erase hapart hx hzero a
    · exact marked_attachment.infix_erase_of_parted hapart hx
        (fun u i v b hjoins => attachment_opening hm hjoins b) hparted

theorem prefix_trimStart_erase_iff (hx : Edged x) (hcomma : ',' ∉ x) :
    x <+: trimStart (erase attachment s) ↔
      x <+: trimStart s ∨ ∃ p, Led x p ∧ OpensParted attachment p s := by
  have hlead (p : List Char) (hp : Led x p) : p <+: erase attachment s ↔
      p <+: s ∨ OpensParted attachment p s := by
    refine marked_attachment.prefix_erase_iff local_attachment ?_
    obtain ⟨blanks, rfl, hblanks⟩ := hp
    exact List.not_mem_append (fun h => absurd (hblanks ',' h) (by decide)) hcomma
  rw [← exists_led_iff hx, ← exists_led_iff hx]
  constructor
  · rintro ⟨p, hp, h⟩
    exact ((hlead p hp).1 h).imp (⟨p, hp, ·⟩) (⟨p, hp, ·⟩)
  · rintro (⟨p, hp, h⟩ | ⟨p, hp, h⟩)
    · exact ⟨p, hp, (hlead p hp).2 (.inl h)⟩
    · exact ⟨p, hp, (hlead p hp).2 (.inr h)⟩

theorem infix_erase_iff {c : Char} (hc : continues c = false) (hcomma : ',' ∉ c :: x) :
    c :: x <:+: erase attachment s ↔ c :: x <:+: s ∨ Parted attachment (c :: x) s := by
  rw [List.mem_cons, not_or] at hcomma
  have hzero := attachment_cons (Ne.symm hcomma.1)
  constructor
  · intro h
    refine (local_attachment.infix_erase_cases (List.cons_ne_nil c x) h).imp_left ?_
    rintro ⟨a, b, rfl, -⟩
    exact ⟨a, b, List.append_assoc a _ b⟩
  · rintro (⟨a, b, rfl⟩ | hparted)
    · rw [List.append_assoc]
      exact marked_attachment.infix_erase (apart_attachment hc) hcomma.2 (hzero _) a
    · exact marked_attachment.infix_erase_of_parted (apart_attachment hc) hcomma.2
        (fun _ _ _ _ _ => hzero _) hparted

theorem IsDefinition.comma_notMem (hx : IsDefinition x) : ',' ∉ x := by
  obtain ⟨name, blanks, rfl, hname, hblanks⟩ := hx
  have hout : ',' ∉ name := fun h => absurd (hname.2 ',' h) (by decide)
  have hwhite : ',' ∉ blanks := fun h => absurd (hblanks ',' h) (by decide)
  simp [hout, hwhite]

theorem IsGroup.comma_notMem (hx : IsGroup trim x) : ',' ∉ x := by
  obtain ⟨gap, d, rfl, hgap, hd⟩ := hx
  have hwhite : ',' ∉ gap := fun h => absurd (hgap.run.2 ',' h) (by decide)
  have hdigit : ',' ≠ d := by
    rintro rfl
    exact absurd hd (by decide)
  simp [hwhite, hdigit]

/-- What is left of a line before it is trimmed. -/
def detached (f : Filters) (s : List Char) : List Char :=
  if f.directives then erase attachment s else s

theorem detached_of_directives (hf : f.directives = true) (s : List Char) :
    detached f s = erase attachment s := if_pos hf

theorem reduce_eq_ite (f : Filters) (s : List Char) :
    reduce f s = if f.trim then squash (detached f s) else detached f s := rfl

/-- A sign that trimming does not touch is looked for in what is left before it. -/
theorem apply_reduce {sign : List Char → Bool} (hsquash : ∀ t, sign (squash t) = sign t)
    (f : Filters) (s : List Char) : sign (reduce f s) = sign (detached f s) := by
  rw [reduce_eq_ite]
  split
  · exact hsquash _
  · rfl

/-- Only attachments that are erased can bring out a sign that a line did not have. -/
theorem apply_detached_iff {sign : List Char → Bool} {brought : Prop} (hs : sign s = false)
    (herase : sign (erase attachment s) = true ↔ sign s = true ∨ brought) :
    sign (detached f s) = true ↔ f.directives = true ∧ brought := by
  rw [detached]
  split
  · next hd => simp [herase, hs, hd]
  · next hd => simp [hs, hd]

theorem isComment_erase_iff : isComment (erase attachment s) = true ↔
    isComment s = true ∨ ∃ p, Led [';'] p ∧ OpensParted attachment p s := by
  have hedged : Edged [';'] := ⟨⟨';', [], rfl, by decide⟩, ⟨[], ';', rfl, by decide⟩⟩
  rw [isComment_iff, isComment_iff, prefix_trimStart_erase_iff hedged (by decide)]

theorem isDebugCall_erase_iff : isDebugCall (erase attachment s) = true ↔
    isDebugCall s = true ∨ (Parted attachment "@llvm.dbg.".toList s ∨
      ∃ p, Led "#dbg_".toList p ∧ OpensParted attachment p s) := by
  have hedged : Edged "#dbg_".toList :=
    ⟨⟨'#', "dbg_".toList, rfl, by decide⟩, ⟨"#dbg".toList, '_', rfl, by decide⟩⟩
  have hcall : "@llvm.dbg.".toList <:+: erase attachment s ↔
      "@llvm.dbg.".toList <:+: s ∨ Parted attachment "@llvm.dbg.".toList s :=
    infix_erase_iff (by decide) (by decide)
  rw [isDebugCall_iff, isDebugCall_iff, hcall, prefix_trimStart_erase_iff hedged (by decide)]
  exact or_or_or_comm

theorem isMetadataDefinition_erase_iff : isMetadataDefinition (erase attachment s) = true ↔
    isMetadataDefinition s = true ∨
      ∃ x p, IsDefinition x ∧ Led x p ∧ OpensParted attachment p s := by
  rw [isMetadataDefinition_iff, isMetadataDefinition_iff]
  constructor
  · rintro ⟨x, hx, h⟩
    rcases (prefix_trimStart_erase_iff hx.edged hx.comma_notMem).1 h with h | ⟨p, hp, h⟩
    · exact .inl ⟨x, hx, h⟩
    · exact .inr ⟨x, p, hx, hp, h⟩
  · rintro (⟨x, hx, h⟩ | ⟨x, p, hx, hp, h⟩)
    · exact ⟨x, hx, (prefix_trimStart_erase_iff hx.edged hx.comma_notMem).2 (.inl h)⟩
    · exact ⟨x, hx, (prefix_trimStart_erase_iff hx.edged hx.comma_notMem).2 (.inr ⟨p, hp, h⟩)⟩

theorem isAttributeGroup_reduce_iff (hf : f.directives = true) :
    isAttributeGroup (reduce f s) = true ↔
      ∃ x, IsGroup f.trim x ∧ (x <+: s ∨ OpensParted attachment x s) := by
  have herase : (∃ x, IsGroup f.trim x ∧ x <+: erase attachment s) ↔
      ∃ x, IsGroup f.trim x ∧ (x <+: s ∨ OpensParted attachment x s) :=
    exists_congr fun x => and_congr_right fun hx =>
      marked_attachment.prefix_erase_iff local_attachment hx.comma_notMem
  rw [← herase, reduce_eq_ite, detached_of_directives hf]
  cases f.trim with
  | false => exact isAttributeGroup_iff_isGroup
  | true => exact isAttributeGroup_squash

theorem holdsAttachment_reduce_iff (hf : f.directives = true) :
    HoldsAttachment (reduce f s) ↔ ∃ m, IsAttached f.trim m ∧
      ((∃ b, m ++ b <:+ s ∧ attachment (m ++ b) = 0) ∨ Parted attachment m s) := by
  have herase : (∃ m, IsAttached f.trim m ∧ m <:+: erase attachment s) ↔ ∃ m, IsAttached f.trim m ∧
      ((∃ b, m ++ b <:+ s ∧ attachment (m ++ b) = 0) ∨ Parted attachment m s) :=
    exists_congr fun m => and_congr_right attached_erase_iff
  rw [← herase, reduce_eq_ite, detached_of_directives hf]
  cases f.trim with
  | false => exact holdsAttachment_iff
  | true => exact holdsAttachment_squash

theorem squash_cases (s : List Char) : squash s = spaced (words (squash s)) ∨
    squash s = ' ' :: ' ' :: spaced (words (squash s)) := by
  rw [words_squash, squash_eq]
  split
  · exact .inr rfl
  · exact .inl rfl

/-- What a line that is left of `s` shows of what the filters name. -/
structure Shows (f : Filters) (s l : List Char) : Prop where
  comment : f.commentOnly = true → (isComment l = true ↔
    f.directives = true ∧ ∃ p, Led [';'] p ∧ OpensParted attachment p s)
  debugCall : f.debugCalls = true → (isDebugCall l = true ↔
    f.directives = true ∧ (Parted attachment "@llvm.dbg.".toList s ∨
      ∃ p, Led "#dbg_".toList p ∧ OpensParted attachment p s))
  definition : f.directives = true → (isMetadataDefinition l = true ↔
    ∃ x p, IsDefinition x ∧ Led x p ∧ OpensParted attachment p s)
  group : f.directives = true → (isAttributeGroup l = true ↔
    ∃ x, IsGroup f.trim x ∧ (x <+: s ∨ OpensParted attachment x s))
  attached : f.directives = true → (HoldsAttachment l ↔
    ∃ m, IsAttached f.trim m ∧
      ((∃ b, m ++ b <:+ s ∧ attachment (m ++ b) = 0) ∨ Parted attachment m s))
  trimmed : f.trim = true →
    l = spaced (words l) ∨ l = ' ' :: ' ' :: spaced (words l)

theorem keeps_iff : keeps f s = true ↔ (f.directives = true → isDirective s = false) ∧
    (f.debugCalls = true → isDebugCall s = false) ∧
    (f.commentOnly = true → isComment s = false) := by
  have himplies (a b : Bool) : (!(a && b)) = true ↔ (a = true → b = false) := by
    cases a <;> simp
  rw [keeps, Bool.and_eq_true, Bool.and_eq_true, himplies, himplies, himplies, and_assoc]

theorem shows_reduce (hs : keeps f s = true) : Shows f s (reduce f s) where
  comment hf := by
    have hnone := (keeps_iff.1 hs).2.2 hf
    rw [apply_reduce isComment_squash, apply_detached_iff hnone isComment_erase_iff]
  debugCall hf := by
    have hnone := (keeps_iff.1 hs).2.1 hf
    rw [apply_reduce isDebugCall_squash, apply_detached_iff hnone isDebugCall_erase_iff]
  definition hf := by
    have hnone := (Bool.or_eq_false_iff.1 ((keeps_iff.1 hs).1 hf)).1
    rw [apply_reduce isMetadataDefinition_squash,
      apply_detached_iff hnone isMetadataDefinition_erase_iff, hf, eq_self, true_and]
  group := isAttributeGroup_reduce_iff
  attached := holdsAttachment_reduce_iff
  trimmed hf := by
    rw [reduce_eq_ite, if_pos hf]
    exact squash_cases _

/--
Each line left of a dump hides what the filters name, but for what comes together in it: a sign
that attachments stood in or before, and, when trimming, a group or an attachment that is told by a
space where the line has other white space.
-/
theorem process_hides {text : String} (hnul : '\x00' ∉ text.toList) (f : Filters) :
    ∃ origins : List (List Char), origins.Sublist ((lines text.toList).filter (keeps f)) ∧
      process text f = .ok (origins.map fun s => { text := String.ofList (reduce f s) }) ∧
      ∀ s ∈ origins, Shows f s (reduce f s) := by
  obtain ⟨origins, hsublist, heq⟩ := exists_origins f text.toList
  refine ⟨origins, hsublist, ?_, fun s hs => ?_⟩
  · rw [process_eq_ok hnul, heq, List.map_map]
    rfl
  · exact shows_reduce (List.of_mem_filter (hsublist.subset hs))

/-- White space in an attachment, an attachment in another, and one before a comment. -/
def leakyDump : String := "  ret void, !dbg  !17\nx, !a, !b !1 !2\n, !dbg !1; note\n"

theorem process_hides_leakyDump :
    let f : Filters := { directives := true, commentOnly := true, trim := true }
    '\x00' ∉ leakyDump.toList ∧
    process leakyDump f =
      .ok [{ text := "  ret void, !dbg !17" }, { text := "x, !a !2" }, { text := "; note" }] ∧
    ∃ s ∈ lines leakyDump.toList, isComment s = false ∧
      ∃ p, Led [';'] p ∧ OpensParted attachment p s := by
  intro f
  have hnul : '\x00' ∉ leakyDump.toList := by decide
  have hleft : process leakyDump f =
      .ok [{ text := "  ret void, !dbg !17" }, { text := "x, !a !2" }, { text := "; note" }] := by decide
  obtain ⟨origins, hsublist, heq, hshows⟩ := process_hides hnul f
  refine ⟨hnul, hleft, ?_⟩
  rw [hleft, Except.ok.injEq] at heq
  have hnote : ({ text := "; note" } : Line) ∈
      origins.map fun s => { text := String.ofList (reduce f s) } := by
    rw [← heq]
    decide
  obtain ⟨s, hs, htext⟩ := List.mem_map.1 hnote
  have hstring : String.ofList (reduce f s) = "; note" := congrArg Line.text htext
  have hreduce : reduce f s = "; note".toList := by rw [← hstring, String.toList_ofList]
  obtain ⟨hline, hkeeps⟩ := List.mem_filter.1 (hsublist.subset hs)
  have hcomment : isComment (reduce f s) = true := by
    rw [hreduce]
    decide
  exact ⟨s, hline, (keeps_iff.1 hkeeps).2.2 rfl, (((hshows s hs).comment rfl).1 hcomment).2⟩

end SpirvToolchain.Ir
