import SpirvToolchain.Proofs.Ir.Erasure
import SpirvToolchain.Proofs.Ir.LineEnds
import SpirvToolchain.Proofs.Ir.Lines
import SpirvToolchain.Proofs.Text.Visible

/-! Trimmed dumps: blank lines and returns at the ends of lines make no difference to them. -/
namespace SpirvToolchain.Ir

open Text

variable {f : Filters} {s t : List Char}

/-- An attachment ends in a digit, so none goes on into returns. -/
theorem apart_returns (ht : ∀ c ∈ t, c = '\r') (s : List Char) : Apart attachment s t := by
  refine local_attachment.apart fun v _ _ => ?_
  by_cases h : attachment (v ++ t) = 0
  · rw [h]
    exact Nat.zero_le _
  · obtain ⟨m, r, hm, hr, heq⟩ := isAttachment_of_attachment h
    obtain ⟨init, d, rfl, hd⟩ := hm.exists_concat
    rw [heq, attachment_append hm hr]
    rcases List.append_eq_append_iff.1 heq with ⟨b, hb, rfl⟩ | ⟨b, rfl, -⟩
    · obtain rfl | ⟨b, d', rfl⟩ := List.eq_nil_or_concat' b
      · rw [hb, List.append_nil]
      · rw [← List.append_assoc] at hb
        obtain rfl : d = d' := by simpa using (List.append_inj' hb rfl).2
        rw [ht d (by simp)] at hd
        exact absurd hd (by decide)
    · exact (List.prefix_append (init ++ [d]) b).length_le

theorem erase_append_returns (ht : ∀ c ∈ t, c = '\r') (s : List Char) :
    erase attachment (s ++ t) = erase attachment s ++ t := by
  have hself : erase attachment t = t :=
    marked_attachment.erase_eq_self fun h => absurd (ht ',' h) (by decide)
  have happend : erase attachment (s ++ t) = erase attachment s ++ erase attachment t :=
    replace_append (apart_returns ht s)
  rw [happend, hself]

theorem reduce_append_returns (hf : f.trim = true) (ht : ∀ c ∈ t, c = '\r') (s : List Char) :
    reduce f (s ++ t) = reduce f s := by
  have hblank : allBlank t = true := by
    refine List.all_eq_true.2 fun c hc => ?_
    rw [ht c hc]
    exact isBlank_return
  cases hd : f.directives with
  | false => simp [reduce, hf, hd, squash_append_of_allBlank hblank]
  | true => simp [reduce, hf, hd, erase_append_returns ht, squash_append_of_allBlank hblank]

theorem erase_of_allBlank (hs : allBlank s = true) : erase attachment s = s :=
  marked_attachment.erase_eq_self fun h => absurd (List.all_eq_true.1 hs ',' h) (by decide)

theorem allBlank_reduce (hf : f.trim = true) (hs : allBlank s = true) :
    allBlank (reduce f s) = true := by
  simpa [reduce, hf, allBlank_squash, erase_of_allBlank hs] using hs

/-- What is left to see of a line when trimming. -/
def seen? (f : Filters) (s : List Char) : Option (List Char) :=
  (left? f s).filter (!allBlank ·)

theorem filterLines_eq_seen (hf : f.trim = true) (ls : List (List Char)) :
    filterLines f ls = ls.filterMap (seen? f) := by
  rw [filterLines_eq_tidy, hf, tidy_true, inked, List.filter_filterMap]
  rfl

theorem seen?_append_returns (hf : f.trim = true) (ht : ∀ c ∈ t, c = '\r') (s : List Char) :
    seen? f (s ++ t) = seen? f s := by
  rw [seen?, seen?, left?, left?, keeps_append (.of_returns ht), reduce_append_returns hf ht]

theorem seen?_of_allBlank (hf : f.trim = true) (hs : allBlank s = true) : seen? f s = none := by
  have hblank := allBlank_reduce hf hs
  cases hk : keeps f s <;> simp [seen?, left?, hk, hblank]

theorem seen?_shown (hf : f.trim = true) (s : List Char) :
    (shown? s).bind (seen? f) = seen? f s := by
  obtain ⟨t, ht, heq⟩ := exists_trimReturns_append s
  have hseen : seen? f s = seen? f (trimReturns s) := by
    rw [← heq, seen?_append_returns hf ht, heq]
  rw [hseen, shown?]
  split
  · next hblank => exact (seen?_of_allBlank hf hblank).symm
  · rfl

theorem filter_unlines_visible (hf : f.trim = true) (s : List Char) :
    filter f (unlines (visible s)) = filter f s := by
  have hseen : (visible s).filterMap (seen? f) = (lines s).filterMap (seen? f) := by
    rw [visible, List.filterMap_filterMap]
    exact List.filterMap_congr fun l _ => seen?_shown hf l
  rw [filter_eq, filter_eq, lines_unlines_visible, filterLines_eq_seen hf, filterLines_eq_seen hf,
    hseen]

/-- A trimmed dump is the same whether it is read from a text or from what the text shows. -/
theorem process_unlines_visible (hf : f.trim = true) (text : String) :
    process (String.ofList (unlines (visible text.toList))) f = process text f := by
  simp only [process, String.toList_ofList, filter_unlines_visible hf,
    mem_unlines_visible_iff (show isBlank '\x00' = false by decide)]

end SpirvToolchain.Ir
