import SpirvToolchain.Proofs.Text.Search
import SpirvToolchain.Text.Ansi

/-! Where no escape stands, there is no sequence to remove. -/
namespace SpirvToolchain.Text.Ansi

variable {s : List Char} {c : Char}

theorem sequence_cons (hc : c ≠ escape) (s : List Char) : sequence (c :: s) = 0 := by
  unfold sequence
  split
  · next e s heq =>
    obtain ⟨rfl, -⟩ := List.cons.inj heq
    rw [if_neg hc]
  · rfl

theorem strip_cons (hc : c ≠ escape) (s : List Char) : strip (c :: s) = c :: strip s :=
  replace_cons_of_no_match (sequence_cons hc _)

theorem strip_append (hs : escape ∉ s) (t : List Char) : strip (s ++ t) = s ++ strip t :=
  replace_append_of_mem fun _ hc => sequence_cons (ne_of_mem_of_not_mem hc hs)

theorem strip_eq_self (hs : escape ∉ s) : strip s = s := by
  have hstrip := strip_append hs []
  rwa [List.append_nil, show strip [] = [] from rfl, List.append_nil] at hstrip

end SpirvToolchain.Text.Ansi
