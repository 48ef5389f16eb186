import SpirvToolchain.Process.Capture
import SpirvToolchain.Proofs.Text.Utf8

/-! What is kept of a stream does not depend on its reads, and what is shown of it is its start. -/
namespace SpirvToolchain.Capture

open Text (Utf8.Octets)
open Text.Utf8

variable {limit : Nat} {k : Kept} {seen : Utf8.Octets} {chunks : List Utf8.Octets}

/-- What is kept after the octets `seen`: the first of them, and whether there were more. -/
def Kept.Of (limit : Nat) (seen : Utf8.Octets) (k : Kept) : Prop :=
  k.octets = seen.take limit ∧ k.truncated = decide (limit < seen.length)

theorem Kept.of_nil (limit : Nat) : Kept.Of limit [] {} := by
  simp [Kept.Of]

theorem Kept.Of.read (h : Kept.Of limit seen k) (chunk : Utf8.Octets) :
    Kept.Of limit (seen ++ chunk) (k.read limit chunk) := by
  obtain ⟨hoctets, htruncated⟩ := h
  have hroom : limit - k.octets.length = limit - seen.length := by
    rw [hoctets, List.length_take]
    omega
  simp only [Kept.read, hroom]
  split
  · next hcut =>
    refine ⟨by rw [hoctets, List.take_append], ?_⟩
    rw [List.length_append, eq_comm, decide_eq_true_iff]
    omega
  · next hwhole =>
    refine ⟨by rw [hoctets, List.take_append, List.take_of_length_le (Nat.not_lt.1 hwhole)], ?_⟩
    rw [htruncated, List.length_append, decide_eq_decide]
    omega

theorem Kept.Of.foldl_read (h : Kept.Of limit seen k) (chunks : List Utf8.Octets) :
    Kept.Of limit (seen ++ chunks.flatten) (chunks.foldl (Kept.read limit) k) := by
  induction chunks generalizing seen k with
  | nil => simpa using h
  | cons chunk chunks ih => simpa using ih (h.read chunk)

theorem readCapped_of (limit : Nat) (chunks : List Utf8.Octets) :
    Kept.Of limit chunks.flatten (readCapped limit chunks) :=
  (Kept.of_nil limit).foldl_read chunks

/-- The longest start of `s` that takes no more than `limit` octets. -/
structure LongestStart (limit : Nat) (s p : String) : Prop where
  start : p.toList <+: s.toList
  fits : p.utf8ByteSize ≤ limit
  longest : ∀ q : String, q.toList <+: s.toList → q.utf8ByteSize ≤ limit → q.toList <+: p.toList

theorem utf8ByteSize_eq (s : String) : s.utf8ByteSize = (encode s.toList).length := by
  rw [← toUTF8_eq]
  rfl

theorem longestStart_fitting (limit : Nat) (s : String) :
    LongestStart limit s (String.ofList (fitting limit s.toList)) where
  start := by
    obtain ⟨t, ht⟩ := fitting_append limit s.toList
    exact ⟨t, by rw [String.toList_ofList, ht]⟩
  fits := by
    rw [utf8ByteSize_eq, String.toList_ofList]
    exact length_encode_fitting limit s.toList
  longest q hq hfits := by
    rw [utf8ByteSize_eq] at hfits
    rw [String.toList_ofList]
    exact fitting_maximal hq hfits

theorem decode_of_whole (h : k.truncated = false) :
    k.decode = String.ofList (decodeLossy k.octets) := by
  simp [Kept.decode, h]

/-- A text and, on a line of its own, that it was cut. -/
def marked (shown : String) : String :=
  (if shown.toList.getLast? = some '\n' then shown else shown ++ "\n") ++ "[Truncated]"

theorem decode_of_cut (h : k.truncated = true) :
    k.decode = marked (String.ofList (decodeLossy k.octets)) := by
  simp only [Kept.decode, h, marked, truncatedMarker, String.toList_ofList, if_true]
  split
  · rfl
  · rw [String.ofList_append]

/--
However a text arrives, it is shown as it is if it fits. Otherwise its longest start that fits is,
with one replacement if a character was cut, and a last line that says so.
-/
theorem decode_readCapped (s : String) (limit : Nat)
    (hchunks : chunks.flatten = s.toUTF8.data.toList) :
    (s.utf8ByteSize ≤ limit →
      (readCapped limit chunks).truncated = false ∧ (readCapped limit chunks).decode = s) ∧
    (limit < s.utf8ByteSize →
      (readCapped limit chunks).truncated = true ∧ ∃ p, LongestStart limit s p ∧
        (readCapped limit chunks).decode =
          marked (if p.utf8ByteSize < limit then p ++ "\uFFFD" else p)) := by
  have hkept := readCapped_of limit chunks
  rw [hchunks, toUTF8_eq] at hkept
  obtain ⟨hoctets, htruncated⟩ := hkept
  rw [← utf8ByteSize_eq] at htruncated
  refine ⟨fun hfits => ?_, fun hcut => ?_⟩
  · have hwhole : (readCapped limit chunks).truncated = false := by simpa [htruncated] using hfits
    have hall : (encode s.toList).length ≤ limit := by rwa [← utf8ByteSize_eq]
    refine ⟨hwhole, ?_⟩
    rw [decode_of_whole hwhole, hoctets, List.take_of_length_le hall, decodeLossy_encode,
      String.ofList_toList]
  · have htrue : (readCapped limit chunks).truncated = true := by simpa [htruncated] using hcut
    have hless : limit ≤ (encode s.toList).length := by
      rw [← utf8ByteSize_eq]
      exact Nat.le_of_lt hcut
    refine ⟨htrue, _, longestStart_fitting limit s, ?_⟩
    rw [decode_of_cut htrue, hoctets, decodeLossy_take_encode hless, utf8ByteSize_eq,
      String.toList_ofList]
    split
    · rw [String.ofList_append]
      rfl
    · rw [List.append_nil]

/-- Reads of `a€` and a newline, each but the first starting inside the second character. -/
def sampleReads : List Utf8.Octets := [[0x61, 0xE2], [0x82], [0xAC, 0x0A]]

theorem decode_readCapped_cut :
    sampleReads.flatten = "a€\n".toUTF8.data.toList ∧ 3 < "a€\n".utf8ByteSize ∧
      (readCapped 3 sampleReads).truncated = true ∧ ∃ p, LongestStart 3 "a€\n" p ∧
        (readCapped 3 sampleReads).decode =
          marked (if p.utf8ByteSize < 3 then p ++ "\uFFFD" else p) := by
  have hreads : sampleReads.flatten = "a€\n".toUTF8.data.toList := by decide
  have hcut : 3 < "a€\n".utf8ByteSize := by decide
  exact ⟨hreads, hcut, (decode_readCapped "a€\n" 3 hreads).2 hcut⟩

example : (readCapped 3 sampleReads).decode = "a\uFFFD\n[Truncated]" := by decide

end SpirvToolchain.Capture
