import SpirvToolchain.Proofs.Compilation.Joined
import SpirvToolchain.Proofs.Compilation.Plain
import SpirvToolchain.Proofs.Compilation.Tag
import SpirvToolchain.Proofs.Process.Capture

/-! Streams read through one buffer: what a report shows of them is told by their octets alone. -/
namespace SpirvToolchain.Capture

open Text (Utf8.Octets lines)
open Text.Utf8

variable {limit n : Nat} {k : Kept} {buffer chunk all : Octets} {chunks : List Octets}

/-- The octets of the buffer that every read fills from its start. -/
def bufferSize : Nat := 8192

/-- One read before the end of a stream. -/
structure IsRead (chunk : Octets) : Prop where
  some_read : 0 < chunk.length
  fits : chunk.length ≤ bufferSize

/-- The buffer after a read; behind what was read stands what stood there before. -/
def refill (buffer chunk : Octets) : Octets :=
  (chunk ++ buffer.drop chunk.length).take buffer.length

/-- The first `n` octets of a buffer, which must have as many. -/
def slice? (n : Nat) (buffer : Octets) : Option Octets :=
  if n ≤ buffer.length then some (buffer.take n) else none

/-- Reads on until one brings nothing; what is kept of a read is cut out of the buffer. -/
def readThrough? (limit : Nat) : Octets → Kept → List Octets → Option Kept
  | _, k, [] => some k
  | buffer, k, chunk :: chunks =>
    if chunk.length = 0 then some k
    else
      let buffer := refill buffer chunk
      let room := limit - k.octets.length
      if chunk.length > room then
        (slice? room buffer).bind fun part =>
          readThrough? limit buffer ⟨k.octets ++ part, true⟩ chunks
      else
        (slice? chunk.length buffer).bind fun part =>
          readThrough? limit buffer ⟨k.octets ++ part, k.truncated⟩ chunks

theorem length_refill (buffer chunk : Octets) : (refill buffer chunk).length = buffer.length := by
  simp only [refill, List.length_take, List.length_append, List.length_drop]
  omega

/-- A slice no longer than the last read lies inside the buffer, and has nothing older in it. -/
theorem slice?_refill (hfits : chunk.length ≤ buffer.length) (hn : n ≤ chunk.length) :
    slice? n (refill buffer chunk) = some (chunk.take n) := by
  have hinside : n ≤ (refill buffer chunk).length := by
    rw [length_refill]
    omega
  rw [slice?, if_pos hinside, refill, List.take_take, Nat.min_eq_left (by omega),
    List.take_append_of_le_length hn]

theorem readThrough?_eq (hbuffer : buffer.length = bufferSize)
    (hchunks : ∀ chunk ∈ chunks, IsRead chunk) (k : Kept) :
    readThrough? limit buffer k chunks = some (chunks.foldl (Kept.read limit) k) := by
  induction chunks generalizing buffer k with
  | nil => rfl
  | cons chunk chunks ih =>
    obtain ⟨hread, hchunks⟩ := List.forall_mem_cons.1 hchunks
    have hfits : chunk.length ≤ buffer.length := by
      rw [hbuffer]
      exact hread.fits
    have hne : chunk.length ≠ 0 := Nat.ne_of_gt hread.some_read
    have hrest := ih ((length_refill buffer chunk).trans hbuffer) hchunks
    rw [readThrough?, if_neg hne, List.foldl_cons, Kept.read]
    by_cases hcut : chunk.length > limit - k.octets.length
    · rw [if_pos hcut, if_pos hcut, slice?_refill hfits (Nat.le_of_lt hcut)]
      exact hrest _
    · rw [if_neg hcut, if_neg hcut, slice?_refill hfits (Nat.le_refl _), List.take_length]
      exact hrest _

theorem parseOutput_newline (shown : String) (input : Option String) :
    parseOutput (shown ++ "\n") input = parseOutput shown input := by
  have hseam := parseOutput_append_newline shown "" input
  have hempty : parseOutput "" input = [] := rfl
  rwa [String.append_empty, hempty, List.append_nil] at hseam

/-- The path of a source has a slash in it, and the line that tells of a cut has none. -/
theorem parseOutput_truncatedMarker {path : String} (hslash : '/' ∈ path.toList) :
    parseOutput truncatedMarker (some path) = [{ text := truncatedMarker }] := by
  have hlines : lines truncatedMarker.toList = [truncatedMarker.toList] := by decide
  have hne : path ≠ "" := by
    rintro rfl
    cases hslash
  have habsent : ¬ path.toList <:+: truncatedMarker.toList := by
    intro h
    exact absurd (h.subset hslash) (by decide)
  have hshown : shownAs path.toList truncatedMarker.toList = truncatedMarker.toList := by
    rw [shownAs_plain (by decide) habsent]
    decide
  have htag : Tag.parse? truncatedMarker.toList = none := Tag.parse?_of_other (by decide)
  have hraw : Line.ofRaw? (some path) truncatedMarker.toList =
      some { text := truncatedMarker } := by
    rw [Line.ofRaw?_eq hne, hshown, htag, String.ofList_toList]
    rfl
  rw [parseOutput, hlines, List.filterMap_cons, hraw]
  rfl

/-- That line stands by itself, however the text before it ends. -/
theorem parseOutput_marked {path : String} (hslash : '/' ∈ path.toList) (shown : String) :
    parseOutput (marked shown) (some path) =
      parseOutput shown (some path) ++ [{ text := truncatedMarker }] := by
  have hmark := parseOutput_truncatedMarker hslash
  by_cases hend : shown.toList.getLast? = some '\n'
  · obtain ⟨t, ht⟩ := List.getLast?_eq_some_iff.1 hend
    have hshown : shown = String.ofList t ++ "\n" := by
      rw [← String.toList_inj, ht]
      simp
    have hmarked : marked shown = String.ofList t ++ "\n" ++ truncatedMarker := by
      rw [marked, if_pos hend, hshown]
      rfl
    rw [hmarked, parseOutput_append_newline, hmark, hshown, parseOutput_newline]
  · have hmarked : marked shown = shown ++ "\n" ++ truncatedMarker := by
      rw [marked, if_neg hend]
      rfl
    rw [hmarked, parseOutput_append_newline, hmark]

/-- How a report shows a stream of which `limit` octets are kept: one line more if it was cut. -/
structure Shows (limit : Nat) (path : String) (all : Octets) (shown : List Line) : Prop where
  cut : limit < all.length → shown =
    parseOutput (String.ofList (decodeLossy (all.take limit))) (some path) ++
      [{ text := "[Truncated]" }]
  whole : all.length ≤ limit → shown = parseOutput (String.ofList (decodeLossy all)) (some path)

theorem Kept.Of.shows (h : Kept.Of limit all k) {path : String} (hslash : '/' ∈ path.toList) :
    Shows limit path all (parseOutput k.decode (some path)) := by
  obtain ⟨hoctets, htruncated⟩ := h
  constructor
  · intro hcut
    have htrue : k.truncated = true := by simpa [htruncated] using hcut
    rw [decode_of_cut htrue, hoctets, parseOutput_marked hslash]
    rfl
  · intro hwhole
    have hfalse : k.truncated = false := by simpa [htruncated] using hwhole
    rw [decode_of_whole hfalse, hoctets, List.take_of_length_le hwhole]

/--
A stream read through one buffer is never cut out past the end of a read, and its start is kept
whatever its reads; a report shows that start, and tells of a cut on a line of its own. Of the two
streams of a program each is told of by itself.
-/
theorem capture_independent_of_reads :
    (∀ (limit : Nat) (buffer : Octets) (chunks : List Octets),
      buffer.length = bufferSize → (∀ chunk ∈ chunks, IsRead chunk) →
        readThrough? limit buffer {} chunks = some (readCapped limit chunks) ∧
        (readCapped limit chunks).octets =
          chunks.flatten.take (min limit chunks.flatten.length) ∧
        ((readCapped limit chunks).truncated = true ↔ limit < chunks.flatten.length)) ∧
    (∀ (limit : Nat) (chunks : List Octets) (path : String), '/' ∈ path.toList →
      Shows limit path chunks.flatten (parseOutput (readCapped limit chunks).decode (some path))) ∧
    ∀ (options : ExecOptions) (b : Behaviour) (path : String),
      '/' ∈ path.toList → b.stopped options = false →
        let o := b.output options
        Shows options.maxOutput path b.stdout.flatten (parseOutput o.stdout (some path)) ∧
        Shows options.maxOutput path b.stderr.flatten (parseOutput o.stderr (some path)) ∧
        (o.truncated = true ↔ options.maxOutput < b.stdout.flatten.length ∨
          options.maxOutput < b.stderr.flatten.length) := by
  refine ⟨?_, ?_, ?_⟩
  · intro limit buffer chunks hbuffer hchunks
    obtain ⟨hoctets, htruncated⟩ := readCapped_of limit chunks
    refine ⟨readThrough?_eq hbuffer hchunks {}, ?_, ?_⟩
    · rw [hoctets, ← List.take_eq_take_min]
    · rw [htruncated, decide_eq_true_iff]
  · intro limit chunks path hslash
    exact (readCapped_of limit chunks).shows hslash
  · intro options b path hslash hstopped
    have hout := readCapped_of options.maxOutput b.stdout
    have herr := readCapped_of options.maxOutput b.stderr
    simp only [Behaviour.output, hstopped]
    refine ⟨hout.shows hslash, herr.shows hslash, ?_⟩
    simp [hout.2, herr.2]

/-- Output with a cut at its third octet, inside a character and after a return, and a complaint. -/
def sampleStreams : Behaviour :=
  { stdout := [[0x61, 0x0D], [0xE2, 0x82, 0xAC]], stderr := [[0x62, 0x0A]] }

theorem capture_independent_of_sampleReads :
    let buffer := List.replicate bufferSize 0
    let options : ExecOptions := { maxOutput := 3 }
    let o := sampleStreams.output options
    buffer.length = bufferSize ∧ (∀ chunk ∈ sampleStreams.stdout, IsRead chunk) ∧
    readThrough? 3 buffer {} sampleStreams.stdout = some ⟨[0x61, 0x0D, 0xE2], true⟩ ∧
    '/' ∈ "/a.cl".toList ∧ sampleStreams.stopped options = false ∧
    parseOutput o.stdout (some "/a.cl") = [{ text := "a\r\uFFFD" }, { text := "[Truncated]" }] ∧
    parseOutput o.stderr (some "/a.cl") = [{ text := "b" }] ∧ o.truncated = true := by
  intro buffer options o
  have hbuffer : buffer.length = bufferSize := List.length_replicate
  have hreads : ∀ chunk ∈ sampleStreams.stdout, IsRead chunk := by
    intro chunk hchunk
    rcases List.mem_pair.1 hchunk with rfl | rfl
    · exact ⟨by decide, by decide⟩
    · exact ⟨by decide, by decide⟩
  have hslash : '/' ∈ "/a.cl".toList := by decide
  have hstopped : sampleStreams.stopped options = false := rfl
  obtain ⟨hread, -, hprocess⟩ := capture_independent_of_reads
  obtain ⟨hthrough, -, -⟩ := hread 3 buffer sampleStreams.stdout hbuffer hreads
  obtain ⟨hstdout, hstderr, htruncated⟩ := hprocess options sampleStreams "/a.cl" hslash hstopped
  refine ⟨hbuffer, hreads, hthrough.trans (by decide), hslash, hstopped, ?_, ?_, ?_⟩
  · rw [hstdout.cut (by decide)]
    decide
  · rw [hstderr.whole (by decide)]
    decide
  · exact htruncated.2 (.inl (by decide))

end SpirvToolchain.Capture
