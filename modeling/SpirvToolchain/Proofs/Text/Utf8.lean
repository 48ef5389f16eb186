import SpirvToolchain.Text.Utf8

/-! UTF-8: every character is read back, and one that is cut off leaves one replacement. -/
namespace SpirvToolchain.Text.Utf8

variable {c : Char} {s t : List Char} {state : Option Begun} {bs : Octets} {n limit : Nat}

theorem encodeChar_eq (c : Char) : encodeChar c = String.utf8EncodeChar c := by
  have hvalid : c.toNat < 0xD800 ∨ 0xDFFF < c.toNat ∧ c.toNat < 0x110000 := c.valid
  have hval : c.val.toNat = c.toNat := rfl
  simp only [encodeChar, String.utf8EncodeChar, hval, Nat.toUInt8_eq]
  generalize c.toNat = n at hvalid
  by_cases h₁ : n < 0x80
  · rw [if_pos h₁, if_pos (Nat.le_of_lt_succ h₁)]
  have h₁' : ¬ n ≤ 0x7F := by omega
  by_cases h₂ : n < 0x800
  · have hlead : 0xC0 + n / 0x40 = n / 0x40 % 0x20 + 0xC0 := by omega
    rw [if_neg h₁, if_pos h₂, if_neg h₁', if_pos (Nat.le_of_lt_succ h₂), hlead, Nat.add_comm 0x80]
  have h₂' : ¬ n ≤ 0x7FF := by omega
  by_cases h₃ : n < 0x10000
  · have hlead : 0xE0 + n / 0x1000 = n / 0x1000 % 0x10 + 0xE0 := by omega
    rw [if_neg h₁, if_neg h₂, if_pos h₃, if_neg h₁', if_neg h₂', if_pos (Nat.le_of_lt_succ h₃),
      hlead, Nat.add_comm 0x80, Nat.add_comm 0x80]
  have h₃' : ¬ n ≤ 0xFFFF := by omega
  have hlead : 0xF0 + n / 0x40000 = n / 0x40000 % 8 + 0xF0 := by omega
  rw [if_neg h₁, if_neg h₂, if_neg h₃, if_neg h₁', if_neg h₂', if_neg h₃', hlead,
    Nat.add_comm 0x80, Nat.add_comm 0x80, Nat.add_comm 0x80]

/-- The octets of a text are those it is kept in. -/
theorem toUTF8_eq (s : String) : s.toUTF8.data.toList = encode s.toList := by
  have hencode : encode s.toList = s.toList.flatMap String.utf8EncodeChar :=
    congrArg (List.flatMap · s.toList) (funext encodeChar_eq)
  rw [hencode, String.toUTF8_eq_toByteArray, ← String.utf8Encode_toList]
  exact List.toList_data_toByteArray

/-- The octets complete a character, each but the last leaving it begun. -/
inductive Reads : Option Begun → Octets → Char → Prop
  | last {state : Option Begun} {b : UInt8} {c : Char} (h : step state b = ([c], none)) :
      Reads state [b] c
  | more {state : Option Begun} {b : UInt8} {p : Begun} {bs : Octets} {c : Char}
      (h : step state b = ([], some p)) (hrest : Reads (some p) bs c) : Reads state (b :: bs) c

theorem decodeFrom_cons (state : Option Begun) (b : UInt8) (bs : Octets) :
    decodeFrom state (b :: bs) = (step state b).1 ++ decodeFrom (step state b).2 bs := by
  cases state <;> rfl

theorem Reads.decodeFrom_append (h : Reads state bs c) (rest : Octets) :
    decodeFrom state (bs ++ rest) = c :: decodeFrom none rest := by
  induction h with
  | last h => rw [List.singleton_append, decodeFrom_cons, h, List.singleton_append]
  | more h _ ih => rw [List.cons_append, decodeFrom_cons, h, ih, List.nil_append]

/-- Cut off anywhere inside, they leave one replacement. -/
theorem Reads.decodeFrom_take (h : Reads state bs c) (hpos : 0 < n) (hcut : n < bs.length) :
    decodeFrom state (bs.take n) = [replacement] := by
  induction h generalizing n with
  | last h =>
    rw [List.length_singleton] at hcut
    omega
  | more h _ ih =>
    obtain ⟨m, rfl⟩ : ∃ m, n = m + 1 := ⟨n - 1, by omega⟩
    rw [List.take_succ_cons, decodeFrom_cons, h, List.nil_append]
    cases m with
    | zero => rfl
    | succ m => exact ih (Nat.succ_pos m) (Nat.lt_of_succ_lt_succ hcut)

theorem toNat_toUInt8 (h : n < 0x100) : n.toUInt8.toNat = n :=
  UInt8.toNat_ofNat_of_lt' h

/-- An octet in the range that is wanted there brings in the last six bits of `n`. -/
theorem step_bits {low high : Nat} (hlow : low ≤ 0x80 + n % 0x40) (hhigh : 0x80 + n % 0x40 ≤ high)
    (missing : Nat) :
    step (some ⟨n / 0x40, missing, low, high⟩) (0x80 + n % 0x40).toUInt8 =
      if missing ≤ 1 then ([Char.ofNat n], none) else ([], some ⟨n, missing - 1, 0x80, 0xBF⟩) := by
  have hoctet : (0x80 + n % 0x40).toUInt8.toNat = 0x80 + n % 0x40 := toNat_toUInt8 (by omega)
  have hbits : n / 0x40 * 0x40 + (0x80 + n % 0x40 - 0x80) = n := by omega
  simp only [step, Begun.next]
  rw [hoctet, if_pos ⟨hlow, hhigh⟩, hbits]

theorem reads_lastBits {low high : Nat} (hlow : low ≤ 0x80 + n % 0x40)
    (hhigh : 0x80 + n % 0x40 ≤ high) :
    Reads (some ⟨n / 0x40, 1, low, high⟩) [(0x80 + n % 0x40).toUInt8] (Char.ofNat n) := by
  refine .last ?_
  rw [step_bits hlow hhigh, if_pos (Nat.le_refl 1)]

/-- Six bits of `n` with `m` octets to come after them. -/
theorem reads_bits {low high m : Nat} (hlow : low ≤ 0x80 + n % 0x40)
    (hhigh : 0x80 + n % 0x40 ≤ high) (hm : 0 < m)
    (hrest : Reads (some ⟨n, m, 0x80, 0xBF⟩) bs c) :
    Reads (some ⟨n / 0x40, m + 1, low, high⟩) ((0x80 + n % 0x40).toUInt8 :: bs) c := by
  refine .more ?_ hrest
  rw [step_bits hlow hhigh, if_neg (by omega), Nat.add_sub_cancel]

theorem reads_two (h : 0x80 ≤ n) (hn : n < 0x800) :
    Reads none [(0xC0 + n / 0x40).toUInt8, (0x80 + n % 0x40).toUInt8] (Char.ofNat n) := by
  have hoctet : (0xC0 + n / 0x40).toUInt8.toNat = 0xC0 + n / 0x40 := toNat_toUInt8 (by omega)
  refine .more (p := ⟨n / 0x40, 1, 0x80, 0xBF⟩) ?_ (reads_lastBits (by omega) (by omega))
  simp only [step, lead]
  rw [hoctet, if_neg (by omega), if_pos (by omega), Nat.add_sub_cancel_left]

theorem reads_three (h : 0x800 ≤ n) (hn : n < 0x10000) (hsurrogate : n < 0xD800 ∨ 0xDFFF < n) :
    Reads none [(0xE0 + n / 0x1000).toUInt8, (0x80 + n / 0x40 % 0x40).toUInt8,
      (0x80 + n % 0x40).toUInt8] (Char.ofNat n) := by
  have hoctet : (0xE0 + n / 0x1000).toUInt8.toNat = 0xE0 + n / 0x1000 := toNat_toUInt8 (by omega)
  have hdiv : n / 0x1000 = n / 0x40 / 0x40 := (Nat.div_div_eq_div_mul n 0x40 0x40).symm
  have htail := @reads_lastBits n 0x80 0xBF (by omega) (by omega)
  -- The range of the second octet leaves out overlong forms and surrogates.
  have hlow : (if 0xE0 + n / 0x1000 = 0xE0 then 0xA0 else 0x80) ≤ 0x80 + n / 0x40 % 0x40 := by
    split <;> omega
  have hhigh : 0x80 + n / 0x40 % 0x40 ≤ if 0xE0 + n / 0x1000 = 0xED then 0x9F else 0xBF := by
    split <;> omega
  refine .more ?_ (reads_bits hlow hhigh Nat.one_pos htail)
  simp only [step, lead]
  rw [hoctet, if_neg (by omega), if_neg (by omega), if_pos (by omega),
    Nat.add_sub_cancel_left, hdiv]

theorem reads_four (h : 0x10000 ≤ n) (hn : n < 0x110000) :
    Reads none [(0xF0 + n / 0x40000).toUInt8, (0x80 + n / 0x1000 % 0x40).toUInt8,
      (0x80 + n / 0x40 % 0x40).toUInt8, (0x80 + n % 0x40).toUInt8] (Char.ofNat n) := by
  have hoctet : (0xF0 + n / 0x40000).toUInt8.toNat = 0xF0 + n / 0x40000 := toNat_toUInt8 (by omega)
  have hdiv : n / 0x1000 = n / 0x40 / 0x40 := (Nat.div_div_eq_div_mul n 0x40 0x40).symm
  have hdiv' : n / 0x40000 = n / 0x1000 / 0x40 := (Nat.div_div_eq_div_mul n 0x1000 0x40).symm
  have htail := @reads_lastBits n 0x80 0xBF (by omega) (by omega)
  have hnext := @reads_bits _ _ (n / 0x40) 0x80 0xBF 1 (by omega) (by omega) Nat.one_pos htail
  have hlow : (if 0xF0 + n / 0x40000 = 0xF0 then 0x90 else 0x80) ≤ 0x80 + n / 0x1000 % 0x40 := by
    split <;> omega
  have hhigh : 0x80 + n / 0x1000 % 0x40 ≤ if 0xF0 + n / 0x40000 = 0xF4 then 0x8F else 0xBF := by
    split <;> omega
  rw [← hdiv] at hnext
  refine .more ?_ (reads_bits hlow hhigh Nat.two_pos hnext)
  simp only [step, lead]
  rw [hoctet, if_neg (by omega), if_neg (by omega), if_neg (by omega), if_pos (by omega),
    Nat.add_sub_cancel_left, hdiv']

theorem reads_encodeChar (c : Char) : Reads none (encodeChar c) c := by
  have hvalid : c.toNat < 0xD800 ∨ 0xDFFF < c.toNat ∧ c.toNat < 0x110000 := c.valid
  have hc : Char.ofNat c.toNat = c := Char.ofNat_toNat c
  simp only [encodeChar]
  split
  · next h =>
    refine .last ?_
    rw [step, lead, toNat_toUInt8 (by omega), if_pos h, hc]
  · next h =>
    split
    · next h₂ => simpa only [hc] using reads_two (by omega) h₂
    · next h₂ =>
      split
      · next h₃ => simpa only [hc] using reads_three (by omega) h₃ (by omega)
      · next h₃ => simpa only [hc] using @reads_four c.toNat (by omega) (by omega)

theorem encode_cons (c : Char) (s : List Char) : encode (c :: s) = encodeChar c ++ encode s :=
  List.flatMap_cons

theorem decodeLossy_encode (s : List Char) : decodeLossy (encode s) = s := by
  induction s with
  | nil => rfl
  | cons c s ih =>
    rw [encode_cons, decodeLossy, (reads_encodeChar c).decodeFrom_append]
    exact congrArg (c :: ·) ih

/-- The characters from the start of `s` that all fit into `limit` octets. -/
def fitting : Nat → List Char → List Char
  | _, [] => []
  | limit, c :: s =>
    if (encodeChar c).length ≤ limit then c :: fitting (limit - (encodeChar c).length) s else []

theorem fitting_append (limit : Nat) (s : List Char) : ∃ t, fitting limit s ++ t = s := by
  fun_induction fitting limit s with
  | case1 => exact ⟨[], rfl⟩
  | case2 limit c s hfits ih =>
    obtain ⟨t, ht⟩ := ih
    exact ⟨t, by rw [List.cons_append, ht]⟩
  | case3 limit c s hcut => exact ⟨c :: s, rfl⟩

theorem length_encode_fitting (limit : Nat) (s : List Char) :
    (encode (fitting limit s)).length ≤ limit := by
  fun_induction fitting limit s with
  | case1 => exact Nat.zero_le _
  | case2 limit c s hfits ih =>
    rw [encode_cons, List.length_append]
    omega
  | case3 => exact Nat.zero_le _

/-- No longer start of `s` fits. -/
theorem fitting_maximal (h : t <+: s) (hfits : (encode t).length ≤ limit) :
    t <+: fitting limit s := by
  induction s generalizing t limit with
  | nil => exact h
  | cons c s ih =>
    cases t with
    | nil => exact List.nil_prefix
    | cons d t =>
      obtain ⟨rfl, hrest⟩ := List.cons_prefix_cons.1 h
      rw [encode_cons, List.length_append] at hfits
      rw [fitting, if_pos (by omega)]
      exact List.cons_prefix_cons.2 ⟨rfl, ih hrest (by omega)⟩

/-- A cut text shows the characters that fit, and one replacement for a character that is cut. -/
theorem decodeLossy_take_encode (h : limit ≤ (encode s).length) :
    decodeLossy ((encode s).take limit) =
      fitting limit s ++
        if (encode (fitting limit s)).length < limit then [replacement] else [] := by
  fun_induction fitting limit s with
  | case1 limit =>
    obtain rfl : limit = 0 := Nat.le_zero.1 h
    rfl
  | case2 limit c s hfits ih =>
    rw [encode_cons, List.length_append] at h
    have hshown := (reads_encodeChar c).decodeFrom_append
      ((encode s).take (limit - (encodeChar c).length))
    have hrest := ih (by omega)
    have hroom (m : Nat) :
        (encodeChar c).length + m < limit ↔ m < limit - (encodeChar c).length := by
      omega
    rw [encode_cons, List.take_append, List.take_of_length_le hfits, decodeLossy, hshown,
      ← decodeLossy, hrest]
    simp only [encode_cons, List.length_append, hroom, List.cons_append]
  | case3 limit c s hcut =>
    rw [encode_cons, List.take_append_of_le_length (by omega), List.nil_append]
    split
    · next hpos => exact (reads_encodeChar c).decodeFrom_take hpos (by omega)
    · next hzero =>
      obtain rfl : limit = 0 := Nat.eq_zero_of_not_pos hzero
      rfl

end SpirvToolchain.Text.Utf8
