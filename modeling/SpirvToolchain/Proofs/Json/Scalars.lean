import Mathlib.Data.List.Basic
import SpirvToolchain.Json.Printer
import SpirvToolchain.Json.Reader
import SpirvToolchain.Proofs.Text.Runs

/-! Strings and whole numbers are read as they were written. -/
namespace SpirvToolchain.Json

open Text

variable {c : Char} {s rest : List Char}

/-- The controls that have a letter for their escape. -/
def lettered : List Char := ['\x08', '\x0c', '\n', '\r', '\t']

/-- What is read of a character that was written in a string. -/
def pieceOf (c : Char) : Piece :=
  if c.toNat < 0x20 ∧ c ∉ lettered then .unit c.toNat else .plain c

theorem pieces_plain (hquote : c ≠ '"') (hslash : c ≠ '\\') (hc : 0x20 ≤ c.toNat) (s : List Char) :
    pieces (c :: s) = (pieces s).map fun p => (.plain c :: p.1, p.2) := by
  rw [pieces.eq_5 c s hquote (fun _ _ _ _ _ h _ => hslash h) (fun _ _ h _ => hslash h),
    if_neg (by omega)]
  cases pieces s <;> rfl

theorem pieces_escaped {e : Char} (he : escaped? e = some c) (s : List Char) :
    pieces ('\\' :: e :: s) = (pieces s).map fun p => (.plain c :: p.1, p.2) := by
  have hu : e ≠ 'u' := by
    rintro rfl
    cases he
  rw [pieces.eq_4 e s (fun _ _ _ _ _ h _ => hu h), he]
  cases pieces s <;> rfl

theorem pieces_unit {d₁ d₂ d₃ d₄ : Char} {n : Nat} (hn : hexValues? [d₁, d₂, d₃, d₄] = some n)
    (s : List Char) :
    pieces ('\\' :: 'u' :: d₁ :: d₂ :: d₃ :: d₄ :: s) =
      (pieces s).map fun p => (.unit n :: p.1, p.2) := by
  rw [pieces.eq_3, hn]
  cases pieces s <;> rfl

theorem hexValues?_control {n : Nat} (hn : n < 0x20) :
    hexValues? ['0', '0', hexDigit (n / 16), hexDigit (n % 16)] = some n := by
  have hall : ∀ n < 0x20, hexValues? ['0', '0', hexDigit (n / 16), hexDigit (n % 16)] = some n := by
    decide
  exact hall n hn

/-- The characters that are escaped by one more. -/
theorem escapeChar_special (hc : c ∈ '"' :: '\\' :: lettered) :
    ∃ e, escapeChar c = ['\\', e] ∧ escaped? e = some c ∧ pieceOf c = .plain c := by
  simp only [lettered, List.mem_cons, List.not_mem_nil, or_false] at hc
  rcases hc with rfl | rfl | rfl | rfl | rfl | rfl | rfl
  all_goals exact ⟨_, rfl, rfl, by decide⟩

theorem pieces_escapeChar (c : Char) (s : List Char) :
    pieces (escapeChar c ++ s) = (pieces s).map fun p => (pieceOf c :: p.1, p.2) := by
  by_cases hspecial : c ∈ '"' :: '\\' :: lettered
  · obtain ⟨e, hescape, he, hpiece⟩ := escapeChar_special hspecial
    rw [hescape, hpiece]
    exact pieces_escaped he s
  · have hescape : escapeChar c =
        if c.toNat < 0x20 then
          ['\\', 'u', '0', '0', hexDigit (c.toNat / 16), hexDigit (c.toNat % 16)]
        else [c] := by
      simp_all [escapeChar, lettered]
    simp only [List.mem_cons, not_or] at hspecial
    obtain ⟨hquote, hslash, hletter⟩ := hspecial
    by_cases hcontrol : c.toNat < 0x20
    · rw [hescape, if_pos hcontrol, pieceOf, if_pos ⟨hcontrol, hletter⟩]
      exact pieces_unit (hexValues?_control hcontrol) s
    · rw [hescape, if_neg hcontrol, pieceOf, if_neg fun h => hcontrol h.1]
      exact pieces_plain hquote hslash (by omega) s

theorem pieces_flatMap_escapeChar (s rest : List Char) :
    pieces (s.flatMap escapeChar ++ '"' :: rest) = some (s.map pieceOf, rest) := by
  induction s with
  | nil => exact pieces.eq_2 rest
  | cons c s ih =>
    rw [List.flatMap_cons, List.append_assoc, pieces_escapeChar, ih]
    rfl

theorem joinPieces_pieceOf (c : Char) (ps : List Piece) :
    joinPieces (pieceOf c :: ps) = (joinPieces ps).map (c :: ·) := by
  rw [pieceOf]
  split
  · next hc =>
    have hhigh : isHigh c.toNat = false := by simp [isHigh]; omega
    have hlow : isLow c.toNat = false := by simp [isLow]; omega
    cases ps with
    | nil => simp [joinPieces, hhigh, hlow]
    | cons p ps => cases p <;> simp [joinPieces, hhigh, hlow]
  · exact joinPieces.eq_2 c ps

theorem joinPieces_map_pieceOf (s : List Char) : joinPieces (s.map pieceOf) = some s := by
  induction s with
  | nil => rfl
  | cons c s ih =>
    rw [List.map_cons, joinPieces_pieceOf, ih]
    rfl

/-- A quoted text is read back, and nothing after its closing quote is looked at. -/
theorem string_quoted (k : String) (rest : List Char) :
    string (k.toList.flatMap escapeChar ++ '"' :: rest) = some (some k, rest) := by
  rw [string, pieces_flatMap_escapeChar]
  simp [joinPieces_map_pieceOf]

/-- Where a value ends: a comma, a line end, or the end of the document. -/
def Ended (rest : List Char) : Prop := ∀ c ∈ rest.head?, c = ',' ∨ c = '\n'

theorem Ended.stops_isDigit (h : Ended rest) : Stops Char.isDigit rest := by
  intro c hc
  rcases h c hc with rfl | rfl <;> rfl

theorem Ended.fraction_eq (h : Ended rest) : fraction rest = some ([], rest) := by
  cases rest with
  | nil => rfl
  | cons c rest => rcases h c rfl with rfl | rfl <;> rfl

theorem Ended.exponent_eq (h : Ended rest) : exponent rest = some ([], rest) := by
  cases rest with
  | nil => rfl
  | cons c rest => rcases h c rfl with rfl | rfl <;> rfl

/-- Only zero itself starts with the digit zero. -/
theorem head?_toDigits_ne {n : Nat} (hn : n ≠ 0) : (Nat.toDigits 10 n).head? ≠ some '0' := by
  induction n using Nat.strong_induction_on with
  | _ n ih =>
    by_cases hlow : n < 10
    · have hall : ∀ n < 10, n ≠ 0 → [n.digitChar].head? ≠ some '0' := by decide
      rw [Nat.toDigits_of_lt_base hlow]
      exact hall n hlow hn
    · have hlead := ih (n / 10) (by omega) (by omega)
      rw [Nat.toDigits_of_base_le (by decide) (by omega),
        List.head?_append_of_ne_nil _ Nat.toDigits_ne_nil]
      exact hlead

theorem isDigit_toDigits (n : Nat) : ∀ c ∈ Nat.toDigits 10 n, c.isDigit = true :=
  fun _ => Nat.isDigit_of_mem_toDigits (by decide) (by decide)

theorem wholePart_toDigits (n : Nat) (h : Ended rest) :
    wholePart (Nat.toDigits 10 n ++ rest) = some (Nat.toDigits 10 n, rest) := by
  by_cases hn : n = 0
  · subst hn
    rfl
  · have hhead : (Nat.toDigits 10 n ++ rest).head? ≠ some '0' := by
      rw [List.head?_append_of_ne_nil _ Nat.toDigits_ne_nil]
      exact head?_toDigits_ne hn
    have hdigits : wholePart (Nat.toDigits 10 n ++ rest) = digits (Nat.toDigits 10 n ++ rest) := by
      rw [wholePart]
      intro s hs
      rw [hs] at hhead
      exact hhead rfl
    rw [hdigits, digits, takeWhile_all_append (isDigit_toDigits n) h.stops_isDigit,
      dropWhile_all_append (isDigit_toDigits n) h.stops_isDigit]
    exact if_neg Nat.toDigits_ne_nil

theorem unsigned_toDigits (negative : Bool) {n : Nat} (hn : negative = true → n ≠ 0)
    (h : Ended rest) :
    unsigned negative (Nat.toDigits 10 n ++ rest) =
      some (.int (if negative then -(n : Int) else n), rest) := by
  have hvalue : naturalOf (Nat.toDigits 10 n) = n := Nat.ofDigitChars_ten_toDigits
  have hzero : ¬ (negative = true ∧ Nat.toDigits 10 n = ['0']) := by
    rintro ⟨hnegative, hdigits⟩
    have hhead := head?_toDigits_ne (hn hnegative)
    rw [hdigits] at hhead
    exact hhead rfl
  simp [unsigned, wholePart_toDigits n h, h.fraction_eq, h.exponent_eq, hvalue, hzero]

theorem exists_toDigits_eq_cons (n : Nat) :
    ∃ c cs, Nat.toDigits 10 n = c :: cs ∧ c.isDigit = true := by
  obtain ⟨c, cs, hcons⟩ := List.exists_cons_of_ne_nil (Nat.toDigits_ne_nil (n := n) (b := 10))
  exact ⟨c, cs, hcons, isDigit_toDigits n c (hcons ▸ List.mem_cons_self)⟩

/-- A whole number is written with its digits, or with a dash and the digits of its negative. -/
theorem toString_cases (i : Int) :
    (∃ n : Nat, i = n ∧ (toString i).toList = Nat.toDigits 10 n) ∨
      ∃ n : Nat, n ≠ 0 ∧ i = -n ∧ (toString i).toList = '-' :: Nat.toDigits 10 n := by
  cases i with
  | ofNat n => exact .inl ⟨n, rfl, String.toList_ofList⟩
  | negSucc n =>
    refine .inr ⟨n + 1, Nat.succ_ne_zero n, rfl, ?_⟩
    exact String.toList_append.trans (congrArg ('-' :: ·) String.toList_ofList)

/-- A whole number is read back if it stands at the end of a line or of a member. -/
theorem number_toString (i : Int) (h : Ended rest) :
    number ((toString i).toList ++ rest) = some (.int i, rest) := by
  rcases toString_cases i with ⟨n, rfl, hprinted⟩ | ⟨n, hn, rfl, hprinted⟩
  · have hnumber : number (Nat.toDigits 10 n ++ rest) =
        unsigned false (Nat.toDigits 10 n ++ rest) := by
      obtain ⟨c, cs, hcons, hdigit⟩ := exists_toDigits_eq_cons n
      rw [hcons, List.cons_append, number]
      intro s hs
      obtain rfl : c = '-' := (List.cons.inj hs).1
      cases hdigit
    rw [hprinted, hnumber, unsigned_toDigits false nofun h]
    rfl
  · rw [hprinted, List.cons_append, number, unsigned_toDigits true (fun _ => hn) h]
    rfl

end SpirvToolchain.Json
