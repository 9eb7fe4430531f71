import Courier.Json.Printer
import Courier.Json.Token
import Mathlib.Algebra.Ring.Int.Defs
import Mathlib.Data.List.TakeDrop

/-! Integers and strings as they are spelled: what the printer writes is read back by the scanners,
whatever comes behind it.
-/

namespace Courier.Json

open Courier.Text (isDigit)

-----------------------------------------------------------------------------------------
-- Integers
-----------------------------------------------------------------------------------------

theorem isDigit_of_mem_toDigits {n : Nat} {c : Char} (member : c ∈ Nat.toDigits 10 n)
    : isDigit c = true :=
  Nat.isDigit_of_mem_toDigits (by decide) (by decide) member

theorem value_toDigits (n : Nat) : Literal.value (Nat.toDigits 10 n) = n :=
  Nat.ofDigitChars_ten_toDigits

/-- The digits of a number begin with a zero only when there is no other digit, by induction on
the number of digits. -/
theorem toDigits_leading (n : Nat)
    : ∃ d ds, Nat.toDigits 10 n = d :: ds ∧ (d = '0' → ds = []) ∧ (0 < n → d ≠ '0') := by
  induction n using Nat.strongRecOn with
  | ind n ih =>
      rcases Nat.lt_or_ge n 10 with small | large
      · have digits : ∀ k : Fin 10, 0 < k.val → k.val.digitChar ≠ '0' := by decide
        exact ⟨n.digitChar, [], Nat.toDigits_of_lt_base small, fun _ => rfl, digits ⟨n, small⟩⟩
      · obtain ⟨d, ds, spelled, -, leading⟩ := ih (n / 10) (by omega)
        refine ⟨d, ds ++ [(n % 10).digitChar], ?_, ?_, ?_⟩
        · rw [Nat.toDigits_of_base_le (by decide) large, spelled, List.cons_append]
        · exact fun zero => absurd zero (leading (by omega))
        · exact fun _ => leading (by omega)

/-- A text goes on after a number with something that is no part of the number. -/
def EndsNumber (rest : List Char) : Prop :=
  ∀ c ∈ rest.head?, isDigit c = false ∧ c ≠ '.' ∧ c ≠ 'e' ∧ c ≠ 'E'

theorem endsNumber_nil : EndsNumber [] := by simp [EndsNumber]

theorem endsNumber_cons {c : Char} {rest : List Char}
    (h : isDigit c = false ∧ c ≠ '.' ∧ c ≠ 'e' ∧ c ≠ 'E')
    : EndsNumber (c :: rest) := by
  simpa [EndsNumber] using h

theorem span_digits {digits rest : List Char} (all : ∀ c ∈ digits, isDigit c = true)
    (ends : EndsNumber rest)
    : (digits ++ rest).span isDigit = (digits, rest) := by
  rw [List.span_eq_takeWhile_dropWhile, List.takeWhile_append_of_pos all,
    List.dropWhile_append_of_pos all]
  cases rest with
  | nil => simp
  | cons c rest => simp [(ends c rfl).1]

/-- An integer without fraction and exponent ends where the number ends. -/
theorem scanFraction_endsNumber (negative : Bool) (whole rest : List Char)
    (ends : EndsNumber rest)
    : Literal.scanFraction negative whole rest
      = (.decimal negative whole [] none true, rest) := by
  cases rest with
  | nil => rfl
  | cons c rest =>
      obtain ⟨-, point, small, capital⟩ := ends c rfl
      rw [Literal.scanFraction]
      · simp [Literal.scanExponent, small, capital]
      · rintro cs ⟨rfl, rfl⟩
        exact point rfl

/-- The digits of a number are scanned as they are written. -/
theorem scanWhole_toDigits (negative : Bool) (n : Nat) {rest : List Char}
    (ends : EndsNumber rest)
    : Literal.scanWhole negative (Nat.toDigits 10 n ++ rest)
      = (.decimal negative (Nat.toDigits 10 n) [] none true, rest) := by
  obtain ⟨d, ds, spelled, zero, -⟩ := toDigits_leading n
  rw [Literal.scanWhole, span_digits (fun _ => isDigit_of_mem_toDigits) ends, spelled]
  split
  · next empty => simp at empty
  · next second _ _ more =>
      obtain ⟨⟨rfl, rfl⟩, rfl⟩ := by simpa only [Prod.mk.injEq, List.cons.injEq] using more
      simpa using zero rfl
  · next whole _ _ _ all =>
      obtain ⟨rfl, rfl⟩ := Prod.mk.inj all
      exact scanFraction_endsNumber negative _ _ ends

def integerLiteral (i : Int) : Literal :=
  .decimal (i < 0) (Nat.toDigits 10 i.natAbs) [] none true

/-- An integer is scanned as it is written. -/
theorem scan_integerChars (i : Int) {rest : List Char} (ends : EndsNumber rest)
    : Literal.scan (integerChars i ++ rest) = (integerLiteral i, rest) := by
  cases i with
  | ofNat n =>
      obtain ⟨d, ds, spelled, -⟩ := toDigits_leading n
      have digit : isDigit d = true := isDigit_of_mem_toDigits (n := n) (by simp [spelled])
      have unsigned : d ≠ '-' := by rintro rfl; exact absurd digit (by decide)
      have scan : Literal.scan (Nat.toDigits 10 n ++ rest)
          = Literal.scanWhole false (Nat.toDigits 10 n ++ rest) := by
        rw [spelled, List.cons_append, Literal.scan]
        rintro cs ⟨rfl, rfl⟩
        exact unsigned rfl
      rw [integerChars, scan, scanWhole_toDigits false n ends, integerLiteral]
      simp
  | negSucc n =>
      rw [integerChars, List.cons_append, Literal.scan, scanWhole_toDigits true (n + 1) ends,
        integerLiteral]
      simp [Int.negSucc_lt_zero]

/-- The integers that fit into 64 bits, with a sign or without one. -/
def IsWord (i : Int) : Prop := -(2 ^ 63) ≤ i ∧ i < 2 ^ 64

/-- An integer that fits into 64 bits is the value of its spelling. -/
theorem toNumber_integerLiteral {i : Int} (fits : IsWord i)
    : (integerLiteral i).toNumber = .ok (.integer i) := by
  obtain ⟨low, high⟩ := fits
  cases i with
  | ofNat n =>
      have bound : n < wordLimit := by
        rw [Int.ofNat_eq_natCast] at high
        simp only [wordLimit]
        omega
      simp [integerLiteral, Literal.toNumber, value_toDigits, bound]
  | negSucc n =>
      have bound : 2 * (n + 1) ≤ wordLimit := by simp only [wordLimit]; omega
      have below : decide (Int.negSucc n < 0) = true := decide_eq_true (Int.negSucc_lt_zero n)
      simp only [integerLiteral, Literal.toNumber, Int.natAbs_negSucc, value_toDigits, below]
      simp [bound, Int.negSucc_eq]

-----------------------------------------------------------------------------------------
-- Strings
-----------------------------------------------------------------------------------------

theorem hexFour?_code {n : Nat} (small : n < 32)
    : Token.hexFour? '0' '0' (hexDigit (n / 16)) (hexDigit (n % 16)) = some n := by
  have codes : ∀ k : Fin 32,
      Token.hexFour? '0' '0' (hexDigit (k.val / 16)) (hexDigit (k.val % 16)) = some k.val := by
    decide
  exact codes ⟨n, small⟩

/-- What the printer writes for a character is skipped over, by cases on its escapes. -/
theorem skipString_escape (c : Char) (rest : List Char)
    : Token.skipString (escape c ++ rest) = Token.skipString rest := by
  unfold escape
  split_ifs with quote backslash backspace feed line ret tab control
  iterate 7 simp [Token.skipString, Token.shortEscape?]
  · simp [Token.skipString, hexFour?_code control]
  · simp only [beq_iff_eq] at quote backslash
    simp [Token.skipString, quote, backslash, control]

/-- The code of a character that is no half of a pair is read as the character, whether another
code follows or not.
-/
theorem stringChars_code {a b c d : Char} {n : Nat} (code : Token.hexFour? a b c d = some n)
    (trailing : Token.isTrailing n = false) (leading : Token.isLeading n = false)
    (rest : List Char)
    : Token.stringChars ('\\' :: 'u' :: a :: b :: c :: d :: rest)
      = (Token.stringChars rest).map (Char.ofNat n :: ·) := by
  by_cases pair : ∃ e f g h more, rest = '\\' :: 'u' :: e :: f :: g :: h :: more
  · obtain ⟨e, f, g, h, more, rfl⟩ := pair
    rw [Token.stringChars]
    simp [code, trailing, leading]
  · rw [Token.stringChars]
    · simp [code, trailing, leading]
    · exact fun e f g h more same => pair ⟨e, f, g, h, more, same⟩

/-- What the printer writes for a character is read as the character, by cases on its escapes. -/
theorem stringChars_escape (c : Char) (rest : List Char)
    : Token.stringChars (escape c ++ rest) = (Token.stringChars rest).map (c :: ·) := by
  unfold escape
  split_ifs with quote backslash backspace feed line ret tab control
  iterate 7 simp_all [Token.stringChars, Token.shortEscape?]
  · have trailing : Token.isTrailing c.toNat = false := by simp [Token.isTrailing]; omega
    have leading : Token.isLeading c.toNat = false := by simp [Token.isLeading]; omega
    simpa using stringChars_code (hexFour?_code control) trailing leading rest
  · simp only [beq_iff_eq] at quote backslash
    simp [Token.stringChars, quote, backslash, control]

/-- A string in quotes is skipped up to its closing quote, by induction on the string. -/
theorem skipString_flatMap (s rest : List Char)
    : Token.skipString (s.flatMap escape ++ '"' :: rest) = .ok rest := by
  induction s with
  | nil => simp [Token.skipString]
  | cons c s ih => rw [List.flatMap_cons, List.append_assoc, skipString_escape, ih]

/-- A string in quotes is read as it was, by induction on the string. -/
theorem stringChars_flatMap (s rest : List Char)
    : Token.stringChars (s.flatMap escape ++ '"' :: rest) = .ok s := by
  induction s with
  | nil => simp [Token.stringChars]
  | cons c s ih =>
      rw [List.flatMap_cons, List.append_assoc, stringChars_escape, ih]
      rfl

end Courier.Json
