import Courier.Proofs.Disk.Paths
import Courier.Proofs.Json.Spelling
import Courier.SmartHive.Account
import Courier.Toml.Scalar
import Mathlib.Data.List.Basic

/-! Whole numbers in a configuration. A document and a variable write them in decimal digits, and
what is taken for a setting is the number that was written: one that the setting cannot hold is
refused and never reduced.
-/

namespace Courier

open Courier.Text (isDigit lower lowerText)

namespace Config

-----------------------------------------------------------------------------------------
-- Numerals
-----------------------------------------------------------------------------------------

/-- The decimal digits of a number after a number of zeros. -/
def paddedDigits (zeros n : Nat) : List Char := List.replicate zeros '0' ++ Nat.toDigits 10 n

/-- The decimal numerals of a whole number: its digits, perhaps after zeros and after a sign. -/
inductive IsNumeral : List Char → Int → Prop
  | plain (zeros n : Nat) : IsNumeral (paddedDigits zeros n) n
  | positive (zeros n : Nat) : IsNumeral ('+' :: paddedDigits zeros n) n
  | negative (zeros n : Nat) : IsNumeral ('-' :: paddedDigits zeros n) (-n)

/-- A value that writes a whole number: the number itself, or a text that is a numeral of it. -/
inductive Node.Writes : Node → Int → Prop
  | integer (n : Int) : Writes (.integer n) n
  | text {s : String} {n : Int} (isNumeral : IsNumeral s.toList n) : Writes (.text s) n

theorem isDigit_of_mem_paddedDigits {zeros n : Nat}
    : ∀ c ∈ paddedDigits zeros n, isDigit c = true := by
  intro c among
  rcases List.mem_append.mp among with zero | digit
  · rw [List.eq_of_mem_replicate zero]
    decide
  · exact Json.isDigit_of_mem_toDigits digit

theorem paddedDigits_ne_nil (zeros n : Nat) : paddedDigits zeros n ≠ [] := by
  obtain ⟨d, ds, spelled, -⟩ := Json.toDigits_leading n
  simp [paddedDigits, spelled]

/-- Zeros before the digits of a number do not change it, by induction on the zeros. -/
theorem foldl_paddedDigits (zeros n : Nat)
    : (paddedDigits zeros n).foldl (fun n c => 10 * n + (c.toNat - 48)) 0 = n := by
  induction zeros with
  | zero => exact Json.value_toDigits n
  | succ zeros ih =>
      rw [paddedDigits, List.replicate_succ, List.cons_append, List.foldl_cons]
      exact ih

/-- A character that a numeral can begin with: a digit or a sign. -/
def beginsNumeral (c : Char) : Bool := isDigit c || c == '+' || c == '-'

theorem IsNumeral.first {cs : List Char} {n : Int} (isNumeral : IsNumeral cs n)
    : ∃ c, cs.head? = some c ∧ beginsNumeral c = true := by
  cases isNumeral with
  | plain zeros n =>
      obtain ⟨c, rest, spelled⟩ := List.exists_cons_of_ne_nil (paddedDigits_ne_nil zeros n)
      have digit : isDigit c = true := isDigit_of_mem_paddedDigits c (spelled ▸ List.mem_cons_self)
      exact ⟨c, by rw [spelled]; rfl, by simp [beginsNumeral, digit]⟩
  | positive zeros n => exact ⟨'+', rfl, rfl⟩
  | negative zeros n => exact ⟨'-', rfl, rfl⟩

/-- A digit or a sign is no letter. -/
theorem lower_of_beginsNumeral {c : Char} (begins : beginsNumeral c = true) : lower c = c := by
  simp only [beginsNumeral, Bool.or_eq_true, beq_iff_eq] at begins
  rcases begins with (digit | rfl) | rfl
  · simp only [isDigit, Bool.and_eq_true, decide_eq_true_eq, Char.le_def] at digit
    have high : c.toNat ≤ 57 := digit.2
    have other : (c == '\u212A') = false := by
      simp only [beq_eq_false_iff_ne]
      rintro rfl
      exact absurd high (by decide)
    have small : ¬ ('A' ≤ c && c ≤ 'Z') = true := by
      simp only [Bool.and_eq_true, decide_eq_true_eq, Char.le_def]
      rintro ⟨low, -⟩
      have low : 65 ≤ c.toNat := low
      omega
    rw [lower, other, Text.lowerAscii, if_neg small]
    rfl
  · decide
  · decide

/-- A numeral is none of the words for truth values. -/
theorem IsNumeral.lowerText_ne {s word : String} {n : Int} (isNumeral : IsNumeral s.toList n)
    (letter : word.toList.head?.any beginsNumeral = false)
    : lowerText s ≠ word := by
  rintro rfl
  obtain ⟨c, first, begins⟩ := isNumeral.first
  have same : (lowerText s).toList.head? = some c := by
    rw [lowerText, String.toList_ofList, List.head?_map, first, Option.map_some,
      lower_of_beginsNumeral begins]
  rw [same, Option.any_some, begins] at letter
  cases letter

namespace Node

theorem natural?_text {s : String} {n : Int} (isNumeral : IsNumeral s.toList n)
    : (text s).natural? = (naturalOfChars? s.toList).filter (· ≤ greatest) := by
  have unword (word : String) (letter : word.toList.head?.any beginsNumeral = false)
      : (lowerText s == word) = false :=
    beq_eq_false_iff_ne.mpr (isNumeral.lowerText_ne letter)
  have yes : isYes (lowerText s) = false := by
    rw [isYes, unword "true" (by decide), unword "on" (by decide), unword "yes" (by decide)]
    rfl
  have no : isNo (lowerText s) = false := by
    rw [isNo, unword "false" (by decide), unword "off" (by decide), unword "no" (by decide)]
    rfl
  rw [natural?, yes, no]
  rfl

/-- The digits of a number are read as that number, after a plus sign or without one. -/
theorem naturalOfChars?_paddedDigits (zeros n : Nat)
    : naturalOfChars? (paddedDigits zeros n) = some n
      ∧ naturalOfChars? ('+' :: paddedDigits zeros n) = some n := by
  have value := foldl_paddedDigits zeros n
  have all : (paddedDigits zeros n).all isDigit = true :=
    List.all_eq_true.mpr isDigit_of_mem_paddedDigits
  obtain ⟨c, rest, spelled⟩ := List.exists_cons_of_ne_nil (paddedDigits_ne_nil zeros n)
  rw [spelled] at all value ⊢
  have unsigned : c ≠ '+' := by
    rintro rfl
    exact absurd (List.all_eq_true.mp all '+' List.mem_cons_self) (by decide)
  constructor
  · unfold naturalOfChars?
    split
    · next signed => exact absurd (List.cons.inj signed).1 unsigned
    · simp only [List.isEmpty_cons, all, value]
      rfl
  · simp only [naturalOfChars?, List.isEmpty_cons, all, value]
    rfl

/-- A number that is taken from a value is the number that the value writes. -/
theorem eq_of_natural? {node : Node} {n : Int} {m : Nat} (writes : node.Writes n)
    (taken : node.natural? = some m)
    : (m : Int) = n := by
  cases writes with
  | integer n =>
      cases n with
      | ofNat n => exact congrArg _ (Option.some.inj taken).symm
      | negSucc n => cases taken
  | @text s n isNumeral =>
      rw [natural?_text isNumeral] at taken
      obtain ⟨read, -⟩ := Option.filter_eq_some_iff.mp taken
      generalize s.toList = cs at isNumeral read
      cases isNumeral with
      | plain zeros n =>
          rw [(naturalOfChars?_paddedDigits zeros n).1] at read
          exact congrArg _ (Option.some.inj read).symm
      | positive zeros n =>
          rw [(naturalOfChars?_paddedDigits zeros n).2] at read
          exact congrArg _ (Option.some.inj read).symm
      | negative zeros n =>
          -- a minus sign is no digit
          cases read

end Node

end Config

-----------------------------------------------------------------------------------------
-- Words and small numbers
-----------------------------------------------------------------------------------------

namespace Codec

open Courier.Config (Node)

/-- A form that takes the natural number of a value as it is. -/
def TakesNatural {α : Type} (codec : Codec α) (number : α → Nat) : Prop :=
  ∀ (node : Node) (a : α), codec.convert node = some a → node.natural? = some (number a)

theorem word32_takesNatural : word32.TakesNatural UInt32.toNat := by
  intro node w converted
  obtain ⟨m, found, rfl⟩ := Option.map_eq_some_iff.mp converted
  obtain ⟨taken, small⟩ := Option.filter_eq_some_iff.mp found
  rw [taken, UInt32.toNat_ofNat_of_lt' (of_decide_eq_true small)]

theorem word64_takesNatural : word64.TakesNatural UInt64.toNat := by
  intro node w converted
  obtain ⟨m, found, rfl⟩ := Option.map_eq_some_iff.mp converted
  obtain ⟨taken, small⟩ := Option.filter_eq_some_iff.mp found
  rw [taken, UInt64.toNat_ofNat_of_lt' (of_decide_eq_true small)]

theorem numbered_takesNatural {α : Type} {code : α → Nat} {decode : Nat → Option α}
    (lawful : ∀ n a, decode n = some a → code a = n)
    : (numbered code decode).TakesNatural code := by
  intro node a converted
  obtain ⟨m, found, decoded⟩ := Option.bind_eq_some_iff.mp converted
  obtain ⟨taken, -⟩ := Option.filter_eq_some_iff.mp found
  rw [taken, lawful m a decoded]

end Codec

theorem SmartHive.MessageType.codec_takesNatural
    : SmartHive.MessageType.codec.TakesNatural SmartHive.MessageType.code := by
  apply Codec.numbered_takesNatural
  intro n kind decoded
  match n with
  | 0 | 1 => cases decoded; rfl
  | n + 2 => cases decoded

-----------------------------------------------------------------------------------------
-- Documents
-----------------------------------------------------------------------------------------

namespace Toml

open Courier.Config (Node)

/-- A decimal digit has its value in a document. -/
theorem digitValue?_of_isDigit {c : Char} (digit : isDigit c = true)
    : digitValue? c = some (c.toNat - 48) :=
  if_pos digit

/-- Decimal digits are one run. -/
theorem digitRun?_of_digits {cs : List Char} (filled : cs ≠ [])
    (digits : ∀ c ∈ cs, isDigit c = true)
    : digitRun? 10 cs = some cs := by
  have undivided : '_' ∉ cs := fun among => absurd (digits '_' among) (by decide)
  have all : cs.all (isDigitOf 10) = true := by
    refine List.all_eq_true.mpr fun c among => ?_
    have bounds := digits c among
    simp only [isDigit, Bool.and_eq_true, decide_eq_true_eq, Char.le_def] at bounds
    have high : c.toNat ≤ 57 := bounds.2
    rw [isDigitOf, digitValue?_of_isDigit (digits c among)]
    exact decide_eq_true (by omega)
  have single : cs.isEmpty = false := by simpa using filled
  rw [digitRun?, Disk.splitOn_of_notMem undivided]
  simp [all, single]

theorem numberOf_of_digits {cs : List Char} (digits : ∀ c ∈ cs, isDigit c = true)
    : numberOf 10 cs = Json.Literal.value cs := by
  refine List.foldl_ext _ _ _ fun n c among => ?_
  rw [digitValue?_of_isDigit (digits c among)]
  rfl

section Digits

variable (n : Nat)

/-- The digits of a number have no leading zero. -/
theorem plainRun?_toDigits : plainRun? (Nat.toDigits 10 n) = some (Nat.toDigits 10 n) := by
  obtain ⟨d, ds, spelled, leading, -⟩ := Json.toDigits_leading n
  have filled : Nat.toDigits 10 n ≠ [] := spelled ▸ List.cons_ne_nil d ds
  have run := digitRun?_of_digits filled fun c => Json.isDigit_of_mem_toDigits
  rw [plainRun?, run, spelled]
  split
  · next second rest zero =>
      obtain ⟨rfl, more⟩ := List.cons.inj (Option.some.inj zero)
      rw [leading rfl] at more
      cases more
  · rfl

theorem splitSign_toDigits : splitSign (Nat.toDigits 10 n) = (false, Nat.toDigits 10 n) := by
  have unsigned {c : Char} {rest : List Char} (spelled : Nat.toDigits 10 n = c :: rest)
      : isDigit c = true :=
    Json.isDigit_of_mem_toDigits (spelled ▸ List.mem_cons_self)
  unfold splitSign
  split
  · next rest spelled => exact absurd (unsigned spelled) (by decide)
  · next rest spelled => exact absurd (unsigned spelled) (by decide)
  · rfl

/-- Digits after a sign are a number within 64 bits or none. -/
theorem plainRun?_bounded (negative : Bool)
    : ((plainRun? (Nat.toDigits 10 n)).bind fun digits => bounded? negative (numberOf 10 digits))
      = bounded? negative n := by
  rw [plainRun?_toDigits, Option.bind_some,
    numberOf_of_digits fun c => Json.isDigit_of_mem_toDigits, Json.value_toDigits]

end Digits

theorem integer?_integerText (n : Int)
    : integer? (Node.integerText n).toList = bounded? (n < 0) n.natAbs := by
  cases n with
  | ofNat n =>
      have undigit {c : Char} {rest : List Char} (spelled : Nat.toDigits 10 n = '0' :: c :: rest)
          : isDigit c = true :=
        Json.isDigit_of_mem_toDigits (spelled ▸ List.mem_cons_of_mem _ List.mem_cons_self)
      have natural : ¬ (Int.ofNat n < 0) := Int.not_lt.mpr (Int.natCast_nonneg n)
      rw [Node.integerText, String.toList_ofList, decide_eq_false natural]
      unfold integer?
      split
      · next rest spelled => exact absurd (undigit spelled) (by decide)
      · next rest spelled => exact absurd (undigit spelled) (by decide)
      · next rest spelled => exact absurd (undigit spelled) (by decide)
      · rw [splitSign_toDigits]
        exact plainRun?_bounded n false
  | negSucc n =>
      rw [Node.integerText, String.toList_ofList, decide_eq_true (Int.negSucc_lt_zero n)]
      exact plainRun?_bounded (n + 1) true

/-- A document takes the decimal digits of a number within 64 bits as that number. -/
theorem scalar?_integerText {n : Int} (bounds : -2 ^ 63 ≤ n ∧ n < 2 ^ 63)
    : scalar? (Node.integerText n).toList = some (.integer n) := by
  have read : integer? (Node.integerText n).toList = some n := by
    rw [integer?_integerText, bounded?, integerLimit]
    split
    · next negative =>
        have negative : n < 0 := of_decide_eq_true negative
        rw [if_pos (by omega)]
        exact congrArg some (by omega)
    · next natural =>
        have natural : ¬ n < 0 := fun negative => natural (decide_eq_true negative)
        rw [if_pos (by omega)]
        exact congrArg some (by omega)
  have unworded (word : List Char) (none : integer? word = none)
      : ((Node.integerText n).toList == word) = false := by
    rw [beq_eq_false_iff_ne]
    rintro rfl
    cases read.symm.trans none
  rw [scalar?, unworded _ (by decide), unworded _ (by decide), read]
  rfl

end Toml

end Courier
