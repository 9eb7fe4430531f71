import Courier.Phone
import Mathlib.Tactic.SplitIfs

/-! Telephone numbers as they are dialled. A number that is accepted is seven to fifteen digits, and
the digits of a number without a plus sign are told from its own and from the country code.
-/

namespace Courier.Phone

open Courier.Text

-----------------------------------------------------------------------------------------
-- Numbers that providers take
-----------------------------------------------------------------------------------------

/-- A number as providers take it: seven to fifteen decimal digits. -/
structure Dialable (number : String) : Prop where
  longEnough : 7 ≤ number.length
  shortEnough : number.length ≤ 15
  digits (c : Char) : c ∈ number.toList → '0' ≤ c ∧ c ≤ '9'

theorem digits_eq_ok_iff {raw countryCode number : String}
    : digits raw countryCode = .ok number
      ↔ ∃ cs,
        normalizeChars? countryCode.toList raw.toList = some cs
        ∧ isDialable (cs.dropWhile (· == '+')) = true
        ∧ String.ofList (cs.dropWhile (· == '+')) = number := by
  rw [digits]
  cases normalizeChars? countryCode.toList raw.toList with
  | none => simp
  | some cs =>
      dsimp only
      split
      · next dials => simp [dials]
      · next dials => simp [dials]

theorem dialable_of_digits {raw countryCode number : String}
    (found : digits raw countryCode = .ok number)
    : Dialable number := by
  obtain ⟨cs, _, dials, rfl⟩ := digits_eq_ok_iff.mp found
  simp only [isDialable, isDigit, Bool.and_eq_true, decide_eq_true_eq, List.all_eq_true] at dials
  obtain ⟨⟨longEnough, shortEnough⟩, digits⟩ := dials
  exact ⟨by simpa using longEnough, by simpa using shortEnough, by simpa using digits⟩

/-- Blanks at the ends of a number are separators like all others. -/
theorem normalizeChars?_trimChars (code raw : List Char)
    : normalizeChars? code (trimChars raw) = normalizeChars? code raw := by
  simp only [normalizeChars?, filter_trimChars]

theorem digits_of_trim {raw countryCode number : String}
    (found : digits (trim raw) countryCode = .ok number)
    : digits raw countryCode = .ok number := by
  rw [digits_eq_ok_iff] at found ⊢
  rwa [trim, String.toList_ofList, normalizeChars?_trimChars] at found

-----------------------------------------------------------------------------------------
-- The digits of a number
-----------------------------------------------------------------------------------------

/-- A country code: one to three decimal digits. -/
structure IsCountryCode (code : String) : Prop where
  filled : 1 ≤ code.length
  short : code.length ≤ 3
  digits : ∀ c ∈ code.toList, isDigit c = true

instance decidableIsCountryCode (code : String) : Decidable (IsCountryCode code) :=
  decidable_of_iff (1 ≤ code.length ∧ code.length ≤ 3 ∧ code.toList.all isDigit = true)
    ⟨fun is => ⟨is.1, is.2.1, List.all_eq_true.mp is.2.2⟩,
      fun is => ⟨is.filled, is.short, List.all_eq_true.mpr is.digits⟩⟩

/-- The digits of a number that is written without a plus sign: the country code takes the place of
a leading zero, and stands before ten digits that do not begin with it. -/
def expand (code cs : List Char) : List Char :=
  if cs.head? = some '0' then code ++ cs.tail
  else if code <+: cs then cs
  else if cs.length = 10 then code ++ cs
  else cs

/-- The rules that bring characters to their international form, one for each notation. -/
inductive Forms (code : List Char) : List Char → List Char → Prop
  | signed (rest : List Char) : Forms code ('+' :: rest) ('+' :: rest)
  | zeroed (rest : List Char) : Forms code ('0' :: rest) ('+' :: (code ++ rest))
  | coded {cs : List Char} (unsigned : cs.head? ≠ some '+') (unzeroed : cs.head? ≠ some '0')
    (coded : code <+: cs)
    : Forms code cs ('+' :: cs)
  | national {cs : List Char} (unsigned : cs.head? ≠ some '+') (unzeroed : cs.head? ≠ some '0')
    (uncoded : ¬ code <+: cs) (ten : cs.length = 10) (digits : ∀ c ∈ cs, isDigit c = true)
    : Forms code cs ('+' :: (code ++ cs))
  | unknown {cs : List Char} (unsigned : cs.head? ≠ some '+') (unzeroed : cs.head? ≠ some '0')
    (uncoded : ¬ code <+: cs) (other : ¬ (cs.length = 10 ∧ ∀ c ∈ cs, isDigit c = true))
    : Forms code cs cs

/-- The international form is made by the rule of the notation. -/
theorem internationalChars_forms (code cs : List Char)
    : Forms code cs (internationalChars code cs) := by
  unfold internationalChars
  split
  · next rest => exact .signed rest
  · next rest => exact .zeroed rest
  · next noPlus noZero =>
      have unsigned : cs.head? ≠ some '+' := by
        intro first
        obtain ⟨rest, rfl⟩ := List.head?_eq_some_iff.mp first
        exact noPlus rest rfl
      have unzeroed : cs.head? ≠ some '0' := by
        intro first
        obtain ⟨rest, rfl⟩ := List.head?_eq_some_iff.mp first
        exact noZero rest rfl
      simp only [List.isPrefixOf_iff_prefix, Bool.and_eq_true, beq_iff_eq, List.all_eq_true]
      split_ifs with coded national
      · exact .coded unsigned unzeroed coded
      · exact .national unsigned unzeroed coded national.1 national.2
      · exact .unknown unsigned unzeroed coded national

/-- No digit divides a number. -/
theorem isSeparator_of_isDigit {c : Char} (digit : isDigit c = true) : isSeparator c = false := by
  have bounds : 48 ≤ c.toNat ∧ c.toNat ≤ 57 := by
    simpa [isDigit, Char.le_def, UInt32.le_iff_toNat_le] using digit
  have unblank : isBlank c = false := by
    simp only [isBlank]
    simp
    omega
  have others : c ≠ '-' ∧ c ≠ '(' ∧ c ≠ ')' := by
    refine ⟨?_, ?_, ?_⟩ <;> (rintro rfl; simp at bounds)
  simp [isSeparator, unblank, others]

/-- Where no plus sign is in front, none is dropped. -/
theorem dropWhile_plus_of_unsigned {cs : List Char} (unsigned : cs.head? ≠ some '+')
    : cs.dropWhile (· == '+') = cs := by
  cases cs with
  | nil => rfl
  | cons c cs =>
      refine List.dropWhile_cons_of_neg ?_
      simpa using unsigned

theorem expand_zero (code ds : List Char) : expand code ('0' :: ds) = code ++ ds := if_pos rfl

theorem expand_begun {code cs : List Char} (unzeroed : cs.head? ≠ some '0')
    (begins : code <+: cs)
    : expand code cs = cs := by
  rw [expand, if_neg unzeroed, if_pos begins]

theorem expand_ten {code cs : List Char} (unzeroed : cs.head? ≠ some '0')
    (uncoded : ¬ code <+: cs) (ten : cs.length = 10)
    : expand code cs = code ++ cs := by
  rw [expand, if_neg unzeroed, if_neg uncoded, if_pos ten]

section Expansion

variable {code cs : List Char} (isCode : ∀ c ∈ code, isDigit c = true)
  (digits : ∀ c ∈ cs, isDigit c = true)

include digits in
/-- No digit is a plus sign. -/
theorem unsigned_of_digits : cs.head? ≠ some '+' := by
  intro first
  exact absurd (digits '+' (List.mem_of_head? first)) (by decide)

include digits in
theorem dropWhile_plus : cs.dropWhile (· == '+') = cs :=
  dropWhile_plus_of_unsigned (unsigned_of_digits digits)

include isCode digits in
/-- Digits stay digits when the country code is put before them. -/
theorem isDigit_of_mem_expand : ∀ c ∈ expand code cs, isDigit c = true := by
  have tail : ∀ c ∈ cs.tail, isDigit c = true :=
    fun c among => digits c (List.mem_of_mem_tail among)
  rw [expand]
  split_ifs
  · exact List.forall_mem_append.mpr ⟨isCode, tail⟩
  · exact digits
  · exact List.forall_mem_append.mpr ⟨isCode, digits⟩
  · exact digits

include digits in
/-- The international form of digits is their expansion, with a plus sign or without one. -/
theorem internationalChars_eq (code : List Char)
    : internationalChars code cs = '+' :: expand code cs
      ∨ internationalChars code cs = expand code cs := by
  have forms := internationalChars_forms code cs
  generalize internationalChars code cs = form at forms
  cases forms with
  | signed rest => exact absurd rfl (unsigned_of_digits digits)
  | zeroed rest => exact .inl (by rw [expand_zero])
  | coded _ unzeroed coded => exact .inl (by rw [expand_begun unzeroed coded])
  | national _ unzeroed uncoded ten _ =>
      exact .inl (by rw [expand_ten unzeroed uncoded ten])
  | unknown _ unzeroed uncoded other =>
      have short : cs.length ≠ 10 := fun ten => other ⟨ten, digits⟩
      exact .inr (by rw [expand, if_neg unzeroed, if_neg uncoded, if_neg short])

include isCode digits in
theorem dropWhile_internationalChars
    : (internationalChars code cs).dropWhile (· == '+') = expand code cs := by
  have expanded := dropWhile_plus (isDigit_of_mem_expand isCode digits)
  rcases internationalChars_eq digits code with signed | plain
  · rw [signed, List.dropWhile_cons_of_pos (by rfl), expanded]
  · rw [plain, expanded]

end Expansion

theorem isDialable_iff {cs : List Char} (digits : ∀ c ∈ cs, isDigit c = true)
    : isDialable cs = true ↔ 7 ≤ cs.length ∧ cs.length ≤ 15 := by
  have all : cs.all isDigit = true := List.all_eq_true.mpr digits
  simp [isDialable, all]

/-- Only a country code in the place of a zero can make seven to fifteen digits too many. -/
theorem isDialable_expand_iff {code : String} {cs : List Char} (isCode : IsCountryCode code)
    (digits : ∀ c ∈ cs, isDigit c = true) (longEnough : 7 ≤ cs.length)
    (shortEnough : cs.length ≤ 15)
    : isDialable (expand code.toList cs) = true
      ↔ ¬ (cs.head? = some '0' ∧ 15 < code.length + cs.length - 1) := by
  have filled := isCode.filled
  have short := isCode.short
  rw [← String.length_toList] at filled short ⊢
  rw [isDialable_iff (isDigit_of_mem_expand isCode.digits digits), expand]
  split_ifs with zeroed coded ten
  · rw [List.length_append, List.length_tail]
    simp only [zeroed, true_and]
    omega
  · exact iff_of_true ⟨longEnough, shortEnough⟩ fun both => zeroed both.1
  · refine iff_of_true ?_ fun both => zeroed both.1
    rw [List.length_append]
    omega
  · exact iff_of_true ⟨longEnough, shortEnough⟩ fun both => zeroed both.1

/-- The digits of a number are told from its characters without the separators. -/
theorem digits_of_filter {raw : String} {cs : List Char}
    (kept : raw.toList.filter (!isSeparator ·) = cs) (filled : cs ≠ []) (code : String)
    : digits raw code
      = if isDialable ((internationalChars code.toList cs).dropWhile (· == '+')) then
          .ok (String.ofList ((internationalChars code.toList cs).dropWhile (· == '+')))
        else .error (.notANumber raw) := by
  rw [digits, normalizeChars?, filter_trimChars, kept]
  cases cs with
  | nil => exact absurd rfl filled
  | cons c cs => rfl

end Courier.Phone
