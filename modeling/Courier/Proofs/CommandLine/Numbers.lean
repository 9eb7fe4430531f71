import Courier.CommandLine.Argument
import Courier.Proofs.Checks
import Courier.Proofs.Phone

/-! Telephone numbers on the command line. The check of an option and the dispatch read a number by
rules of their own. Of a number that the check accepts, the dispatch takes the digits, unless the
country code in the place of a leading zero makes them too many.
-/

namespace Courier.CommandLine.Argument

open Courier.Text
open Courier.Phone (IsCountryCode Dialable expand)

-----------------------------------------------------------------------------------------
-- What the check accepts
-----------------------------------------------------------------------------------------

/-- A number that is accepted is trimmed, and holds seven to fifteen digits and dividing characters
after its plus sign. -/
theorem phone_eq_ok_iff {raw number : String}
    : phone raw = .ok number
      ↔ number.toList = trimChars raw.toList
        ∧ (∀ c ∈ afterPlus number.toList, isPhoneChar c = true)
        ∧ 7 ≤ ((afterPlus number.toList).filter isDigit).length
        ∧ ((afterPlus number.toList).filter isDigit).length ≤ 15 := by
  have spelled : number.toList = trimChars raw.toList
      ↔ String.ofList (trimChars raw.toList) = number :=
    ⟨fun same => by rw [← same, String.ofList_toList],
      fun same => by rw [← same, String.toList_ofList]⟩
  rw [phone]
  by_cases empty : (trimChars raw.toList).isEmpty = true
  · -- nothing is left of a blank text, and so no digits
    rw [if_pos empty]
    refine iff_of_false nofun ?_
    rintro ⟨same, -, longEnough, -⟩
    rw [same, List.isEmpty_iff.mp empty] at longEnough
    exact absurd longEnough (by decide)
  · rw [if_neg empty]
    cases found : (afterPlus (trimChars raw.toList)).find? (!isPhoneChar ·) with
    | some bad =>
        refine iff_of_false nofun ?_
        rintro ⟨same, allowed, -⟩
        have refused := List.find?_some found
        rw [← same] at found
        simp [allowed bad (List.mem_of_find?_eq_some found)] at refused
    | none =>
        have allowed := List.find?_eq_none.mp found
        dsimp only
        split
        · next counted =>
            simp only [Bool.and_eq_true, decide_eq_true_eq] at counted
            rw [Except.ok.injEq, ← spelled]
            refine ⟨fun same => ?_, And.left⟩
            rw [same]
            exact ⟨rfl, fun c among => by simpa using allowed c among, counted⟩
        · next counted =>
            refine iff_of_false nofun ?_
            rintro ⟨same, -, bounds⟩
            rw [same] at bounds
            simp [fewestDigits, mostDigits, bounds] at counted

/-- Of the characters of a number, exactly the digits divide nothing. -/
theorem isSeparator_of_isPhoneChar {c : Char} (allowed : isPhoneChar c = true)
    : (!Phone.isSeparator c) = isDigit c := by
  cases digit : isDigit c with
  | true => simp [Phone.isSeparator_of_isDigit digit]
  | false =>
      simp only [isPhoneChar, digit, Bool.false_or, Bool.or_eq_true, beq_iff_eq] at allowed
      obtain ((rfl | rfl) | rfl) | rfl := allowed <;> rfl

theorem filter_afterPlus (cs : List Char)
    : (afterPlus cs).filter isDigit = cs.filter isDigit := by
  unfold afterPlus
  split
  · next cs => exact (List.filter_cons_of_neg (by decide)).symm
  · rfl

/-- Without its separators, a number that is accepted is its digits and perhaps a plus sign. -/
theorem filter_isSeparator {cs : List Char} (allowed : ∀ c ∈ afterPlus cs, isPhoneChar c = true)
    : cs.filter (!Phone.isSeparator ·)
      = if cs.head? = some '+' then '+' :: cs.filter isDigit else cs.filter isDigit := by
  have kept : (afterPlus cs).filter (!Phone.isSeparator ·) = cs.filter isDigit := by
    rw [← filter_afterPlus]
    exact List.filter_congr fun c among => isSeparator_of_isPhoneChar (allowed c among)
  unfold afterPlus at kept
  split at kept
  · next cs =>
      rw [List.filter_cons_of_pos (by decide), kept]
      rfl
  · next unsigned =>
      have other : cs.head? ≠ some '+' := by
        intro signed
        obtain ⟨rest, rfl⟩ := List.head?_eq_some_iff.mp signed
        exact unsigned rest rfl
      rw [if_neg other, kept]

-----------------------------------------------------------------------------------------
-- What the dispatch takes
-----------------------------------------------------------------------------------------

/-- The digits of a number, in order. -/
def digitsOf (number : String) : List Char := number.toList.filter isDigit

theorem isDigit_of_mem_digitsOf (number : String) : ∀ c ∈ digitsOf number, isDigit c = true :=
  fun _ among => (List.mem_filter.mp among).2

/-- The digits that are dialled for a number: those of an international number as they are, those
of any other number expanded. -/
def dialed (code number : String) : String :=
  String.ofList
    (if number.toList.head? = some '+' then digitsOf number
    else expand code.toList (digitsOf number))

/-- A local number of which the country code in the place of its zero makes too many digits. -/
def IsOverlong (code number : String) : Prop :=
  number.toList.head? ≠ some '+' ∧ (digitsOf number).head? = some '0'
    ∧ 15 < code.length + (digitsOf number).length - 1

instance decidableIsOverlong (code number : String) : Decidable (IsOverlong code number) :=
  inferInstanceAs (Decidable (_ ≠ _ ∧ _ = _ ∧ _ < _))

section Accepted

variable {raw number code : String} (accepted : phone raw = .ok number)

include accepted

theorem length_digitsOf : 7 ≤ (digitsOf number).length ∧ (digitsOf number).length ≤ 15 := by
  obtain ⟨-, -, bounds⟩ := phone_eq_ok_iff.mp accepted
  rwa [filter_afterPlus] at bounds

/-- The dispatch takes the digits that are dialled when they are not too many. -/
theorem digits_eq_of_phone (isCode : IsCountryCode code)
    : Phone.digits number code
      = if Phone.isDialable (dialed code number).toList then .ok (dialed code number)
        else .error (.notANumber number) := by
  obtain ⟨-, allowed, -⟩ := phone_eq_ok_iff.mp accepted
  obtain ⟨longEnough, -⟩ := length_digitsOf accepted
  have kept := filter_isSeparator allowed
  have digits := isDigit_of_mem_digitsOf number
  rw [← digitsOf] at kept
  by_cases signed : number.toList.head? = some '+'
  · rw [if_pos signed] at kept
    rw [Phone.digits_of_filter kept (List.cons_ne_nil _ _), dialed, if_pos signed,
      String.toList_ofList, Phone.internationalChars, List.dropWhile_cons_of_pos (by rfl),
      Phone.dropWhile_plus digits]
  · rw [if_neg signed] at kept
    have filled : digitsOf number ≠ [] := List.ne_nil_of_length_pos (by omega)
    rw [Phone.digits_of_filter kept filled, dialed, if_neg signed, String.toList_ofList,
      Phone.dropWhile_internationalChars isCode.digits digits]

theorem isDialable_dialed_iff (isCode : IsCountryCode code)
    : Phone.isDialable (dialed code number).toList = true ↔ ¬ IsOverlong code number := by
  have bounds := length_digitsOf accepted
  have digits := isDigit_of_mem_digitsOf number
  rw [dialed, String.toList_ofList, IsOverlong]
  by_cases signed : number.toList.head? = some '+'
  · rw [if_pos signed]
    exact iff_of_true ((Phone.isDialable_iff digits).mpr bounds) fun overlong => overlong.1 signed
  · rw [if_neg signed, Phone.isDialable_expand_iff isCode digits bounds.1 bounds.2]
    simp [signed]

/-- Trimming does not change what the dispatch takes. -/
theorem toOption_digits_of_phone (code : String)
    : (Phone.digits raw code).toOption = (Phone.digits number code).toOption := by
  obtain ⟨typed, -⟩ := phone_eq_ok_iff.mp accepted
  rw [Phone.digits, Phone.digits, typed, Phone.normalizeChars?_trimChars]
  cases Phone.normalizeChars? code.toList raw.toList with
  | none => rfl
  | some cs =>
      dsimp only
      split <;> rfl

end Accepted

/-- Of a number that the command line accepts the dispatch takes the expanded digits, seven to
fifteen of them, unless the country code makes them too many; and it takes the same digits of the
number as it was typed. -/
theorem digits_of_phone {raw number code : String} (accepted : phone raw = .ok number)
    (isCode : IsCountryCode code)
    : ((∃ fault, Phone.digits number code = .error fault) ↔ IsOverlong code number)
      ∧ (¬ IsOverlong code number
        → Phone.digits number code = .ok (dialed code number) ∧ Dialable (dialed code number))
      ∧ (Phone.digits raw code).toOption = (Phone.digits number code).toOption := by
  have found := digits_eq_of_phone accepted isCode
  have fits := isDialable_dialed_iff accepted isCode
  refine ⟨?_, ?_, toOption_digits_of_phone accepted code⟩
  · by_cases overlong : IsOverlong code number
    · rw [if_neg fun dials => fits.mp dials overlong] at found
      exact iff_of_true ⟨_, found⟩ overlong
    · rw [if_pos (fits.mpr overlong)] at found
      refine iff_of_false ?_ overlong
      rintro ⟨fault, failed⟩
      cases found.symm.trans failed
  · intro fitting
    rw [if_pos (fits.mpr fitting)] at found
    exact ⟨found, Phone.dialable_of_digits found⟩

/-- Fifteen digits are dialled as they are, or with the country code in the place of a zero are too
many. -/
theorem digits_of_phone_fifteen
    : phone " (811) 083-942-720-011" = .ok "(811) 083-942-720-011"
      ∧ phone "081108394272001" = .ok "081108394272001"
      ∧ Phone.digits "(811) 083-942-720-011" "234" = .ok "811083942720011"
      ∧ ∃ fault, Phone.digits "081108394272001" "234" = .error fault := by
  have spaced : phone " (811) 083-942-720-011" = .ok "(811) 083-942-720-011" := by decide
  have zeroed : phone "081108394272001" = .ok "081108394272001" := by decide
  have isCode : IsCountryCode "234" := by decide
  have fitting : ¬ IsOverlong "234" "(811) 083-942-720-011" := by decide
  have overlong : IsOverlong "234" "081108394272001" := by decide
  exact ⟨spaced, zeroed, ((digits_of_phone spaced isCode).2.1 fitting).1,
    (digits_of_phone zeroed isCode).1.mpr overlong⟩

end Courier.CommandLine.Argument
