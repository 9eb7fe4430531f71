import Courier.Proofs.Dispatch.Checks
import Courier.Proofs.Phone.Notation
import Mathlib.Data.List.TakeWhile

/-! Which texts are taken for a recipient. The rule is that exactly a number is taken, digits with
one plus sign at most before them, and it is kept unless more plus signs stand before seven to
fifteen digits: all of them are dropped.
-/

namespace Courier

open Courier.Phone (IsCountryCode IsNumber IsTwiceSigned normalDigits undivided)
open Courier.Text

-----------------------------------------------------------------------------------------
-- Numbers with more than one plus sign
-----------------------------------------------------------------------------------------

/-- Seven to fifteen digits with two plus signs or more before them. -/
def Phone.IsOversigned (cs : List Char) : Prop :=
  ∃ signs ds,
    cs = List.replicate (signs + 2) '+' ++ ds
    ∧ (∀ d ∈ ds, isDigit d = true)
    ∧ 7 ≤ ds.length
    ∧ ds.length ≤ 15

section Oversigned

variable {cs : List Char}

/-- Characters are as many plus signs as are dropped of them, and what is left. -/
theorem Phone.exists_replicate_plus (cs : List Char)
    : ∃ signs, cs = List.replicate signs '+' ++ cs.dropWhile (· == '+') := by
  refine ⟨(cs.takeWhile (· == '+')).length, ?_⟩
  have signs : cs.takeWhile (· == '+') = List.replicate (cs.takeWhile (· == '+')).length '+' := by
    refine List.eq_replicate_of_mem fun c among => ?_
    simpa using List.mem_takeWhile_imp among
  rw [← signs, List.takeWhile_append_dropWhile]

/-- With two plus signs in front, characters are a number to dial exactly when digits enough are
left without all signs. -/
theorem Phone.isOversigned_iff
    : IsOversigned cs
      ↔ IsTwiceSigned cs ∧ isDialable (cs.dropWhile (· == '+')) = true := by
  constructor
  · rintro ⟨signs, ds, rfl, digits, longEnough, shortEnough⟩
    have dropped : (List.replicate (signs + 2) '+' ++ ds).dropWhile (· == '+') = ds := by
      rw [List.dropWhile_append_of_pos fun c among => by simp [List.eq_of_mem_replicate among]]
      exact dropWhile_plus digits
    refine ⟨⟨List.replicate signs '+' ++ ds, rfl⟩, ?_⟩
    rw [dropped]
    exact (isDialable_iff digits).mpr ⟨longEnough, shortEnough⟩
  · rintro ⟨⟨rest, rfl⟩, dials⟩
    obtain ⟨signs, whole⟩ := exists_replicate_plus rest
    have digits := isDigit_of_isDialable dials
    obtain ⟨longEnough, shortEnough⟩ := (isDialable_iff digits).mp dials
    refine ⟨signs, _, ?_, digits, longEnough, shortEnough⟩
    exact congrArg ('+' :: '+' :: ·) whole

/-- No number has two plus signs in front. -/
theorem Phone.not_isNumber_of_isTwiceSigned {code : String} (twice : IsTwiceSigned cs)
    : ¬ IsNumber code cs := by
  rintro ⟨⟨ds, -, digits, spelled⟩, -, -⟩
  exact not_isTwiceSigned_of_spelled digits spelled twice

end Oversigned

-----------------------------------------------------------------------------------------
-- The rule for recipients
-----------------------------------------------------------------------------------------

/-- The rule for recipients: exactly a number is taken, as the digits that it stands for, and all
else is refused as the field `to`. -/
structure Ruled (code raw : String) (result : Except Failure String) : Prop where
  taken (number : String)
    : result = .ok number
      ↔ IsNumber code (undivided raw)
        ∧ number.toList = normalDigits code.toList (undivided raw)
  refused
    : ¬ IsNumber code (undivided raw) → ∃ reason, result = .error (.invalid "to" reason)

namespace Context

variable {context : Context} {raw : String}

theorem recipient_refused (untaken : ∀ number, context.recipient raw ≠ .ok number)
    : ∃ reason, context.recipient raw = .error (.invalid "to" reason) := by
  cases found : Phone.digits raw context.countryCode with
  | ok number => exact absurd ((context.recipient_eq_ok_iff raw number).mpr found) (untaken number)
  | error fault => exact ⟨fault.message, by rw [recipient, found]; rfl⟩

/-- Of characters with two plus signs in front, what is left without all signs is taken. -/
theorem isOversigned_of_recipient {number : String} (twice : IsTwiceSigned (undivided raw))
    (taken : context.recipient raw = .ok number)
    : Phone.IsOversigned (undivided raw) := by
  rw [context.recipient_eq_ok_iff, Phone.digits_eq_ok_iff] at taken
  obtain ⟨cs, formed, dials, -⟩ := taken
  obtain ⟨-, rfl⟩ := Phone.normalizeChars?_eq_some_iff.mp formed
  refine Phone.isOversigned_iff.mpr ⟨twice, ?_⟩
  obtain ⟨rest, whole⟩ := twice
  rwa [← whole] at dials ⊢

theorem recipient_of_isOversigned (context : Context)
    (oversigned : Phone.IsOversigned (undivided raw))
    : ∃ number, context.recipient raw = .ok number := by
  obtain ⟨twice, dials⟩ := Phone.isOversigned_iff.mp oversigned
  have same : Phone.internationalChars context.countryCode.toList (undivided raw)
      = undivided raw := by
    obtain ⟨rest, whole⟩ := twice
    rw [← whole]
    rfl
  have filled : undivided raw ≠ [] := by
    obtain ⟨rest, whole⟩ := twice
    rw [← whole]
    exact List.cons_ne_nil _ _
  refine ⟨String.ofList ((undivided raw).dropWhile (· == '+')), ?_⟩
  rw [context.recipient_eq_ok_iff, Phone.digits_eq_ok_iff]
  exact ⟨_, Phone.normalizeChars?_eq_some_iff.mpr ⟨filled, same⟩, dials, rfl⟩

/-- Recipients are taken by the rule exactly when they are not digits with several plus signs before
them. -/
theorem recipient_ruled_iff (context : Context) (isCode : IsCountryCode context.countryCode)
    (raw : String)
    : Ruled context.countryCode raw (context.recipient raw)
      ↔ ¬ Phone.IsOversigned (undivided raw) := by
  constructor
  · intro ruled oversigned
    obtain ⟨number, taken⟩ := recipient_of_isOversigned context oversigned
    have isNumber := ((ruled.taken number).mp taken).1
    exact Phone.not_isNumber_of_isTwiceSigned (Phone.isOversigned_iff.mp oversigned).1 isNumber
  · intro fine
    have taken (number : String)
        : context.recipient raw = .ok number
          ↔ IsNumber context.countryCode (undivided raw)
            ∧ number.toList = normalDigits context.countryCode.toList (undivided raw) := by
      by_cases twice : IsTwiceSigned (undivided raw)
      · refine iff_of_false ?_ ?_
        · exact fun taken => fine (isOversigned_of_recipient twice taken)
        · exact fun both => Phone.not_isNumber_of_isTwiceSigned twice both.1
      · rw [context.recipient_eq_ok_iff]
        exact Phone.digits_eq_ok_iff_isNumber isCode twice
    refine ⟨taken, fun other => recipient_refused fun number found => ?_⟩
    exact other ((taken number).mp found).1

/-- A local number is taken by the rule, and letters behind its zero are refused by it. -/
theorem recipient_ruled_iff_local
    : let context : Context := ⟨⟨"agent"⟩, "234", .short⟩
      IsCountryCode context.countryCode
      ∧ context.recipient "0810 (839) 4272" = .ok "2348108394272"
      ∧ Ruled context.countryCode "0810 (839) 4272" (context.recipient "0810 (839) 4272")
      ∧ ∃ reason, context.recipient "0x1083942" = .error (.invalid "to" reason) := by
  intro context
  have isCode : IsCountryCode context.countryCode := by decide
  have once (raw : String) (kept : ¬ IsTwiceSigned (undivided raw))
      : Ruled context.countryCode raw (context.recipient raw) :=
    (recipient_ruled_iff context isCode raw).mpr fun oversigned =>
      kept (Phone.isOversigned_iff.mp oversigned).1
  have ruled := once "0810 (839) 4272" (by decide)
  refine ⟨isCode, by decide +kernel, ruled, ?_⟩
  have lettered := once "0x1083942" (by decide)
  refine lettered.refused fun isNumber => ?_
  have found := (lettered.taken _).mpr ⟨isNumber, String.toList_ofList⟩
  exact absurd (isOk_iff_exists.mpr ⟨_, found⟩) (by decide +kernel)

/-- Digits with two plus signs before them are no number, and they are taken for one. -/
theorem doubled_recipient_unruled
    : let context : Context := ⟨⟨"agent"⟩, "234", .short⟩
      IsCountryCode context.countryCode
      ∧ context.recipient "++2348108394272" = .ok "2348108394272"
      ∧ ¬ Ruled context.countryCode "++2348108394272" (context.recipient "++2348108394272") := by
  intro context
  have taken : context.recipient "++2348108394272" = .ok "2348108394272" := by decide +kernel
  refine ⟨by decide, taken, fun ruled => ?_⟩
  have isNumber := ((ruled.taken _).mp taken).1
  exact Phone.not_isNumber_of_isTwiceSigned (by decide) isNumber

end Context

end Courier
