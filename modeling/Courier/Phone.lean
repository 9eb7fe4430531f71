import Courier.Text.Blank

/-! Telephone numbers. A number is written in many ways: local with a leading zero, international
with or without a plus sign, with blanks, hyphens and parentheses. `Phone.normalize?` brings it to
the international form and `Phone.digits` to the bare digits that providers take.
-/

namespace Courier.Phone

open Courier.Text

/-- The characters that only divide a number. -/
def isSeparator (c : Char) : Bool :=
  isBlank c || c == '-' || c == '(' || c == ')'

/-- The country code that local numbers have unless the settings name another. -/
def defaultCountryCode : String := "234"

/-- The international form of a number without separators. A number that matches no local pattern
stays as it is. -/
def internationalChars (code cs : List Char) : List Char :=
  match cs with
  | '+' :: _ => cs
  | '0' :: rest => '+' :: (code ++ rest)
  | _ =>
    if code.isPrefixOf cs then '+' :: cs
    else if cs.length == 10 && cs.all isDigit then '+' :: (code ++ cs)
    else cs

/-- The international form of a number, or nothing when only separators are given. -/
def normalizeChars? (code raw : List Char) : Option (List Char) :=
  match (trimChars raw).filter (!isSeparator ·) with
  | [] => none
  | c :: cs => some (internationalChars code (c :: cs))

/-- The international form of a number, or nothing when only separators are given. -/
def normalize? (raw countryCode : String) : Option String :=
  (normalizeChars? countryCode.toList raw.toList).map String.ofList

/-- What keeps a text from being a number to send to. -/
inductive Fault
  | empty
  | notANumber (raw : String)
  deriving DecidableEq, Repr

def Fault.message : Fault → String
  | .empty => "Recipient phone number is empty"
  | .notANumber raw => s!"'{raw}' is not a valid phone number"

def isDialable (cs : List Char) : Bool :=
  7 ≤ cs.length && cs.length ≤ 15 && cs.all isDigit

def digits (raw countryCode : String) : Except Fault String :=
  match normalizeChars? countryCode.toList raw.toList with
  | none => .error .empty
  | some cs =>
    let bare := cs.dropWhile (· == '+')
    if isDialable bare then .ok (String.ofList bare) else .error (.notANumber raw)

/-- Trimming matters to no normal form, since blanks are separators. -/
theorem filter_trimChars (raw : List Char)
    : (trimChars raw).filter (!isSeparator ·) = raw.filter (!isSeparator ·) := by
  have drop (cs : List Char)
      : (cs.dropWhile isBlank).filter (!isSeparator ·) = cs.filter (!isSeparator ·) := by
    induction cs with
    | nil => rfl
    | cons c cs ih =>
      by_cases h : isBlank c = true
      · have hs : isSeparator c = true := by simp [isSeparator, h]
        simp [List.dropWhile, h, hs, ih]
      · simp [List.dropWhile, h]
  simp only [trimChars]
  rw [← List.reverse_reverse (List.filter _ _), ← List.filter_reverse, List.reverse_reverse, drop,
    List.filter_reverse, List.reverse_reverse, drop]

end Courier.Phone
