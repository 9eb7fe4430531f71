import Courier.Json.Basic
import Courier.Json.Fault
import Courier.Text.Blank

/-! Number literals and their values. An integer in range is held exactly; any other number becomes
a floating-point number from its first digits, scaled by a power of ten with a rounding at each
step.
-/

namespace Courier.Json

open Courier.Decimal
open Courier.Text (isDigit)

/-- A number as it is spelled, or what is wrong with its spelling. -/
inductive Literal
  | decimal (negative : Bool) (whole : List Char) (fraction : List Char)
      (exponent : Option (Bool × List Char)) (integral : Bool)
  | broken (fault : Fault)
  deriving Repr

namespace Literal

/-- The fault of a spelling that lacks a digit before the rest of the text. -/
def lacking (rest : List Char) : Literal × List Char :=
  (.broken (if rest.isEmpty then .unfinished else .malformed), rest)

def scanPower (negative : Bool) (whole fraction : List Char) (down : Bool) (cs : List Char)
    : Literal × List Char :=
  match cs.span isDigit with
  | ([], rest) => lacking rest
  | (digits, rest) => (.decimal negative whole fraction (some (down, digits)) false, rest)

def scanExponent (negative : Bool) (whole fraction : List Char) (integral : Bool)
    : List Char → Literal × List Char
  | [] => (.decimal negative whole fraction none integral, [])
  | c :: cs =>
    if c == 'e' || c == 'E' then
      match cs with
      | '-' :: cs => scanPower negative whole fraction true cs
      | '+' :: cs => scanPower negative whole fraction false cs
      | cs => scanPower negative whole fraction false cs
    else (.decimal negative whole fraction none integral, c :: cs)

def scanFraction (negative : Bool) (whole : List Char) : List Char → Literal × List Char
  | '.' :: cs =>
    match cs.span isDigit with
    | ([], rest) => lacking rest
    | (digits, rest) => scanExponent negative whole digits false rest
  | cs => scanExponent negative whole [] true cs

def scanWhole (negative : Bool) (cs : List Char) : Literal × List Char :=
  match cs.span isDigit with
  | ([], rest) => lacking rest
  | ('0' :: _ :: _, rest) => (.broken .malformed, rest)
  | (whole, rest) => scanFraction negative whole rest

/-- The spelling at the start of a text that begins with a digit or a minus sign. -/
def scan : List Char → Literal × List Char
  | '-' :: cs => scanWhole true cs
  | cs => scanWhole false cs

/-- A spelling is broken when it has a fault. -/
def isBroken : Literal → Bool
  | .decimal .. => false
  | .broken _ => true

def value (digits : List Char) : Nat :=
  digits.foldl (fun n c => 10 * n + (c.toNat - 48)) 0

/-- Takes digits into a significand as long as it stays below `wordLimit`. -/
def accumulate (significand : Nat) : List Char → Nat × List Char
  | [] => (significand, [])
  | c :: cs =>
    let next := 10 * significand + (c.toNat - 48)
    if next < wordLimit then accumulate next cs else (significand, c :: cs)

/-- The magnitude of a power of ten that floating-point numbers reach. -/
def powerOfTen (k : Nat) : Magnitude :=
  (Magnitude.ofDecimal 1 k).getD .zero

/-- A magnitude times a power of ten. Below the table of powers a number is divided down in steps
of 308 places; three steps reach zero. -/
def scaleBy : Nat → Magnitude → Int → Except Fault Magnitude
  | 0, _, _ => .ok .zero
  | steps + 1, x, exponent =>
    if exponent.natAbs ≤ 308 then
      if 0 ≤ exponent then
        match x.mul (powerOfTen exponent.natAbs) with
        | some y => .ok y
        | none => .error .malformed
      else .ok ((x.div (powerOfTen exponent.natAbs)).getD .zero)
    else if x.significand == 0 then .ok x
    else if 0 ≤ exponent then .error .malformed
    else scaleBy steps ((x.div (powerOfTen 308)).getD .zero) (exponent + 308)

/-- The floating-point number of a significand and a power of ten. -/
def float (negative : Bool) (significand : Nat) (exponent : Int) : Except Fault Json.Number :=
  match Magnitude.ofDecimal significand 0 with
  | some x => (scaleBy 4 x exponent).map (.float negative)
  | none => .error .malformed

/-- The greatest exponent that is added to the place of the point. -/
def exponentLimit : Nat := 2147483647

def toNumber : Literal → Except Fault Json.Number
  | .broken fault => .error fault
  | .decimal negative whole fraction exponent integral =>
    let n := value whole
    if integral && !negative && n < wordLimit then .ok (.integer n)
    else if integral && negative && 0 < n && 2 * n ≤ wordLimit then .ok (.integer (-n))
    else
      let (wholePart, skipped) := accumulate 0 whole
      let (significand, unread) := accumulate wholePart fraction
      let point : Int := (skipped.length : Int) - (fraction.length - unread.length : Nat)
      match exponent with
      | none => float negative significand point
      | some (down, digits) =>
        let places := value digits
        if exponentLimit < places then
          if significand == 0 || down then .ok (.float negative .zero) else .error .malformed
        else float negative significand (if down then point - places else point + places)

end Literal

end Courier.Json
