import Courier.Config.Node

/-! Scalars of TOML documents that are spelled without quotes: truth values, integers in four bases,
floating-point numbers, dates and times. A date or a time is taken as the text of its normal form.
-/

namespace Courier.Toml

open Courier.Config (Node)
open Courier.Decimal
open Courier.Text (isDigit splitOn)

def digitValue? (c : Char) : Option Nat :=
  if '0' ≤ c && c ≤ '9' then some (c.toNat - 48)
  else if 'a' ≤ c && c ≤ 'f' then some (c.toNat - 87)
  else if 'A' ≤ c && c ≤ 'F' then some (c.toNat - 55)
  else none

def isDigitOf (base : Nat) (c : Char) : Bool :=
  match digitValue? c with
  | some d => d < base
  | none => false

/-- The digits of a run in which single underscores may stand between digits. -/
def digitRun? (base : Nat) (cs : List Char) : Option (List Char) :=
  let groups := splitOn '_' cs
  if groups.all fun group => !group.isEmpty && group.all (isDigitOf base) then some groups.flatten
  else none

/-- The number that digits of a base spell. -/
def numberOf (base : Nat) (digits : List Char) : Nat :=
  digits.foldl (fun n c => base * n + (digitValue? c).getD 0) 0

/-- A sign, which may be missing, and the rest. -/
def splitSign : List Char → Bool × List Char
  | '-' :: cs => (true, cs)
  | '+' :: cs => (false, cs)
  | cs => (false, cs)

/-- The first natural number that is no integer of a document, `2 ^ 63`. -/
def integerLimit : Nat := 9223372036854775808

/-- A number within 64 bits and its sign. -/
def bounded? (negative : Bool) (n : Nat) : Option Int :=
  if negative then if n ≤ integerLimit then some (-(n : Int)) else none
  else if n < integerLimit then some n else none

/-- Decimal digits without a leading zero. -/
def plainRun? (cs : List Char) : Option (List Char) :=
  match digitRun? 10 cs with
  | some ('0' :: _ :: _) => none
  | run => run

/-- An integer: decimal with an optional sign, or hexadecimal, octal or binary without one. -/
def integer? (cs : List Char) : Option Int :=
  let inBase (base : Nat) (cs : List Char) :=
    (digitRun? base cs).bind fun digits => bounded? false (numberOf base digits)
  match cs with
  | '0' :: 'x' :: rest => inBase 16 rest
  | '0' :: 'o' :: rest => inBase 8 rest
  | '0' :: 'b' :: rest => inBase 2 rest
  | _ =>
    let (negative, digits) := splitSign cs
    (plainRun? digits).bind fun digits => bounded? negative (numberOf 10 digits)

/-- The number of a sign, digits before and after the point, and an exponent. -/
def assembleFloat (negative : Bool) (whole fraction : List Char) (down : Bool)
    (exponent : List Char) : Option Binary64 :=
  let places : Int := numberOf 10 exponent
  let power := (if down then -places else places) - fraction.length
  (Magnitude.ofDecimal (numberOf 10 (whole ++ fraction)) power).map (.finite negative)

/-- A floating-point number with a fraction, an exponent or both; or one of the two special words. A
number beyond the range is none. -/
def float? (cs : List Char) : Option Binary64 :=
  let (negative, cs) := splitSign cs
  if cs == ['i', 'n', 'f'] then some (.infinite negative)
  else if cs == ['n', 'a', 'n'] then some .nan
  else
    let (mantissa, exponent) := cs.span fun c => c != 'e' && c != 'E'
    let (whole, fraction) := mantissa.span (· != '.')
    if exponent.isEmpty && fraction.isEmpty then none
    else
      let places := if fraction.isEmpty then some [] else digitRun? 10 (fraction.drop 1)
      match plainRun? whole, places with
      | some whole, some fraction =>
        if exponent.isEmpty then assembleFloat negative whole fraction false []
        else
          let (down, digits) := splitSign (exponent.drop 1)
          (digitRun? 10 digits).bind (assembleFloat negative whole fraction down ·)
      | _, _ => none

/-- A fixed number of digits at the start of a text, their value and the rest. -/
def fixedDigits? (count : Nat) (cs : List Char) : Option (Nat × List Char) :=
  let digits := cs.take count
  if digits.length == count && digits.all isDigit then some (numberOf 10 digits, cs.drop count)
  else none

/-- The rest of a text after a character. -/
def after? (isExpected : Char → Bool) : List Char → Option (List Char)
  | c :: cs => if isExpected c then some cs else none
  | [] => none

def daysOf (year month : Nat) : Nat :=
  if month == 2 then
    if year % 4 == 0 && (year % 100 != 0 || year % 400 == 0) then 29 else 28
  else if [4, 6, 9, 11].contains month then 30
  else 31

/-- A number in at least so many digits. -/
def padded (width n : Nat) : List Char :=
  let digits := Nat.toDigits 10 n
  List.replicate (width - digits.length) '0' ++ digits

/-- A date at the start of a text, in its normal form, and the rest. -/
def date? (cs : List Char) : Option (List Char × List Char) := do
  let (year, cs) ← fixedDigits? 4 cs
  let cs ← after? (· == '-') cs
  let (month, cs) ← fixedDigits? 2 cs
  let cs ← after? (· == '-') cs
  let (day, cs) ← fixedDigits? 2 cs
  guard (1 ≤ month ∧ month ≤ 12 ∧ 1 ≤ day ∧ day ≤ daysOf year month)
  return (padded 4 year ++ '-' :: padded 2 month ++ '-' :: padded 2 day, cs)

/-- The fraction of a second to nine places, without zeros at its end; one zero stands for none. -/
def fractionChars (digits : List Char) : List Char :=
  match ((digits.take 9).reverse.dropWhile (· == '0')).reverse with
  | [] => ['.', '0']
  | kept => '.' :: kept

/-- The seconds of a time, which may be missing, and the rest. -/
def seconds? (cs : List Char) : Option (List Char × List Char) :=
  match cs with
  | ':' :: cs => do
    let (second, cs) ← fixedDigits? 2 cs
    guard (second ≤ 60)
    match cs with
    | '.' :: cs =>
      let (digits, cs) := cs.span isDigit
      guard (!digits.isEmpty)
      return (':' :: padded 2 second ++ fractionChars digits, cs)
    | cs => return (':' :: padded 2 second, cs)
  | cs => some ([], cs)

/-- A time at the start of a text, in its normal form, and the rest. -/
def time? (cs : List Char) : Option (List Char × List Char) := do
  let (hour, cs) ← fixedDigits? 2 cs
  let cs ← after? (· == ':') cs
  let (minute, cs) ← fixedDigits? 2 cs
  guard (hour ≤ 23 ∧ minute ≤ 59)
  let (seconds, cs) ← seconds? cs
  return (padded 2 hour ++ ':' :: padded 2 minute ++ seconds, cs)

/-- A distance from universal time, which may be missing, in its normal form. -/
def offset? (cs : List Char) : Option (List Char) :=
  match cs with
  | [] => some []
  | [c] => if c == 'Z' || c == 'z' then some ['Z'] else none
  | sign :: cs => do
    guard (sign == '+' || sign == '-')
    let (hour, cs) ← fixedDigits? 2 cs
    let cs ← after? (· == ':') cs
    let (minute, cs) ← fixedDigits? 2 cs
    guard (hour ≤ 23 ∧ minute ≤ 59 ∧ cs.isEmpty)
    let sign := if hour == 0 && minute == 0 then '+' else sign
    return sign :: padded 2 hour ++ ':' :: padded 2 minute

def isDivider (c : Char) : Bool := c == 'T' || c == 't' || c == ' '

/-- A date, a time, or both, in normal form. -/
def moment? (cs : List Char) : Option (List Char) :=
  match date? cs with
  | some (date, []) => some date
  | some (date, cs) => do
    let cs ← after? isDivider cs
    let (time, cs) ← time? cs
    let offset ← offset? cs
    return date ++ 'T' :: time ++ offset
  | none =>
    match time? cs with
    | some (time, []) => some time
    | _ => none

/-- The value of a spelling without quotes. -/
def scalar? (cs : List Char) : Option Node :=
  if cs == ['t', 'r', 'u', 'e'] then some (.bool true)
  else if cs == ['f', 'a', 'l', 's', 'e'] then some (.bool false)
  else match integer? cs with
    | some i => some (.integer i)
    | none =>
      match float? cs with
      | some x => some (.float x)
      | none => (moment? cs).map fun text => .text (String.ofList text)

end Courier.Toml
