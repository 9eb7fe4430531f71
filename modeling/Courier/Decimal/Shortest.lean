import Courier.Decimal.Binary64

/-! The shortest decimal that reads back as a given magnitude, and of those the nearest. A decimal
with few digits lies on a coarse grid; the first grid on which a neighbour of the value reads back
gives the digits.
-/

namespace Courier.Decimal

/-- The decimal `digits * 10 ^ power`. -/
structure Numeral where
  digits : Nat
  power : Int
  deriving DecidableEq, Repr

/-- Which of two equally near decimals is taken. -/
inductive Tie
  | toEven
  | upward
  deriving DecidableEq, Repr

/-- `num / den` in units of `10 ^ power`, as a numerator and a denominator. -/
def scaleTen (num den : Nat) (power : Int) : Nat × Nat :=
  match power with
  | .ofNat k => (num, den * Nat.pow 10 k)
  | .negSucc k => (num * Nat.pow 10 (k + 1), den)

/-- The greatest power of ten that is at most `num / den`. -/
def powerBelow (num den : Nat) : Int :=
  let bits : Int := (Nat.log2 num : Int) - Nat.log2 den
  let estimate : Int := Int.fdiv (bits * 30103) 100000
  let (a, b) := scaleTen num den (estimate + 1)
  let (c, d) := scaleTen num den estimate
  if b ≤ a then estimate + 1
  else if c < d then estimate - 1
  else estimate

namespace Magnitude

/-- Whether `n * 10 ^ power` reads back as the magnitude: it lies in the interval between the
midpoints to the neighbouring magnitudes, whose ends belong to an even significand. -/
def readsBack (x : Magnitude) (n : Nat) (power : Int) : Bool :=
  let (a, b) := scaleTen 1 1 (-power)
  let lowQuarters :=
    if x.significand == leastFull && minExponent < x.exponent then 1 else 2
  let (u, v) := (Magnitude.mk 1 (x.exponent - 2)).toRatio
  -- `10 ^ power` is `a / b` and a quarter of a unit of the significand is `u / v`
  let value := n * a * v
  let low := (4 * x.significand - lowQuarters) * u * b
  let high := (4 * x.significand + 2) * u * b
  if x.significand % 2 == 0 then low ≤ value && value ≤ high
  else low < value && value < high

/-- The neighbour of the value on the grid of `10 ^ power` that reads back and is nearest. -/
def onGrid (tie : Tie) (x : Magnitude) (power : Int) : Option Nat :=
  let (num, den) := x.toRatio
  let (a, b) := scaleTen num den power
  let below := a / b
  let twice := 2 * (a % b)
  let takeBelow :=
    if twice < b then true
    else if b < twice then false
    else match tie with
      | .toEven => below % 2 == 0
      | .upward => false
  let lowFits := x.readsBack below power
  let highFits := x.readsBack (below + 1) power
  if lowFits && (takeBelow || !highFits) then some below
  else if highFits then some (below + 1)
  else none

/-- The first hit on the grids of one digit, two digits and so on. -/
def firstGrid (tie : Tie) (x : Magnitude) (top : Int) : List Nat → Option Numeral
  | [] => none
  | k :: ks =>
    match x.onGrid tie (top - k) with
    | some n => some ⟨n, top - k⟩
    | none => x.firstGrid tie top ks

end Magnitude

/-- The decimal without trailing zeros in its digits; `fuel` bounds their number. -/
def Numeral.strip : Nat → Numeral → Numeral
  | 0, d => d
  | fuel + 1, d =>
    if d.digits != 0 && d.digits % 10 == 0 then
      Numeral.strip fuel ⟨d.digits / 10, d.power + 1⟩
    else d

/-- The shortest decimal that reads back as the magnitude, and of those the nearest. -/
def Magnitude.shortest (tie : Tie) (x : Magnitude) : Numeral :=
  if x.significand == 0 then ⟨0, 0⟩
  else
    let (num, den) := x.toRatio
    match x.firstGrid tie (powerBelow num den) (List.range 17) with
    | some d => d.strip 400
    | none => ⟨0, 0⟩

def Numeral.digitChars (d : Numeral) : List Char :=
  Nat.toDigits 10 d.digits

/-- The exponent of the first digit. -/
def Numeral.leadingPower (d : Numeral) : Int :=
  d.power + d.digitChars.length - 1

/-- The digits written out with a point where the decimal has a fraction. -/
def Numeral.positional (d : Numeral) : String :=
  let chars := d.digitChars
  match d.power with
  | .ofNat k => String.ofList (chars ++ List.replicate k '0')
  | .negSucc k =>
    let places := k + 1
    if places < chars.length then
      String.ofList
        (chars.take (chars.length - places) ++ '.' :: chars.drop (chars.length - places))
    else
      String.ofList ('0' :: '.' :: List.replicate (places - chars.length) '0' ++ chars)

end Courier.Decimal
