/-! Binary floating-point numbers of 64 bits as exact values: a sign, a significand below `2 ^ 53`
and a power of two. `Magnitude.ofRatio` is the nearest such magnitude to a quotient of natural
numbers, a tie going to the even significand.
-/

namespace Courier.Decimal

/-- The absolute value `significand * 2 ^ exponent`, with `significand < 2 ^ 53` and
`-1074 ≤ exponent`. -/
structure Magnitude where
  significand : Nat
  exponent : Int
  deriving DecidableEq, Repr

/-- A floating-point number. -/
inductive Binary64
  | finite (negative : Bool) (magnitude : Magnitude)
  | infinite (negative : Bool)
  | nan
  deriving DecidableEq, Repr

namespace Magnitude

/-- The least exponent of a magnitude. -/
def minExponent : Int := -1074

def maxExponent : Int := 971

/-- The least significand, `2 ^ 52`, of the magnitudes that are not close to zero; the others have
the least exponent. -/
def leastFull : Nat := 4503599627370496

def zero : Magnitude := ⟨0, minExponent⟩

/-- `num / den` in units of `2 ^ exponent`, as a numerator and a denominator. -/
def scale (num den : Nat) (exponent : Int) : Nat × Nat :=
  match exponent with
  | .ofNat k => (num, den * Nat.pow 2 k)
  | .negSucc k => (num * Nat.pow 2 (k + 1), den)

/-- The nearest natural number to a quotient, a tie going to the even one. -/
def roundHalfEven (num den : Nat) : Nat :=
  let floor := num / den
  let twice := 2 * (num % den)
  if twice < den then floor
  else if den < twice then floor + 1
  else if floor % 2 == 0 then floor else floor + 1

/-- The exponent in whose units a quotient lies between `2 ^ 52` and `2 ^ 53`, or the least one. -/
def exponentOf (num den : Nat) : Int :=
  let estimate : Int := (Nat.log2 num : Int) - Nat.log2 den - 53
  let (a, b) := scale num den estimate
  let exact := if a / b < 2 * leastFull then estimate else estimate + 1
  if exact < minExponent then minExponent else exact

/-- The nearest magnitude to `num / den`, or nothing when it is out of range. -/
def ofRatio (num den : Nat) : Option Magnitude :=
  if num == 0 then some zero
  else
    let exponent := exponentOf num den
    let (a, b) := scale num den exponent
    let rounded := roundHalfEven a b
    let result : Magnitude :=
      if rounded == 2 * leastFull then ⟨leastFull, exponent + 1⟩ else ⟨rounded, exponent⟩
    if maxExponent < result.exponent then none else some result

/-- The value as a numerator and a denominator. -/
def toRatio (x : Magnitude) : Nat × Nat :=
  match x.exponent with
  | .ofNat k => (x.significand * Nat.pow 2 k, 1)
  | .negSucc k => (x.significand, Nat.pow 2 (k + 1))

/-- The nearest magnitude to `digits * 10 ^ power`, or nothing when it is out of range. -/
def ofDecimal (digits : Nat) (power : Int) : Option Magnitude :=
  if digits == 0 then some zero
  else
    let size : Int := (Nat.log2 digits : Int)
    if 1100 < size + 3 * power ∧ 0 < power then none
    else if size + 3 * power < -1200 ∧ power < 0 then some zero
    else match power with
      | .ofNat k => ofRatio (digits * Nat.pow 10 k) 1
      | .negSucc k => ofRatio digits (Nat.pow 10 (k + 1))

def mul (x y : Magnitude) : Option Magnitude :=
  let (a, b) := x.toRatio
  let (c, d) := y.toRatio
  ofRatio (a * c) (b * d)

/-- The rounded quotient by a magnitude that is not zero. -/
def div (x y : Magnitude) : Option Magnitude :=
  let (a, b) := x.toRatio
  let (c, d) := y.toRatio
  ofRatio (a * d) (b * c)

/-- The nearest natural number, a half going up. -/
def roundHalfUp (x : Magnitude) : Nat :=
  let (a, b) := x.toRatio
  (2 * a + b) / (2 * b)

end Magnitude

namespace Binary64

/-- Whether a number differs from zero; a number that is not a number does. -/
def isNonzero : Binary64 → Bool
  | .finite _ x => x.significand != 0
  | .infinite _ => true
  | .nan => true

end Binary64

end Courier.Decimal
