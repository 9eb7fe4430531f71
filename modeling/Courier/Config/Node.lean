import Courier.Decimal.Shortest
import Courier.Text.Lower

/-! The values of a configuration tree and their conversions. A value of one kind serves where
another kind is asked for when the two agree on what it says: a number as a text, a text as a
number, a word such as `yes` as a truth value.
-/

namespace Courier.Config

open Courier.Decimal
open Courier.Text

/-- A value of a configuration tree. -/
inductive Node
  | nil
  | bool (value : Bool)
  | integer (value : Int)
  | float (value : Binary64)
  | text (value : String)
  | array (items : List Node)
  | table (entries : List (String × Node))
  deriving Repr

namespace Node

def find? (name : String) (entries : List (String × Node)) : Option Node :=
  (entries.find? (·.1 == name)).map (·.2)

/-- The words for true, in lower case. -/
def isYes (word : String) : Bool := word == "true" || word == "on" || word == "yes"

/-- The words for false, in lower case. -/
def isNo (word : String) : Bool := word == "false" || word == "off" || word == "no"

/-- The number that decimal digits spell, after an optional plus sign. -/
def naturalOfChars? (cs : List Char) : Option Nat :=
  let digits := match cs with
    | '+' :: rest => rest
    | _ => cs
  if digits.isEmpty || !digits.all isDigit then none
  else some (digits.foldl (fun n c => 10 * n + (c.toNat - 48)) 0)

/-- The greatest number that a configuration holds where a natural number is asked for. -/
def greatest : Nat := 18446744073709551615

/-- A floating-point number as the nearest natural number, a half going up; what lies outside the
range is taken to its end. -/
def naturalOfFloat : Binary64 → Nat
  | .nan => 0
  | .infinite negative => if negative then 0 else greatest
  | .finite negative x => if negative then 0 else min x.roundHalfUp greatest

/-- A value as a natural number. -/
def natural? : Node → Option Nat
  | .integer (.ofNat n) => some n
  | .float x => some (naturalOfFloat x)
  | .bool b => some (if b then 1 else 0)
  | .text s =>
    let word := lowerText s
    if isYes word then some 1
    else if isNo word then some 0
    else (naturalOfChars? s.toList).filter (· ≤ greatest)
  | .integer (.negSucc _) | .nil | .array _ | .table _ => none

/-- A value as a truth value. -/
def bool? : Node → Option Bool
  | .bool b => some b
  | .integer i => some (i != 0)
  | .float x => some x.isNonzero
  | .text s =>
    let word := lowerText s
    if isYes word || word == "1" then some true
    else if isNo word || word == "0" then some false
    else none
  | .nil | .array _ | .table _ => none

def integerText : Int → String
  | .ofNat n => String.ofList (Nat.toDigits 10 n)
  | .negSucc n => String.ofList ('-' :: Nat.toDigits 10 (n + 1))

/-- A floating-point number in its shortest digits, written out without an exponent. -/
def floatText : Binary64 → String
  | .nan => "NaN"
  | .infinite negative => if negative then "-inf" else "inf"
  | .finite negative x =>
    let text := (x.shortest .upward).positional
    if negative then "-" ++ text else text

/-- A value as a text. -/
def text? : Node → Option String
  | .text s => some s
  | .bool b => some (if b then "true" else "false")
  | .integer i => some (integerText i)
  | .float x => some (floatText x)
  | .nil | .array _ | .table _ => none

/-- The name of a choice: a text, or the name of the only entry of a table. -/
def choice? : Node → Option String
  | .text s => some s
  | .table [(name, _)] => some name
  | _ => none

end Node

end Courier.Config
