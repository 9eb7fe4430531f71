import Courier.Decimal.Shortest

/-! JSON values. An object is the list of its members in order; `Json.ofMembers` keeps them sorted
by name with the last of equal names, which is the form in which received documents are held.
-/

namespace Courier

open Courier.Decimal

/-- The number of values of 64 bits, `2 ^ 64`. -/
def Json.wordLimit : Nat := 18446744073709551616

/-- A JSON number: an integer between `-2 ^ 63` and `2 ^ 64 - 1`, or a floating-point number. -/
inductive Json.Number
  | integer (value : Int)
  | float (negative : Bool) (magnitude : Magnitude)
  deriving DecidableEq, Repr

/-- A JSON value. -/
inductive Json
  | null
  | bool (value : Bool)
  | number (value : Json.Number)
  | string (value : String)
  | array (items : List Json)
  | object (members : List (String × Json))
  deriving Repr

namespace Json

def nat (n : Nat) : Json := .number (.integer n)

/-- Puts a member into a sorted list, in place of one with the same name. -/
def insertMember (name : String) (value : Json) : List (String × Json) → List (String × Json)
  | [] => [(name, value)]
  | (n, v) :: rest =>
    if name == n then (name, value) :: rest
    else if name < n then (name, value) :: (n, v) :: rest
    else (n, v) :: insertMember name value rest

/-- The members sorted by name, the last of equal names. -/
def sortMembers (members : List (String × Json)) : List (String × Json) :=
  members.foldl (fun sorted m => insertMember m.1 m.2 sorted) []

/-- The object of the members, sorted by name. -/
def ofMembers (members : List (String × Json)) : Json :=
  .object (sortMembers members)

def get? (name : String) : Json → Option Json
  | .object members => (members.find? (·.1 == name)).map (·.2)
  | _ => none

/-- A member with another value, if it has the name. -/
def replaceMember (name : String) (value : Json) (member : String × Json) : String × Json :=
  if member.1 == name then (member.1, value) else member

/-- The object with another value for the member of a name, if it has one. -/
def replace : Json → String → Json → Json
  | .object members, name, value => .object (members.map (replaceMember name value))
  | j, _, _ => j

def isTrue : Json → Bool
  | .bool b => b
  | _ => false

end Json

end Courier
