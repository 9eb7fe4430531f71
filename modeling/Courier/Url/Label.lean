import Courier.Text.Blank
import Courier.Url.Repertoire

/-! Labels of domain names in Unicode: which characters they may hold, and in which order. A label
does not begin with a mark, joins letters only where a script does, and runs in one direction.
-/

namespace Courier.Url.Label

open Courier.Text (isDigit)
open Courier.Url.Repertoire

/-- The ASCII characters that no name holds: control characters, blanks and the marks of addresses.
-/
def isForbidden (c : Char) : Bool :=
  c.toNat ≤ 0x20 || c.toNat == 0x7F
    || ['#', '%', '/', ':', '<', '>', '?', '@', '[', '\\', ']', '^', '|'].contains c

def isAllowed (c : Char) : Bool :=
  !isForbidden c && !within excluded c

/-- The character that keeps letters apart. -/
def nonJoiner : Char := '\u200C'

/-- The character that joins letters. -/
def joiner : Char := '\u200D'

/-- Whether letters may be joined or kept apart between what comes before and what comes next: after
a sign that takes a vowel away, or, to keep them apart, between two letters of a script that joins.
-/
def mayJoin (c : Char) (before : Option Char) (next : List Char) : Bool :=
  let isVowelKiller := before.any (within vowelKillers)
  if c == nonJoiner then
    isVowelKiller || (before.any (within rightToLeft) && next.head?.any (within rightToLeft))
  else isVowelKiller

/-- Whether every character that joins or keeps apart stands where it may. -/
def joinsWell (before : Option Char) : List Char → Bool
  | [] => true
  | c :: cs =>
    ((c != nonJoiner && c != joiner) || mayJoin c before cs) && joinsWell (some c) cs

/-- The directions of characters. -/
inductive Direction
  | left
  | right
  | number
  | rightNumber
  | mark
  | neutral
  deriving DecidableEq, Repr

/-- Whether a character is a decimal digit of the kind used with both directions. -/
def isPlainNumber (c : Char) : Bool :=
  isDigit c || ('\u06F0' ≤ c && c ≤ '\u06F9')

def direction (c : Char) : Direction :=
  if isPlainNumber c then .number
  else if c.toNat < 0x80 then
    if ('a' ≤ c && c ≤ 'z') || ('A' ≤ c && c ≤ 'Z') then .left else .neutral
  else if within marks c then .mark
  else if within rightToLeft c then .right
  else if within rightToLeftNumbers c then .rightNumber
  else if within neutrals c then .neutral
  else .left

/-- The direction at the end of a label, marks left out. -/
def lastDirection (ds : List Direction) : Option Direction :=
  (ds.filter (· != .mark)).getLast?

def runsRight (ds : List Direction) : Bool :=
  ds.head? == some .right
    && ds.all (· != .left)
    && (lastDirection ds).any (fun d => d == .right || d == .number || d == .rightNumber)
    && !(ds.contains .number && ds.contains .rightNumber)

def runsLeft (ds : List Direction) : Bool :=
  ds.head? == some .left
    && ds.all (fun d => d != .right && d != .rightNumber)
    && (lastDirection ds).any (fun d => d == .left || d == .number)

/-- Whether a label has a part that is written from right to left. -/
def hasRight (label : List Char) : Bool :=
  label.any fun c => direction c == .right || direction c == .rightNumber

def runsOneWay (label : List Char) : Bool :=
  let ds := label.map direction
  label.isEmpty || runsRight ds || runsLeft ds

def isWellFormed (label : List Char) : Bool :=
  label.all isAllowed && !label.head?.any (within marks) && joinsWell none label

end Courier.Url.Label
