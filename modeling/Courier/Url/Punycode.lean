import Courier.Text.Blank

/-! Punycode, the ASCII form of a label that holds other characters. The characters beyond ASCII are
written in ascending order as the distances between their places, in digits of base 36 whose
thresholds adapt to the distances met before.
-/

namespace Courier.Url.Punycode

def digitChar (d : Nat) : Char :=
  Char.ofNat (if d < 26 then 97 + d else 22 + d)

/-- The value of a digit; capitals count as small letters. -/
def digitValue? (c : Char) : Option Nat :=
  if 'a' ≤ c && c ≤ 'z' then some (c.toNat - 97)
  else if 'A' ≤ c && c ≤ 'Z' then some (c.toNat - 65)
  else if '0' ≤ c && c ≤ '9' then some (c.toNat - 22)
  else none

def threshold (place bias : Nat) : Nat :=
  if place ≤ bias then 1 else if bias + 26 ≤ place then 26 else place - bias

theorem threshold_pos (place bias : Nat) : 1 ≤ threshold place bias := by
  unfold threshold
  split
  · omega
  · split <;> omega

/-- Divides a distance by 35 until it is at most 455, counting the places. -/
def settle (delta place : Nat) : Nat :=
  if 455 < delta then settle (delta / 35) (place + 36)
  else place + 36 * delta / (delta + 38)
termination_by delta
decreasing_by exact Nat.div_lt_self (by omega) (by omega)

/-- The bias after a distance, when so many characters have been written. -/
def adapt (delta written : Nat) (isFirst : Bool) : Nat :=
  let delta := if isFirst then delta / 700 else delta / 2
  settle (delta + delta / written) 0

def encodeDistance (bias place distance : Nat) : List Char :=
  let t := threshold place bias
  if distance < t then [digitChar distance]
  else
    digitChar (t + (distance - t) % (36 - t))
      :: encodeDistance bias (place + 36) ((distance - t) / (36 - t))
termination_by distance
decreasing_by
  have := threshold_pos place bias
  exact Nat.lt_of_le_of_lt (Nat.div_le_self _ _) (by omega)

/-- The writer's state: the digits so far, the distance, the bias and the characters written. -/
structure Writer where
  out : List Char
  distance : Nat
  bias : Nat
  written : Nat

/-- Passes one character of the label, writing it when it is the one looked for. -/
def Writer.pass (plain target : Nat) (w : Writer) (c : Char) : Writer :=
  if c.toNat < target then { w with distance := w.distance + 1 }
  else if c.toNat == target then
    { out := w.out ++ encodeDistance w.bias 36 w.distance
      distance := 0
      bias := adapt w.distance (w.written + 1) (w.written == plain)
      written := w.written + 1 }
  else w

/-- Writes the characters of ascending numbers, from a number on. -/
def Writer.run (label : List Char) (plain : Nat) : List Nat → Nat → Writer → Writer
  | [], _, w => w
  | target :: targets, start, w =>
    let w := { w with distance := w.distance + (target - start) * (w.written + 1) }
    let w := label.foldl (Writer.pass plain target) w
    Writer.run label plain targets (target + 1) { w with distance := w.distance + 1 }

/-- Puts a number into an ascending list, once. -/
def insertAscending (n : Nat) : List Nat → List Nat
  | [] => [n]
  | m :: ms => if n < m then n :: m :: ms else if n == m then m :: ms else m :: insertAscending n ms

/-- The ASCII form of a label, without the mark before it. -/
def encode (label : List Char) : List Char :=
  let plain := label.filter (·.toNat < 0x80)
  let targets := (label.filter (0x80 ≤ ·.toNat)).foldl (fun ns c => insertAscending c.toNat ns) []
  let w := Writer.run label plain.length targets 0x80 ⟨[], 0, 72, plain.length⟩
  plain ++ (if plain.isEmpty then [] else ['-']) ++ w.out

/-- Reads the digits of a distance: the distance added to a number, and the rest. -/
def decodeDistance (bias : Nat) : List Char → Nat → Nat → Nat → Option (Nat × List Char)
  | [], _, _, _ => none
  | c :: cs, place, weight, sum =>
    match digitValue? c with
    | none => none
    | some d =>
      let sum := sum + d * weight
      let t := threshold place bias
      if 4294967296 ≤ sum then none
      else if d < t then some (sum, cs)
      else decodeDistance bias cs (place + 36) (weight * (36 - t)) sum

/-- Puts characters into a label, one for each distance; `fuel` bounds their number. -/
def decodeFrom : Nat → List Char → Nat → Nat → Nat → List Char → Option (List Char)
  | 0, _, _, _, _, _ => none
  | _, [], _, _, _, label => some label
  | fuel + 1, cs, number, place, bias, label =>
    match decodeDistance bias cs 36 1 place with
    | none => none
    | some (reached, rest) =>
      let count := label.length + 1
      let number := number + reached / count
      let index := reached % count
      if number < 0xD800 || (0xDFFF < number && number < 0x110000) then
        let label := label.take index ++ Char.ofNat number :: label.drop index
        decodeFrom fuel rest number (index + 1) (adapt (reached - place) count (place == 0)) label
      else none

/-- The characters before the last hyphen, and those after it. -/
def splitLast (cs : List Char) : List Char × List Char :=
  let tail := (cs.reverse.takeWhile (· != '-')).reverse
  (cs.take (cs.length - tail.length - 1), tail)

def decode? (cs : List Char) : Option (List Char) :=
  let (plain, digits) := splitLast cs
  if plain.any (0x80 ≤ ·.toNat) then none
  else decodeFrom (cs.length + 1) digits 0x80 0 72 plain

end Courier.Url.Punycode
