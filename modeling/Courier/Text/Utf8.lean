/-! UTF-8 with replacement: any sequence of octets reads as a text in which every longest invalid
piece has become U+FFFD. Writing is the exact encoding of the characters.
-/

namespace Courier.Text.Utf8

/-- Where the reader stands between two octets: at a character's start, or inside a character
with the value so far, the octets still owed and the range of the next octet. -/
inductive State
  | start
  | inside (value : Nat) (owed : Nat) (low high : Nat)
  deriving DecidableEq, Repr

/-- The character that replaces what is not UTF-8. -/
def replacement : Char := '\uFFFD'

/-- The first octet of a character: a character, a state to go on from, or a refusal. -/
def first (b : Nat) : Except Unit (List Char × State) :=
  if b ≤ 0x7F then .ok ([Char.ofNat b], .start)
  else if 0xC2 ≤ b ∧ b ≤ 0xDF then .ok ([], .inside (b - 0xC0) 1 0x80 0xBF)
  else if b = 0xE0 then .ok ([], .inside 0 2 0xA0 0xBF)
  else if b = 0xED then .ok ([], .inside 0xD 2 0x80 0x9F)
  else if 0xE1 ≤ b ∧ b ≤ 0xEF then .ok ([], .inside (b - 0xE0) 2 0x80 0xBF)
  else if b = 0xF0 then .ok ([], .inside 0 3 0x90 0xBF)
  else if 0xF1 ≤ b ∧ b ≤ 0xF3 then .ok ([], .inside (b - 0xF0) 3 0x80 0xBF)
  else if b = 0xF4 then .ok ([], .inside 4 3 0x80 0x8F)
  else .error ()

/-- An octet at a character's start, where a refused octet is replaced. -/
def begin (b : Nat) : List Char × State :=
  match first b with
  | .ok step => step
  | .error () => ([replacement], .start)

/-- One octet: the characters it completes and the state after it. A refused octet ends the piece
before it and is read again as a first octet. -/
def step : State → Nat → List Char × State
  | .start, b => begin b
  | .inside value owed low high, b =>
    if low ≤ b ∧ b ≤ high then
      let value := value * 64 + (b - 0x80)
      if owed ≤ 1 then ([Char.ofNat value], .start)
      else ([], .inside value (owed - 1) 0x80 0xBF)
    else
      let (chars, next) := begin b
      (replacement :: chars, next)

/-- The characters of the octets from a state on; an unfinished character is replaced. -/
def readFrom : State → List UInt8 → List Char
  | .start, [] => []
  | .inside .., [] => [replacement]
  | state, b :: bs =>
    let (chars, next) := step state b.toNat
    chars ++ readFrom next bs

def read (bytes : List UInt8) : String :=
  String.ofList (readFrom .start bytes)

def write (s : String) : List UInt8 :=
  s.toUTF8.toList

/-- The text that octets encode, when they encode one. -/
def text? (bytes : List UInt8) : Option String :=
  let text := read bytes
  if write text == bytes then some text else none

/-- The octets without a byte order mark at their start. -/
def dropMark : List UInt8 → List UInt8
  | 0xEF :: 0xBB :: 0xBF :: rest => rest
  | bytes => bytes

end Courier.Text.Utf8
