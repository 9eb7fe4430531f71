import Courier.Url.Domain

/-! Hosts of addresses: names, the numbers of the two internet protocols, and, outside the web, any
text without marks. A name that ends in a number must be a number of four parts at most.
-/

namespace Courier.Url

open Courier.Text

/-- A host. -/
inductive Host
  | name (text : String)
  | four (number : Nat)
  | six (pieces : List Nat)
  | plain (text : String)
  deriving DecidableEq, Repr

namespace Host

/-- The value of digits of a base, when each is one. -/
def digits? (base : Nat) : List Char → Nat → Option Nat
  | [], n => some n
  | c :: cs, n =>
    match Percent.hexValue? c with
    | some d => if d < base then digits? base cs (base * n + d) else none
    | none => none

/-- A part of a number: decimal, octal after a zero, or hexadecimal after `0x`. -/
def part? : List Char → Option Nat
  | [] => none
  | '0' :: x :: cs =>
    if x == 'x' || x == 'X' then digits? 16 cs 0 else digits? 8 (x :: cs) 0
  | cs => digits? 10 cs 0

/-- The parts without an empty one at the end. -/
def dropEmptyEnd (parts : List (List Char)) : List (List Char) :=
  match parts.getLast? with
  | some [] => parts.dropLast
  | _ => parts

/-- A name ends in a number when its last part is digits or a hexadecimal number. -/
def endsInNumber (name : List Char) : Bool :=
  match (dropEmptyEnd (splitOn '.' name)).getLast? with
  | none => false
  | some last => (!last.isEmpty && last.all isDigit) || (part? last).isSome

/-- The number of the parts, of which all but the last are octets and the last fills the rest. -/
def combine : List Nat → Nat → Nat → Option Nat
  | [], _, _ => none
  | [n], room, sum => if n < Nat.pow 256 room then some (sum * Nat.pow 256 room + n) else none
  | n :: ns, room, sum => if n < 256 then combine ns (room - 1) (sum * 256 + n) else none

/-- The number that a name ending in a number stands for. -/
def four? (name : List Char) : Option Nat :=
  let parts := dropEmptyEnd (splitOn '.' name)
  if 4 < parts.length then none
  else (parts.mapM part?).bind fun ns => combine ns 4 0

/-- An octet in decimal digits without a leading zero. -/
def octet? (cs : List Char) : Option Nat :=
  match cs with
  | [] => none
  | ['0'] => some 0
  | '0' :: _ => none
  | _ => (digits? 10 cs 0).bind fun n => if n < 256 then some n else none

/-- The two pieces that four octets between dots make. -/
def dotted? (cs : List Char) : Option (List Nat) :=
  match (splitOn '.' cs).mapM octet? with
  | some [a, b, c, d] => some [256 * a + b, 256 * c + d]
  | _ => none

def piece? (cs : List Char) : Option Nat :=
  if cs.isEmpty || 4 < cs.length then none else digits? 16 cs 0

/-- The pieces of groups between colons; the last group may be dotted when it ends the address. -/
def pieces? (mayDot : Bool) : List (List Char) → Option (List Nat)
  | [] => some []
  | [group] =>
    if mayDot && group.contains '.' then dotted? group else (piece? group).map ([·])
  | group :: groups =>
    match piece? group, pieces? mayDot groups with
    | some n, some ns => some (n :: ns)
    | _, _ => none

/-- The pieces of a text between colons; an empty text has none. -/
def side? (mayDot : Bool) (cs : List Char) : Option (List Nat) :=
  if cs.isEmpty then some [] else pieces? mayDot (splitOn ':' cs)

/-- The text before the first double colon and the text after it, if there is one. -/
def splitGap : List Char → Option (List Char × List Char)
  | [] => none
  | ':' :: ':' :: rest => some ([], rest)
  | c :: rest => (splitGap rest).map fun (before, after) => (c :: before, after)

/-- The eight pieces of an address between brackets; a double colon stands for one or more zeros. -/
def six? (cs : List Char) : Option (List Nat) :=
  match splitGap cs with
  | none => (side? true cs).bind fun ns => if ns.length == 8 then some ns else none
  | some (before, after) =>
    match side? false before, side? true after with
    | some xs, some ys =>
      if xs.length + ys.length ≤ 7 then
        some (xs ++ List.replicate (8 - xs.length - ys.length) 0 ++ ys)
      else none
    | _, _ => none

def bracketed? (cs : List Char) : Option Host :=
  match cs.getLast? with
  | some ']' => (six? cs.dropLast).map .six
  | _ => none

def parse? (cs : List Char) : Option Host :=
  match cs with
  | '[' :: rest => bracketed? rest
  | _ =>
    match Domain.ascii? (Utf8.read (Percent.decode cs)).toList with
    | none => none
    | some [] => none
    | some domain =>
      if endsInNumber domain then (four? domain).map .four
      else some (.name (String.ofList domain))

/-- The marks that no host holds. -/
def isMark (c : Char) : Bool :=
  ['\x00', '\t', '\n', '\r', ' ', '#', '/', ':', '<', '>', '?', '@', '[', '\\', ']', '^',
    '|'].contains c

/-- The host of an address outside the web, which is kept as it is spelled. -/
def parsePlain? (cs : List Char) : Option Host :=
  match cs with
  | '[' :: rest => bracketed? rest
  | _ =>
    if cs.any isMark then none
    else some (.plain (String.ofList (Percent.encode Percent.isControl cs)))

/-- What is said of a text that is no host of the web: where its reading ends. -/
def fault (cs : List Char) : String :=
  match cs with
  | '[' :: _ => "invalid IPv6 address"
  | _ =>
    match Domain.ascii? (Utf8.read (Percent.decode cs)).toList with
    | none => "invalid international domain name"
    | some [] => "empty host"
    | some _ => "invalid IPv4 address"

/-- What is said of a text that is no host outside the web. -/
def plainFault (cs : List Char) : String :=
  if cs.head? == some '[' then "invalid IPv6 address" else "invalid domain character"

/-- The longest run of zeros among pieces, as its start and length; the first of equal runs. -/
def longestZeros (pieces : List Nat) : Nat × Nat :=
  let runs := (List.range pieces.length).map fun i =>
    (i, ((pieces.drop i).takeWhile (· == 0)).length)
  runs.foldl (fun best run => if best.2 < run.2 then run else best) (0, 0)

def joinPieces : List Nat → List Char
  | [] => []
  | [n] => Nat.toDigits 16 n
  | n :: ns => Nat.toDigits 16 n ++ ':' :: joinPieces ns

/-- The text of eight pieces, with a double colon for the longest run of two or more zeros. -/
def sixChars (pieces : List Nat) : List Char :=
  let (start, length) := longestZeros pieces
  if length < 2 then joinPieces pieces
  else joinPieces (pieces.take start) ++ ':' :: ':' :: joinPieces (pieces.drop (start + length))

def chars : Host → List Char
  | name text => text.toList
  | plain text => text.toList
  | four n =>
    Nat.toDigits 10 (n / 16777216) ++ '.' :: Nat.toDigits 10 (n / 65536 % 256)
      ++ '.' :: Nat.toDigits 10 (n / 256 % 256) ++ '.' :: Nat.toDigits 10 (n % 256)
  | six pieces => '[' :: (sixChars pieces ++ [']'])

end Host

end Courier.Url
