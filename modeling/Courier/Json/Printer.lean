import Courier.Json.Basic

/-! The two written forms of a JSON value: compact, and indented by two spaces a level. Both write
strings with the short escapes and `\u00xx` for the other control characters.
-/

namespace Courier.Json

open Courier.Decimal

def hexDigit (n : Nat) : Char :=
  Char.ofNat (if n < 10 then 48 + n else 87 + n)

/-- One character of a string as it is written. -/
def escape (c : Char) : List Char :=
  if c == '"' then ['\\', '"']
  else if c == '\\' then ['\\', '\\']
  else if c == '\x08' then ['\\', 'b']
  else if c == '\x0C' then ['\\', 'f']
  else if c == '\n' then ['\\', 'n']
  else if c == '\r' then ['\\', 'r']
  else if c == '\t' then ['\\', 't']
  else if c.toNat < 0x20 then
    ['\\', 'u', '0', '0', hexDigit (c.toNat / 16), hexDigit (c.toNat % 16)]
  else [c]

def quoteChars (s : List Char) : List Char :=
  '"' :: (s.flatMap escape ++ ['"'])

def integerChars : Int → List Char
  | .ofNat n => Nat.toDigits 10 n
  | .negSucc n => '-' :: Nat.toDigits 10 (n + 1)

/-- A magnitude in its shortest digits: positional between `1e-5` and `1e16`, with `.0` where there
is no fraction, and with a signed exponent elsewhere. -/
def magnitudeChars (x : Magnitude) : List Char :=
  let d := x.shortest .toEven
  let top := d.leadingPower
  if d.digits == 0 then ['0', '.', '0']
  else if -5 ≤ top && top < 16 then
    match d.power with
    | .ofNat _ => d.positional.toList ++ ['.', '0']
    | .negSucc _ => d.positional.toList
  else
    let exponent := (if 0 ≤ top then ['+'] else ['-']) ++ Nat.toDigits 10 top.natAbs
    match d.digitChars with
    | [] => []
    | [c] => c :: 'e' :: exponent
    | c :: cs => c :: '.' :: cs ++ 'e' :: exponent

/-- A number as it is written. -/
def Number.chars : Number → List Char
  | .integer i => integerChars i
  | .float negative x => (if negative then ['-'] else []) ++ magnitudeChars x

mutual

def compactChars : Json → List Char
  | .null => "null".toList
  | .bool true => "true".toList
  | .bool false => "false".toList
  | .number n => n.chars
  | .string s => quoteChars s.toList
  | .array [] => ['[', ']']
  | .array (x :: xs) => '[' :: (compactChars x ++ compactItems xs)
  | .object [] => ['{', '}']
  | .object ((name, x) :: ms) =>
    '{' :: (quoteChars name.toList ++ ':' :: (compactChars x ++ compactMembers ms))

/-- The items after the first, and the closing bracket. -/
def compactItems : List Json → List Char
  | [] => [']']
  | x :: xs => ',' :: (compactChars x ++ compactItems xs)

/-- The members after the first, and the closing brace. -/
def compactMembers : List (String × Json) → List Char
  | [] => ['}']
  | (name, x) :: ms =>
    ',' :: (quoteChars name.toList ++ ':' :: (compactChars x ++ compactMembers ms))

end

def newLine (level : Nat) : List Char :=
  '\n' :: List.replicate (2 * level) ' '

mutual

/-- The indented form of a value that stands at a level. -/
def prettyChars (level : Nat) : Json → List Char
  | .null => "null".toList
  | .bool true => "true".toList
  | .bool false => "false".toList
  | .number n => n.chars
  | .string s => quoteChars s.toList
  | .array [] => ['[', ']']
  | .array (x :: xs) =>
    '[' :: (newLine (level + 1) ++ (prettyChars (level + 1) x ++ prettyItems level xs))
  | .object [] => ['{', '}']
  | .object ((name, x) :: ms) =>
    '{' :: (newLine (level + 1)
      ++ (quoteChars name.toList ++ ':' :: ' ' :: (prettyChars (level + 1) x
        ++ prettyMembers level ms)))

/-- The items after the first, each on its line, and the closing bracket on the last. -/
def prettyItems (level : Nat) : List Json → List Char
  | [] => newLine level ++ [']']
  | x :: xs => ',' :: (newLine (level + 1) ++ (prettyChars (level + 1) x ++ prettyItems level xs))

/-- The members after the first, each on its line, and the closing brace on the last. -/
def prettyMembers (level : Nat) : List (String × Json) → List Char
  | [] => newLine level ++ ['}']
  | (name, x) :: ms =>
    ',' :: (newLine (level + 1)
      ++ (quoteChars name.toList ++ ':' :: ' ' :: (prettyChars (level + 1) x
        ++ prettyMembers level ms)))

end

def compact (j : Json) : String :=
  String.ofList j.compactChars

def pretty (j : Json) : String :=
  String.ofList (j.prettyChars 0)

end Courier.Json
