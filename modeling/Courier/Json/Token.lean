import Courier.Json.Literal

/-! The tokens of a JSON text. Each token is known by its first character; a token that goes wrong
later carries its fault and ends the list, so that a reader decides which fault comes first.
-/

namespace Courier.Json

/-- The words of the language. -/
inductive Word
  | null
  | true
  | false
  deriving DecidableEq, Repr

/-- A token. A string has two readings: its text, and whether it can be skipped, which asks less of
its escapes. -/
inductive Token
  | beginArray
  | endArray
  | beginObject
  | endObject
  | comma
  | colon
  | word (word : Word) (fault : Option Fault)
  | number (literal : Literal)
  | string (text : Except Fault String) (skipFault : Option Fault)
  | other
  deriving Repr

namespace Token

def isSpace (c : Char) : Bool :=
  c == ' ' || c == '\n' || c == '\t' || c == '\r'

def hexValue? (c : Char) : Option Nat :=
  if '0' ≤ c && c ≤ '9' then some (c.toNat - 48)
  else if 'a' ≤ c && c ≤ 'f' then some (c.toNat - 87)
  else if 'A' ≤ c && c ≤ 'F' then some (c.toNat - 55)
  else none

def hexFour? (a b c d : Char) : Option Nat := do
  let a ← hexValue? a
  let b ← hexValue? b
  let c ← hexValue? c
  let d ← hexValue? d
  return ((a * 16 + b) * 16 + c) * 16 + d

/-- The fault of an escape without four hexadecimal digits: the text has ended when fewer than four
octets are left. -/
def hexFault (rest : List Char) : Fault :=
  if (String.ofList rest).utf8ByteSize < 4 then .unfinished else .malformed

def shortEscape? (c : Char) : Option Char :=
  if c == '"' || c == '\\' || c == '/' then some c
  else if c == 'b' then some '\x08'
  else if c == 'f' then some '\x0C'
  else if c == 'n' then some '\n'
  else if c == 'r' then some '\r'
  else if c == 't' then some '\t'
  else none

/-- Skips a string after its opening quote; escapes need four digits and no more. -/
def skipString : List Char → Except Fault (List Char)
  | [] => .error .unfinished
  | ['\\'] => .error .unfinished
  | '\\' :: 'u' :: a :: b :: c :: d :: rest =>
    match hexFour? a b c d with
    | some _ => skipString rest
    | none => .error (hexFault (a :: b :: c :: d :: rest))
  | '\\' :: 'u' :: rest => .error (hexFault rest)
  | '\\' :: c :: rest =>
    match shortEscape? c with
    | some _ => skipString rest
    | none => .error .malformed
  | c :: rest =>
    if c == '"' then .ok rest
    else if c.toNat < 0x20 then .error .malformed
    else skipString rest

/-- A leading surrogate, the first half of a pair of escapes. -/
def isLeading (n : Nat) : Bool := 0xD800 ≤ n && n ≤ 0xDBFF

/-- A trailing surrogate, the second half of a pair of escapes. -/
def isTrailing (n : Nat) : Bool := 0xDC00 ≤ n && n ≤ 0xDFFF

/-- The fault of what follows a leading surrogate when it is not an escape. -/
def pairFault : List Char → Fault
  | [] => .unfinished
  | ['\\'] => .unfinished
  | '\\' :: 'u' :: rest => hexFault rest
  | _ => .malformed

/-- The characters of a string after its opening quote; surrogates come in pairs. -/
def stringChars : List Char → Except Fault (List Char)
  | [] => .error .unfinished
  | ['\\'] => .error .unfinished
  | '\\' :: 'u' :: a :: b :: c :: d :: '\\' :: 'u' :: e :: f :: g :: h :: rest =>
    match hexFour? a b c d with
    | none => .error (hexFault (a :: b :: c :: d :: rest))
    | some n =>
      if isTrailing n then .error .malformed
      else if isLeading n then
        match hexFour? e f g h with
        | none => .error (hexFault (e :: f :: g :: h :: rest))
        | some m =>
          if isTrailing m then
            (stringChars rest).map
              (Char.ofNat ((n - 0xD800) * 1024 + (m - 0xDC00) + 0x10000) :: ·)
          else .error .malformed
      else (stringChars ('\\' :: 'u' :: e :: f :: g :: h :: rest)).map (Char.ofNat n :: ·)
  | '\\' :: 'u' :: a :: b :: c :: d :: rest =>
    match hexFour? a b c d with
    | none => .error (hexFault (a :: b :: c :: d :: rest))
    | some n =>
      if isTrailing n then .error .malformed
      else if isLeading n then .error (pairFault rest)
      else (stringChars rest).map (Char.ofNat n :: ·)
  | '\\' :: 'u' :: rest => .error (hexFault rest)
  | '\\' :: c :: rest =>
    match shortEscape? c with
    | some x => (stringChars rest).map (x :: ·)
    | none => .error .malformed
  | c :: rest =>
    if c == '"' then .ok []
    else if c.toNat < 0x20 then .error .malformed
    else (stringChars rest).map (c :: ·)

/-- The rest of a text after the letters of a word. -/
def afterWord : List Char → List Char → Except Fault (List Char)
  | [], cs => .ok cs
  | _ :: _, [] => .error .unfinished
  | l :: ls, c :: cs => if l == c then afterWord ls cs else .error .malformed

/-- The token of a word, of which the first letter is read already, and the text after it. -/
def nextWord (word : Word) (letters cs : List Char) : Token × List Char :=
  match afterWord letters cs with
  | .ok rest => (.word word none, rest)
  | .error fault => (.word word (some fault), [])

/-- The token of a string after its opening quote, and the text after it. -/
def nextString (cs : List Char) : Token × List Char :=
  let text := (stringChars cs).map String.ofList
  match skipString cs with
  | .ok rest => (.string text none, rest)
  | .error fault => (.string text (some fault), [])

/-- The token of a number, and the text after it. -/
def nextNumber (cs : List Char) : Token × List Char :=
  let (literal, rest) := Literal.scan cs
  (.number literal, if literal.isBroken then [] else rest)

/-- The token at the start of a text that does not begin with a space, and the text after it;
nothing follows a token that has a fault. -/
def next (c : Char) (cs : List Char) : Token × List Char :=
  if c == '[' then (.beginArray, cs)
  else if c == ']' then (.endArray, cs)
  else if c == '{' then (.beginObject, cs)
  else if c == '}' then (.endObject, cs)
  else if c == ',' then (.comma, cs)
  else if c == ':' then (.colon, cs)
  else if c == 'n' then nextWord .null ['u', 'l', 'l'] cs
  else if c == 't' then nextWord .true ['r', 'u', 'e'] cs
  else if c == 'f' then nextWord .false ['a', 'l', 's', 'e'] cs
  else if c == '"' then nextString cs
  else if c == '-' || Text.isDigit c then nextNumber (c :: cs)
  else (.other, [])

/-- The tokens of a text of at most `fuel` characters. -/
def ofCharsWithin : Nat → List Char → List Token
  | 0, _ => []
  | _, [] => []
  | fuel + 1, c :: cs =>
    if isSpace c then ofCharsWithin fuel cs
    else
      let (token, rest) := next c cs
      token :: ofCharsWithin fuel rest

def ofChars (cs : List Char) : List Token :=
  ofCharsWithin cs.length cs

def mismatch : Token → Fault
  | .beginArray | .beginObject => .mismatch
  | .word _ fault => fault.getD .mismatch
  | .number literal =>
    match literal.toNumber with
    | .ok _ => .mismatch
    | .error fault => fault
  | .string (.ok _) _ => .mismatch
  | .string (.error fault) _ => fault
  | .endArray | .endObject | .comma | .colon | .other => .malformed

end Token

end Courier.Json
