import Courier.Toml.Document
import Courier.Toml.Quoted

/-! Reading TOML documents. A document is a list of statements, one a line: headers, which name the
table that follows, and keys with values. `Toml.parse?` gives the entries of its root table.
-/

namespace Courier.Toml

open Courier.Config (Node)
open Courier.Text (isDigit)

def isGap (c : Char) : Bool := c == ' ' || c == '\t'

/-- The text without its leading blanks. -/
def skipGap (cs : List Char) : List Char := cs.dropWhile isGap

/-- The text after blanks, line breaks and comments. -/
def skipLines (inComment : Bool) : List Char → Option (List Char)
  | [] => some []
  | '\n' :: cs => skipLines false cs
  | '\r' :: '\n' :: cs => skipLines false cs
  | c :: cs =>
    if inComment then if isPlain c then skipLines true cs else none
    else if isGap c then skipLines false cs
    else if c == '#' then skipLines true cs
    else some (c :: cs)

/-- The text after the end of a line, which may have a comment. -/
def endLine? (cs : List Char) : Option (List Char) :=
  let rest := match skipGap cs with
    | '#' :: cs => cs.dropWhile isPlain
    | cs => cs
  match rest with
  | [] => some []
  | '\n' :: cs => some cs
  | '\r' :: '\n' :: cs => some cs
  | _ => none

/-- Whether a character may stand in a key without quotes. -/
def isKeyChar (c : Char) : Bool :=
  ('a' ≤ c && c ≤ 'z') || ('A' ≤ c && c ≤ 'Z') || isDigit c || c == '_' || c == '-'

/-- One part of a key, and the rest. -/
def keyPart? (cs : List Char) : Option (String × List Char) :=
  match cs with
  | '"' :: cs => (basic? 0 cs).map fun (key, rest) => (String.ofList key, rest)
  | '\x27' :: cs => (literal? cs).map fun (key, rest) => (String.ofList key, rest)
  | _ =>
    match cs.span isKeyChar with
    | ([], _) => none
    | (key, rest) => some (String.ofList key, rest)

/-- A dotted key and the rest; `fuel` bounds its parts. -/
def key? : Nat → List Char → Option (List String × List Char)
  | 0, _ => none
  | fuel + 1, cs =>
    match keyPart? (skipGap cs) with
    | none => none
    | some (part, rest) =>
      match skipGap rest with
      | '.' :: rest => (key? fuel rest).map fun (parts, rest) => (part :: parts, rest)
      | rest => some ([part], rest)

/-- Whether a character may stand in a scalar without quotes. -/
def isScalarChar (c : Char) : Bool :=
  isKeyChar c || c == '+' || c == '.' || c == ':'

/-- The spelling of a scalar and the rest. A date and a time may have one blank between them. -/
def scalarChars (cs : List Char) : List Char × List Char :=
  let (spelling, rest) := cs.span isScalarChar
  match date? spelling, rest with
  | some (_, []), ' ' :: c :: more =>
    if isDigit c then
      let (time, rest) := (c :: more).span isScalarChar
      (spelling ++ ' ' :: time, rest)
    else (spelling, rest)
  | _, _ => (spelling, rest)

/-- The levels of arrays and tables that a value may have. -/
def depthLimit : Nat := 80

mutual

/-- A value of so many levels at most and the rest; `fuel` bounds its parts. -/
def value? (levels : Nat) : Nat → List Char → Option (Node × List Char)
  | 0, _ => none
  | _, [] => none
  | fuel + 1, c :: cs =>
    if c == '"' || c == '\x27' then
      (quoted? (c :: cs)).map fun (text, rest) => (.text (String.ofList text), rest)
    else if c == '[' then
      if levels == 0 then none
      else (items? (levels - 1) fuel cs []).map fun (items, rest) => (.array items, rest)
    else if c == '{' then
      if levels == 0 then none
      else
        (members? (levels - 1) fuel cs []).map fun (entries, rest) =>
          (.table (entriesToNodes entries), rest)
    else
      let (spelling, rest) := scalarChars (c :: cs)
      (scalar? spelling).map (·, rest)

/-- The items of an array after its opening bracket or a comma. -/
def items? (levels : Nat) : Nat → List Char → List Node → Option (List Node × List Char)
  | 0, _, _ => none
  | fuel + 1, cs, items =>
    match skipLines false cs with
    | some (']' :: rest) => some (items.reverse, rest)
    | some cs =>
      match value? levels fuel cs with
      | none => none
      | some (item, rest) =>
        match skipLines false rest with
        | some (']' :: rest) => some ((item :: items).reverse, rest)
        | some (',' :: rest) => items? levels fuel rest (item :: items)
        | _ => none
    | none => none

/-- The members of a table after its opening brace or a comma. -/
def members? (levels : Nat) : Nat → List Char → Entries → Option (Entries × List Char)
  | 0, _, _ => none
  | fuel + 1, cs, entries =>
    match skipLines false cs with
    | some ('}' :: rest) => some (entries, rest)
    | some cs =>
      match key? cs.length cs with
      | some (key, '=' :: rest) =>
        match value? levels fuel (skipGap rest) with
        | none => none
        | some (node, rest) =>
          match entries.insert node key, skipLines false rest with
          | some entries, some ('}' :: rest) => some (entries, rest)
          | some entries, some (',' :: rest) => members? levels fuel rest entries
          | _, _ => none
      | _ => none
    | none => none

end

/-- The text after a mark. -/
def afterMark? (mark : List Char) (cs : List Char) : Option (List Char) :=
  if mark.isPrefixOf cs then some (cs.drop mark.length) else none

/-- The statements of a document put into its root table; `place` is the path of the table that keys
belong to, and `fuel` bounds the statements. -/
def statements? : Nat → List String → Entries → List Char → Option Entries
  | 0, _, _, _ => none
  | fuel + 1, place, root, cs =>
    match skipLines false cs with
    | none => none
    | some [] => some root
    | some ('[' :: '[' :: cs) => do
      let (path, cs) ← key? cs.length cs
      let cs ← afterMark? [']', ']'] cs
      let cs ← endLine? cs
      let root ← Entries.modify (Entries.extend (path.getLastD "")) path.dropLast root
      statements? fuel path root cs
    | some ('[' :: cs) => do
      let (path, cs) ← key? cs.length cs
      let cs ← afterMark? [']'] cs
      let cs ← endLine? cs
      let root ← Entries.modify (Entries.define (path.getLastD "")) path.dropLast root
      statements? fuel path root cs
    | some cs => do
      let (key, cs) ← key? cs.length cs
      let cs ← afterMark? ['='] cs
      let (node, cs) ← value? depthLimit (2 * cs.length + 2) (skipGap cs)
      let cs ← endLine? cs
      let root ← Entries.modify (Entries.insert node key) place root
      statements? fuel place root cs

def parse? (text : String) : Option (List (String × Node)) :=
  (statements? (text.length + 1) [] [] text.toList).map entriesToNodes

end Courier.Toml
