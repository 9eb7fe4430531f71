import Courier.Toml.Scalar

/-! Quoted texts of TOML documents. A text stands between double quotes, with escapes, or between
single quotes, as it is; three quotes on each side let it go over several lines.
-/

namespace Courier.Toml

/-- Whether a character may stand in a text or a comment: any but the control characters, the tab
excepted. -/
def isPlain (c : Char) : Bool :=
  c == '\t' || (0x20 ≤ c.toNat && c != '\x7F')

/-- The character of a hexadecimal number, if there is one. -/
def charOf? (n : Nat) : Option Char :=
  if n < 0xD800 || (0xDFFF < n && n < 0x110000) then some (Char.ofNat n) else none

def hexDigits? (count : Nat) (cs : List Char) : Option Nat :=
  let digits := cs.take count
  if digits.length == count && digits.all (isDigitOf 16) then some (numberOf 16 digits) else none

/-- The character of an escape after its backslash, and the number of characters that it takes. -/
def escape? : List Char → Option (Char × Nat)
  | [] => none
  | c :: cs =>
    let code (count : Nat) := ((hexDigits? count cs).bind charOf?).map (·, count + 1)
    if c == 'b' then some ('\x08', 1)
    else if c == 't' then some ('\t', 1)
    else if c == 'n' then some ('\n', 1)
    else if c == 'f' then some ('\x0C', 1)
    else if c == 'r' then some ('\r', 1)
    else if c == 'e' then some ('\x1B', 1)
    else if c == '"' || c == '\\' then some (c, 1)
    else if c == 'x' then code 2
    else if c == 'u' then code 4
    else if c == 'U' then code 8
    else none

/-- A text and what follows it. -/
abbrev Quoted := List Char × List Char

def push (c : Char) (quoted : Quoted) : Quoted := (c :: quoted.1, quoted.2)

/-- A text between double quotes, after the first of them. `skip` characters belong to an escape. -/
def basic? : Nat → List Char → Option Quoted
  | _, [] => none
  | skip + 1, _ :: cs => basic? skip cs
  | 0, c :: cs =>
    if c == '"' then some ([], cs)
    else if c == '\\' then (escape? cs).bind fun (x, count) => (basic? count cs).map (push x)
    else if isPlain c then (basic? 0 cs).map (push c)
    else none

/-- A text between single quotes, after the first of them. -/
def literal? : List Char → Option Quoted
  | [] => none
  | c :: cs =>
    if c == '\x27' then some ([], cs)
    else if isPlain c then (literal? cs).map (push c)
    else none

/-- A text without the line break at its start. -/
def dropBreak : List Char → List Char
  | '\n' :: cs => cs
  | '\r' :: '\n' :: cs => cs
  | cs => cs

/-- Whether a text goes on in another line after blanks alone. -/
def foldsLine (cs : List Char) : Bool :=
  match cs.dropWhile fun c => c == ' ' || c == '\t' with
  | '\n' :: _ => true
  | '\r' :: '\n' :: _ => true
  | _ => false

/-- How a text of several lines is read: character by character, over the characters of an escape,
or over the blanks of a folded line. -/
inductive Mode
  | chars
  | escape (count : Nat)
  | fold

def quoteRun (quote : Char) (cs : List Char) : Nat :=
  (cs.takeWhile (· == quote)).length

/-- What a quote in a text of several lines does: one or two are text; three end it, with up to two
more before them as text. -/
def closes? (quote : Char) (cs : List Char) : Option (Nat × Nat) :=
  let run := min (quoteRun quote cs) 5
  if run < 3 then none else some (run - 3, run)

/-- A text of several lines between double quotes, after the first three of them. -/
def basicLines? : Mode → List Char → Option Quoted
  | _, [] => none
  | .escape (count + 1), _ :: cs => basicLines? (.escape count) cs
  | .fold, c :: cs =>
    if c == ' ' || c == '\t' || c == '\n' then basicLines? .fold cs
    else if c == '\r' then if cs.head? == some '\n' then basicLines? .fold cs else none
    else basicChar c cs
  | .chars, c :: cs => basicChar c cs
  | .escape 0, c :: cs => basicChar c cs
where
  /-- One character of the text, and what follows. -/
  basicChar (c : Char) (cs : List Char) : Option Quoted :=
    if c == '"' then
      match closes? '"' (c :: cs) with
      | some (kept, run) => some (List.replicate kept '"', cs.drop (run - 1))
      | none => (basicLines? .chars cs).map (push c)
    else if c == '\\' then
      if foldsLine cs then basicLines? .fold cs
      else (escape? cs).bind fun (x, count) => (basicLines? (.escape count) cs).map (push x)
    else if c == '\n' then (basicLines? .chars cs).map (push c)
    else if c == '\r' then if cs.head? == some '\n' then basicLines? .chars cs else none
    else if isPlain c then (basicLines? .chars cs).map (push c)
    else none

/-- A text of several lines between single quotes, after the first three of them. -/
def literalLines? : List Char → Option Quoted
  | [] => none
  | c :: cs =>
    if c == '\x27' then
      match closes? '\x27' (c :: cs) with
      | some (kept, run) => some (List.replicate kept '\x27', cs.drop (run - 1))
      | none => (literalLines? cs).map (push c)
    else if c == '\r' then if cs.head? == some '\n' then literalLines? cs else none
    else if c == '\n' || isPlain c then (literalLines? cs).map (push c)
    else none

/-- The quoted text at the start of a text that begins with a quote. -/
def quoted? : List Char → Option Quoted
  | '"' :: '"' :: '"' :: cs => basicLines? .chars (dropBreak cs)
  | '"' :: cs => basic? 0 cs
  | '\x27' :: '\x27' :: '\x27' :: cs => literalLines? (dropBreak cs)
  | '\x27' :: cs => literal? cs
  | _ => none

end Courier.Toml
