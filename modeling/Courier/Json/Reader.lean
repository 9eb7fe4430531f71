import Courier.Json.Value

/-! Readers of typed values from tokens. A reader takes a value from the front of a token list and
reports the first fault from left to right. A record may be written as an object, whose members come
in any order, or as the array of its fields.
-/

namespace Courier.Json

abbrev Reader (α : Type) := List Token → Except Fault (α × List Token)

namespace Reader

/-- The reader that passes a value on through a function. -/
def map (f : α → β) (r : Reader α) : Reader β := fun ts =>
  (r ts).map fun (a, rest) => (f a, rest)

def string : Reader String
  | [] => .error .unfinished
  | .string (.ok s) _ :: ts => .ok (s, ts)
  | t :: _ => .error t.mismatch

def bool : Reader Bool
  | [] => .error .unfinished
  | .word .true none :: ts => .ok (true, ts)
  | .word .false none :: ts => .ok (false, ts)
  | t :: _ => .error t.mismatch

def natural (bound : Nat) : Reader Nat
  | [] => .error .unfinished
  | .number literal :: ts =>
    match literal.toNumber with
    | .ok (.integer (.ofNat n)) => if n < bound then .ok (n, ts) else .error .mismatch
    | .ok _ => .error .mismatch
    | .error fault => .error fault
  | t :: _ => .error t.mismatch

/-- A value or null. -/
def optional (r : Reader α) : Reader (Option α)
  | .word .null none :: ts => .ok (none, ts)
  | .word .null (some fault) :: _ => .error fault
  | ts => (r ts).map fun (a, rest) => (some a, rest)

def null : Reader Unit
  | [] => .error .unfinished
  | .word .null none :: ts => .ok ((), ts)
  | t :: _ => .error t.mismatch

/-- Any value, inside a number of containers that are counted. -/
def value (outside : Nat) : Reader Json :=
  readValue (depthLimit - outside) [] .value

/-- A value that is left out. -/
def skip (ts : List Token) : Except Fault (List Token) :=
  skipValue [] .value ts

/-- One token that must come next. -/
def expect (isExpected : Token → Bool) (ts : List Token) : Except Fault (List Token) :=
  match ts with
  | [] => .error .unfinished
  | t :: ts => if isExpected t then .ok ts else .error .malformed

def isColon : Token → Bool
  | .colon => true
  | _ => false

def isComma : Token → Bool
  | .comma => true
  | _ => false

def isEndObject : Token → Bool
  | .endObject => true
  | _ => false

def isEndArray : Token → Bool
  | .endArray => true
  | _ => false

/-- The choice that a name stands for. -/
def named (choose : String → Option α) (name : String) : Except Fault α :=
  match choose name with
  | some a => .ok a
  | none => .error .mismatch

/-- A choice by name: the name as a string, or an object of that name alone with the value null. -/
def choice (choose : String → Option α) : Reader α
  | [] => .error .unfinished
  | .beginObject :: ts => do
    let (name, ts) ← string ts
    let a ← named choose name
    let ts ← expect isColon ts
    let ((), ts) ← null ts
    let ts ← expect isEndObject ts
    return (a, ts)
  | .string text skipFault :: ts => do
    let (name, ts) ← string (.string text skipFault :: ts)
    let a ← named choose name
    return (a, ts)
  | _ => .error .malformed

/-- A field of a record of type `σ`: its name, and a reader that takes the record to the record with
the field's value. -/
structure Field (σ : Type) where
  name : String
  read : σ → Reader σ

def Field.find? (fields : List (Field σ)) (name : String) : Option (Field σ) :=
  fields.find? (·.name == name)

/-- What a record has received: its value so far, and the names of the fields that had a value. -/
structure Filled (σ : Type) where
  value : σ
  seen : List String

/-- The member of a name, from its colon on. A field may not have two values, and a name that is no
field is skipped. -/
def member (fields : List (Field σ)) (name : String) (filled : Filled σ) : Reader (Filled σ) :=
  fun ts =>
    match Field.find? fields name with
    | some field =>
      if filled.seen.contains name then .error .mismatch
      else do
        let ts ← expect isColon ts
        let (s, ts) ← field.read filled.value ts
        return (⟨s, name :: filled.seen⟩, ts)
    | none => do
      let ts ← expect isColon ts
      let ts ← skip ts
      return (filled, ts)

/-- The members of a record written as an object, from a name on; `fuel` bounds their number. -/
def members (fields : List (Field σ)) : Nat → Filled σ → Reader (Filled σ)
  | 0, _, _ => .error .unfinished
  | _, _, [] => .error .unfinished
  | fuel + 1, filled, t :: ts =>
    match t with
    | .string (.error fault) _ => .error fault
    | .string (.ok name) _ =>
      match member fields name filled ts with
      | .error fault => .error fault
      | .ok (_, []) => .error .unfinished
      | .ok (filled, .endObject :: ts) => .ok (filled, ts)
      | .ok (filled, .comma :: ts) => members fields fuel filled ts
      | .ok (_, _ :: _) => .error .malformed
    | _ => .error .malformed

/-- The items of a record written as an array; fields at the end may be missing. -/
def items : List (Field σ) → Bool → Filled σ → Reader (Filled σ)
  | [], _, filled, ts => (expect isEndArray ts).map (filled, ·)
  | _ :: _, _, _, [] => .error .unfinished
  | _ :: _, _, filled, .endArray :: ts => .ok (filled, ts)
  | field :: fields, isFirst, filled, t :: ts => do
    let ts ← if isFirst then .ok (t :: ts) else expect isComma (t :: ts)
    let (s, ts) ← field.read filled.value ts
    items fields false ⟨s, field.name :: filled.seen⟩ ts

/-- A record that starts from default values, with the names of the fields that had a value. -/
def filled (start : σ) (fields : List (Field σ)) : Reader (Filled σ)
  | [] => .error .unfinished
  | .beginObject :: .endObject :: ts => .ok (⟨start, []⟩, ts)
  | .beginObject :: ts => members fields ts.length ⟨start, []⟩ ts
  | .beginArray :: ts => items fields true ⟨start, []⟩ ts
  | t :: _ => .error t.mismatch

/-- A record whose fields all have defaults. -/
def record (start : σ) (fields : List (Field σ)) : Reader σ :=
  (filled start fields).map Filled.value

/-- A record in which some fields must have a value. -/
def recordWith (required : List String) (start : σ) (fields : List (Field σ))
    : Reader σ := fun ts => do
  let (filled, ts) ← filled start fields ts
  if required.all filled.seen.contains then return (filled.value, ts) else .error .mismatch

/-- The value that a whole text holds. -/
def run (r : Reader α) (text : String) : Except Fault α := do
  let (a, rest) ← r (Token.ofChars text.toList)
  if rest.isEmpty then return a else .error .malformed

end Reader

def parse (text : String) : Except Fault Json :=
  (Reader.value 0).run text

end Courier.Json
