import Courier.Json.Token

/-! Values read from tokens. The reader keeps the open containers on a stack, so each token is one
step and the recursion is on the tokens alone. Skipping a value follows the same grammar without
holding it.
-/

namespace Courier.Json

/-- A container that is open, with what it holds so far, the latest first. An object's frame knows
the name of the member whose value comes next. -/
inductive Frame
  | array (items : List Json)
  | object (members : List (String × Json)) (name : String)
  deriving Repr

/-- What may come next in a text. -/
inductive Want
  | value
  | firstItem
  | firstMember
  | member
  | colon
  | next
  deriving DecidableEq, Repr

def Frame.add (value : Json) : Frame → Frame
  | .array items => .array (value :: items)
  | .object members name => .object ((name, value) :: members) name

def Frame.rename (name : String) : Frame → Frame
  | .array items => .array items
  | .object members _ => .object members name

/-- The value of a frame that is closed. -/
def Frame.close : Frame → Json
  | .array items => .array items.reverse
  | .object members _ => ofMembers members.reverse

/-- The levels of containers that a document may have, the innermost of which holds no container. -/
def depthLimit : Nat := 128

/-- What a token does to a reading: it completes the value, or containers stay open and more is to
come. -/
inductive Step (φ α : Type)
  | done (value : α)
  | more (stack : List φ) (want : Want)
  deriving Repr

/-- Takes a value from the front of the tokens, step by step. -/
def runSteps (step : List φ → Want → Token → Except Fault (Step φ α))
    : List φ → Want → List Token → Except Fault (α × List Token)
  | _, _, [] => .error .unfinished
  | stack, want, t :: ts =>
    match step stack want t with
    | .error fault => .error fault
    | .ok (.done value) => .ok (value, ts)
    | .ok (.more stack want) => runSteps step stack want ts

/-- A complete value goes into the innermost open container, and is the whole value when none is
open. -/
def addValue (value : Json) : List Frame → Step Frame Json
  | [] => .done value
  | frame :: below => .more (frame.add value :: below) .next

def closeFrame : List Frame → Except Fault (Step Frame Json)
  | [] => .error .malformed
  | frame :: below => .ok (addValue frame.close below)

/-- A token that must be the name of a member. -/
def nameMember (t : Token) (stack : List Frame) : Except Fault (Step Frame Json) :=
  match t, stack with
  | .string (.ok name) _, frame :: below => .ok (.more (frame.rename name :: below) .colon)
  | .string (.error fault) _, _ => .error fault
  | _, _ => .error .malformed

/-- A token that must begin a value. `depth` is the number of levels that are left. -/
def beginValue (depth : Nat) (stack : List Frame) : Token → Except Fault (Step Frame Json)
  | .word _ (some fault) => .error fault
  | .word .null none => .ok (addValue .null stack)
  | .word .true none => .ok (addValue (.bool true) stack)
  | .word .false none => .ok (addValue (.bool false) stack)
  | .number literal => literal.toNumber.map fun n => addValue (.number n) stack
  | .string text _ => text.map fun s => addValue (.string s) stack
  | .beginArray =>
    if stack.length + 2 ≤ depth then .ok (.more (.array [] :: stack) .firstItem)
    else .error .malformed
  | .beginObject =>
    if stack.length + 2 ≤ depth then .ok (.more (.object [] "" :: stack) .firstMember)
    else .error .malformed
  | .endArray | .endObject | .comma | .colon | .other => .error .malformed

/-- One token of a value that is read. -/
def readStep (depth : Nat) (stack : List Frame) (want : Want) (t : Token)
    : Except Fault (Step Frame Json) :=
  match want, t, stack with
  | .value, _, _ => beginValue depth stack t
  | .firstItem, .endArray, _ => closeFrame stack
  | .firstItem, _, _ => beginValue depth stack t
  | .firstMember, .endObject, _ => closeFrame stack
  | .firstMember, _, _ => nameMember t stack
  | .member, _, _ => nameMember t stack
  | .colon, .colon, _ => .ok (.more stack .value)
  | .colon, _, _ => .error .malformed
  | .next, .comma, .array _ :: _ => .ok (.more stack .value)
  | .next, .endArray, .array _ :: _ => closeFrame stack
  | .next, .comma, .object _ _ :: _ => .ok (.more stack .member)
  | .next, .endObject, .object _ _ :: _ => closeFrame stack
  | .next, _, _ => .error .malformed

/-- Reads a value that may hold a number of levels. -/
def readValue (depth : Nat) : List Frame → Want → List Token → Except Fault (Json × List Token) :=
  runSteps (readStep depth)

/-- The kind of a container. -/
inductive Bracket
  | square
  | curly
  deriving DecidableEq, Repr

/-- The fault of a number that is skipped: its spelling counts, its size does not. -/
def skipNumber : Literal → Option Fault
  | .decimal .. => none
  | .broken _ => some .malformed

/-- A skipped value ends the skipping when no container is open. -/
def skipOver : List Bracket → Step Bracket Unit
  | [] => .done ()
  | bracket :: below => .more (bracket :: below) .next

/-- Closes the innermost container that is skipped. -/
def closeBracket : List Bracket → Except Fault (Step Bracket Unit)
  | [] => .error .malformed
  | _ :: below => .ok (skipOver below)

/-- A token that must be the name of a member that is skipped. -/
def skipName (stack : List Bracket) : Token → Except Fault (Step Bracket Unit)
  | .string _ none => .ok (.more stack .colon)
  | .string _ (some fault) => .error fault
  | _ => .error .malformed

/-- The step over a token that may have a fault. -/
def skipUnless (stack : List Bracket) : Option Fault → Except Fault (Step Bracket Unit)
  | none => .ok (skipOver stack)
  | some fault => .error fault

/-- A token that must begin a value that is skipped. -/
def skipBegin (stack : List Bracket) : Token → Except Fault (Step Bracket Unit)
  | .word _ fault => skipUnless stack fault
  | .number literal => skipUnless stack (skipNumber literal)
  | .string _ fault => skipUnless stack fault
  | .beginArray => .ok (.more (.square :: stack) .firstItem)
  | .beginObject => .ok (.more (.curly :: stack) .firstMember)
  | .endArray | .endObject | .comma | .colon | .other => .error .malformed

/-- One token of a value that is skipped. -/
def skipStep (stack : List Bracket) (want : Want) (t : Token) : Except Fault (Step Bracket Unit) :=
  match want, t, stack with
  | .value, _, _ => skipBegin stack t
  | .firstItem, .endArray, _ => closeBracket stack
  | .firstItem, _, _ => skipBegin stack t
  | .firstMember, .endObject, _ => closeBracket stack
  | .firstMember, _, _ => skipName stack t
  | .member, _, _ => skipName stack t
  | .colon, .colon, _ => .ok (.more stack .value)
  | .colon, _, _ => .error .malformed
  | .next, .comma, .square :: _ => .ok (.more stack .value)
  | .next, .endArray, .square :: _ => closeBracket stack
  | .next, .comma, .curly :: _ => .ok (.more stack .member)
  | .next, .endObject, .curly :: _ => closeBracket stack
  | .next, _, _ => .error .malformed

/-- Skips a value. Neither depth nor the values of numbers and characters are looked at. -/
def skipValue (stack : List Bracket) (want : Want) (ts : List Token) : Except Fault (List Token) :=
  (runSteps skipStep stack want ts).map (·.2)

end Courier.Json
