import Courier.Json.Printer
import Courier.Log.Setup

/-! Events of a log and the lines that show them. A text line gives the level, the place, the
message and the fields; a JSON line is an object of the same parts.
-/

namespace Courier.Log

/-- The value of a field. A text is shown in quotes, and what is spelled already as it is. -/
inductive FieldValue
  | number (value : Int)
  | bool (value : Bool)
  | text (value : String)
  | spelled (value : String)
  deriving DecidableEq, Repr

/-- An event: how grave it is, where it arose, what it says and with which fields. -/
structure Event where
  level : Level
  place : String
  message : String
  fields : List (String × FieldValue)
  deriving DecidableEq, Repr

/-- A field's value as JSON. -/
def FieldValue.toJson : FieldValue → Json
  | number i => .number (.integer i)
  | bool b => .bool b
  | text s | spelled s => .string s

def hexDigits (n : Nat) : List Char := Nat.toDigits 16 n

/-- A character of a message in a text line: what a terminal would obey is spelled out. -/
def spellChar (c : Char) : List Char :=
  if c == '\x1B' then "\\x1b".toList
  else if c == '\x07' then "\\x07".toList
  else if c == '\x08' then "\\x08".toList
  else if c == '\x0C' then "\\x0c".toList
  else if c == '\x7F' then "\\x7f".toList
  else if 0x80 ≤ c.toNat && c.toNat ≤ 0x9F then
    '\\' :: 'u' :: '\x7b' :: (hexDigits c.toNat ++ ['\x7d'])
  else [c]

/-- A character of a text in quotes, with control characters spelled out. Other characters that
cannot be printed, and those that mark the one before them, are left as they are. -/
def quoteChar (c : Char) : List Char :=
  if c == '"' then ['\\', '"']
  else if c == '\\' then ['\\', '\\']
  else if c == '\n' then ['\\', 'n']
  else if c == '\r' then ['\\', 'r']
  else if c == '\t' then ['\\', 't']
  else if c == '\x00' then ['\\', '0']
  else if c.toNat < 0x20 || (0x7F ≤ c.toNat && c.toNat ≤ 0x9F) then
    '\\' :: 'u' :: '\x7b' :: (hexDigits c.toNat ++ ['\x7d'])
  else [c]

/-- A text in quotes. -/
def quoted (s : String) : String :=
  String.ofList ('"' :: (s.toList.flatMap quoteChar ++ ['"']))

def boolText (b : Bool) : String := if b then "true" else "false"

def FieldValue.chars : FieldValue → List Char
  | number i => Json.integerChars i
  | bool b => (boolText b).toList
  | text s => (quoted s).toList
  | spelled s => s.toList

/-- A text with blanks before it up to a width. -/
def padLeft (width : Nat) (s : String) : String :=
  String.ofList (List.replicate (width - s.length) ' ' ++ s.toList)

/-- The text line of an event, without its time. -/
def Event.textLine (event : Event) : String :=
  let fields := event.fields.flatMap fun (name, value) => ' ' :: (name.toList ++ '=' :: value.chars)
  padLeft 5 event.level.label ++ " " ++ event.place ++ ": "
    ++ String.ofList (event.message.toList.flatMap spellChar ++ fields)

/-- The JSON line of an event, without its time. -/
def Event.toJson (event : Event) : Json :=
  .object
    [("level", .string event.level.label),
      ("fields",
        .object
          (("message", .string event.message)
            :: event.fields.map fun (name, value) => (name, value.toJson))),
      ("target", .string event.place)]

/-- The line of an event in a format, after the time at which it arose. -/
def Event.line (stamp : String) (format : Format) (event : Event) : String :=
  match format with
  | .full | .compact => stamp ++ " " ++ event.textLine ++ "\n"
  | .json =>
    match event.toJson with
    | .object members => (Json.object (("timestamp", .string stamp) :: members)).compact ++ "\n"
    | j => j.compact ++ "\n"

end Courier.Log
