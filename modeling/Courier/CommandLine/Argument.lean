import Courier.Disk.Basic
import Courier.Text.Blank

/-! What the values of options must be. A check gives the value back as it is used from then on, or
says what is wrong with it.
-/

namespace Courier.CommandLine.Argument

open Courier.Text

def fewestDigits : Nat := 7

/-- The most digits of a telephone number. -/
def mostDigits : Nat := 15

/-- Whether a character may stand in a telephone number after its plus sign. -/
def isPhoneChar (c : Char) : Bool :=
  isDigit c || c == ' ' || c == '-' || c == '(' || c == ')'

/-- The number without a plus sign at its start. -/
def afterPlus : List Char → List Char
  | '+' :: cs => cs
  | cs => cs

/-- A telephone number: digits, dividing characters and a plus sign at the start. -/
def phone (raw : String) : Except String String :=
  let cs := trimChars raw.toList
  let body := afterPlus cs
  let count := (body.filter isDigit).length
  if cs.isEmpty then .error "Phone number cannot be empty"
  else match body.find? (!isPhoneChar ·) with
    | some bad =>
      .error
        ("Invalid character '" ++ String.ofList [bad] ++ "' in phone number '" ++ raw ++ "'")
    | none =>
      if fewestDigits ≤ count && count ≤ mostDigits then .ok (String.ofList cs)
      else
        .error
          s!"Phone number must have between {fewestDigits} and {mostDigits} digits, got {count}"

/-- The text of a message, which is kept as it is. -/
def message (raw : String) : Except String String :=
  if isBlankText raw then .error "Message text cannot be empty" else .ok raw

/-- A pin or the name of one. -/
def pin (raw : String) : Except String String :=
  let cs := trimChars raw.toList
  if cs.isEmpty then .error "Value cannot be empty"
  else if cs.any isBlank then
    .error ("Value cannot contain spaces: '" ++ String.ofList cs ++ "'")
  else .ok (String.ofList cs)

/-- The path of a file that can be read. -/
def configFile (disk : Disk) (path : String) : Except String String :=
  if !disk.hasPath path then .error s!"Configuration file does not exist: '{path}'"
  else if !disk.isFile path then .error s!"Configuration path is not a file: '{path}'"
  else match disk.read path with
    | .ok _ => .ok path
    | .error fault => .error s!"Cannot read configuration file '{path}': {fault.message}"

end Courier.CommandLine.Argument
