import Courier.Http.Basic
import Courier.Text.Lower

/-! The text of an answer. Its octets are read in the character set that the content type names; a
byte order mark at their start wins over that name, and what names no known set is UTF-8. The sets
known here are UTF-8, UTF-16 and the western one. The many others that browsers know, of one octet a
character for other languages and of several for those of East Asia, are left out, and what names
one of them is read as UTF-8 as well.
-/

namespace Courier.Http

open Courier.Text

/-- The character sets in which an answer is read. -/
inductive Charset
  | utf8
  | utf16 (bigEndian : Bool)
  | western
  deriving DecidableEq, Repr

namespace Charset

/-- The labels of character sets of one octet a character for western languages. -/
def westernLabels : List String :=
  ["ansi_x3.4-1968", "ascii", "cp1252", "cp819", "csisolatin1", "ibm819", "iso-8859-1",
    "iso-ir-100", "iso8859-1", "iso88591", "iso_8859-1", "iso_8859-1:1987", "l1", "latin1",
    "us-ascii", "windows-1252", "x-cp1252"]

/-- The labels of UTF-16 whose lower octet comes first. -/
def utf16Labels : List String :=
  ["csunicode", "iso-10646-ucs-2", "ucs-2", "unicode", "unicodefeff", "utf-16", "utf-16le"]

/-- The labels of UTF-16 whose higher octet comes first. -/
def utf16BigLabels : List String := ["unicodefffe", "utf-16be"]

def ofLabel (label : String) : Charset :=
  let label := lowerAsciiText (trim label)
  if westernLabels.contains label then western
  else if utf16Labels.contains label then utf16 false
  else if utf16BigLabels.contains label then utf16 true
  else utf8

/-- The characters of the octets 0x80 to 0x9F of western character sets. -/
def westernUpper : List Nat :=
  [0x20AC, 0x81, 0x201A, 0x192, 0x201E, 0x2026, 0x2020, 0x2021, 0x2C6, 0x2030, 0x160, 0x2039, 0x152,
    0x8D, 0x17D, 0x8F, 0x90, 0x2018, 0x2019, 0x201C, 0x201D, 0x2022, 0x2013, 0x2014, 0x2DC, 0x2122,
    0x161, 0x203A, 0x153, 0x9D, 0x17E, 0x178]

def westernChar (b : UInt8) : Char :=
  let n := b.toNat
  if 0x80 ≤ n ∧ n ≤ 0x9F then Char.ofNat (westernUpper.getD (n - 0x80) 0xFFFD) else Char.ofNat n

/-- The units of sixteen bits; a last octet alone makes none. -/
def units (bigEndian : Bool) : List UInt8 → List Nat
  | [] | [_] => []
  | a :: b :: rest =>
    (if bigEndian then 256 * a.toNat + b.toNat else 256 * b.toNat + a.toNat) :: units bigEndian rest

/-- Whether a unit opens a pair. -/
def isHigh (n : Nat) : Bool := 0xD800 ≤ n && n ≤ 0xDBFF

/-- Whether a unit closes a pair. -/
def isLow (n : Nat) : Bool := 0xDC00 ≤ n && n ≤ 0xDFFF

/-- The characters of units of sixteen bits, after which an octet may be left. A unit of a pair that
stands alone is replaced, and so is the octet that is left, but for both of them at the end there is
one replacement. -/
def unitChars (left : Bool) : List Nat → List Char
  | [] => if left then [Utf8.replacement] else []
  | [n] =>
    if isHigh n then [Utf8.replacement]
    else (if isLow n then Utf8.replacement else Char.ofNat n) :: unitChars left []
  | n :: m :: rest =>
    if isHigh n && isLow m then
      Char.ofNat ((n - 0xD800) * 1024 + (m - 0xDC00) + 0x10000) :: unitChars left rest
    else
      (if isHigh n || isLow n then Utf8.replacement else Char.ofNat n) :: unitChars left (m :: rest)

def read (charset : Charset) (octets : List UInt8) : String :=
  match charset with
  | utf8 => Utf8.read octets
  | utf16 bigEndian =>
    String.ofList (unitChars (octets.length % 2 == 1) (units bigEndian octets))
  | western => String.ofList (octets.map westernChar)

/-- The character set that a byte order mark names, and the octets after the mark. -/
def split (charset : Charset) : List UInt8 → Charset × List UInt8
  | 0xEF :: 0xBB :: 0xBF :: rest => (utf8, rest)
  | 0xFF :: 0xFE :: rest => (utf16 false, rest)
  | 0xFE :: 0xFF :: rest => (utf16 true, rest)
  | octets => (charset, octets)

/-- A parameter's value without quotes around it. -/
def unquote (cs : List Char) : List Char :=
  match cs with
  | '"' :: rest => rest.takeWhile (· != '"')
  | _ => cs

/-- The character set that a content type names. -/
def ofContentType (contentType : String) : Charset :=
  let parameters := (splitOn ';' contentType.toList).drop 1
  let named := parameters.filterMap fun parameter =>
    match (trimChars parameter).span (· != '=') with
    | (name, _ :: value) =>
      if name.map lowerAscii == "charset".toList then some (unquote (trimChars value)) else none
    | _ => none
  match named.head? with
  | some label => ofLabel (String.ofList label)
  | none => utf8

end Charset

/-- The text of an answer's octets, given its headers. -/
def textOf (headers : Headers) (octets : List UInt8) : String :=
  let named := match headers.find? "content-type" with
    | some contentType => Charset.ofContentType contentType
    | none => .utf8
  let (charset, octets) := named.split octets
  charset.read octets

end Courier.Http
