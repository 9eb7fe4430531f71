import Courier.Text.Blank

/-! Lower case for the comparison of names. All names compared are ASCII, so only the letters whose
lower case is an ASCII letter need a rule: the Latin capitals and the Kelvin sign. Every other
letter stays unequal to each name whether it is lowered or not.
-/

namespace Courier.Text

/-- The lower case of the ASCII capitals; every other character stays. -/
def lowerAscii (c : Char) : Char :=
  if 'A' ≤ c && c ≤ 'Z' then Char.ofNat (c.toNat + 32) else c

/-- The lower case of a text in ASCII letters only. -/
def lowerAsciiText (s : String) : String :=
  String.ofList (s.toList.map lowerAscii)

/-- The lower case of the letters that can become an ASCII letter. -/
def lower (c : Char) : Char :=
  if c == '\u212A' then 'k' else lowerAscii c

/-- The lower case of a text that is to be compared with an ASCII name. -/
def lowerText (s : String) : String :=
  String.ofList (s.toList.map lower)

end Courier.Text
