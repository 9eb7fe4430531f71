import Courier.Url.Folding
import Courier.Url.Label
import Courier.Url.Percent
import Courier.Url.Punycode

/-! Domain names in their ASCII form. Characters are folded, and a label with characters beyond
ASCII is written in Punycode. A name with a label that is not well-formed has no ASCII form.
-/

namespace Courier.Url.Domain

open Courier.Text

/-- The characters before which a label of Punycode stands. -/
def mark : List Char := ['x', 'n', '-', '-']

/-- The label that a label of Punycode stands for, when that has no shorter form. -/
def decoded? (label : List Char) : Option (List Char) :=
  match Punycode.decode? (label.drop mark.length) with
  | none => none
  | some decoded =>
    if decoded.any (0x80 ≤ ·.toNat) && decoded.flatMap Folding.fold == decoded then some decoded
    else none

/-- A label in Unicode and in ASCII. -/
structure Forms where
  unicode : List Char
  ascii : List Char
  deriving DecidableEq, Repr

/-- The forms of a label, when it is well-formed. -/
def forms? (label : List Char) : Option Forms :=
  let forms :=
    if mark.isPrefixOf label then (decoded? label).map fun unicode => ⟨unicode, label⟩
    else if label.all (·.toNat < 0x80) then some ⟨label, label⟩
    else some ⟨label, mark ++ Punycode.encode label⟩
  forms.filter fun forms => Label.isWellFormed forms.unicode

def join : List (List Char) → List Char
  | [] => []
  | [label] => label
  | label :: labels => label ++ '.' :: join labels

/-- The ASCII form of a name. When a part of it is written from right to left, each label must run
in one direction. -/
def ascii? (name : List Char) : Option (List Char) :=
  match (splitOn '.' (name.flatMap Folding.fold)).mapM forms? with
  | none => none
  | some labels =>
    if labels.any (Label.hasRight ·.unicode) && !labels.all (Label.runsOneWay ·.unicode) then none
    else some (join (labels.map (·.ascii)))

end Courier.Url.Domain
