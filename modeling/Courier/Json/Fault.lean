/-! The three ways in which a text fails to be a JSON value of a kind. The first fault met from left
to right is the one reported. The words in which a reader tells of it, with the line and the column
at which it stands, are the reader's own.
-/

namespace Courier.Json

/-- A fault of a text: no JSON, the beginning of JSON, or JSON of another shape. -/
inductive Fault
  | malformed
  | unfinished
  | mismatch
  deriving DecidableEq, Repr

/-- A fault in short. -/
def Fault.message : Fault → String
  | .malformed => "the text is not JSON"
  | .unfinished => "the text ends inside a JSON value"
  | .mismatch => "the JSON value has another shape"

/-- A fault with the words in which a reader tells of it. -/
structure Misreading where
  fault : Fault
  words : String
  deriving DecidableEq, Repr

/-- The misreading that is told in short. -/
def Fault.inShort (fault : Fault) : Misreading := ⟨fault, fault.message⟩

instance : Coe Fault Misreading := ⟨Fault.inShort⟩

instance : CoeOut Misreading Fault := ⟨Misreading.fault⟩

end Courier.Json
