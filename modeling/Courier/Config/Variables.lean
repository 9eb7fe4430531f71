import Courier.Config.Fault
import Courier.Text.Utf8

/-! Variables of the process. A value is a sequence of octets, which need not be a text.
-/

namespace Courier.Config

open Courier.Text

abbrev Variables := List (String × List UInt8)

namespace Variables

def octets? (vars : Variables) (name : String) : Option (List UInt8) :=
  (vars.find? (·.1 == name)).map (·.2)

/-- The text of a variable that is set to a text. -/
def find? (vars : Variables) (name : String) : Option String :=
  (vars.octets? name).bind Utf8.text?

end Variables

end Courier.Config
