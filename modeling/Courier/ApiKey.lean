import Courier.Text.Blank

/-! The key of an account with a provider. A key is sent as it is and never shown: its printed forms
are constant, and its masked form shows at most four characters of a long key.
-/

namespace Courier

/-- The key of an account. -/
structure ApiKey where
  secret : String
  deriving DecidableEq, Repr

namespace ApiKey

/-- The characters that stand for what is hidden. -/
def veil : String := "***"

/-- The longest key of which nothing is shown. -/
def hiddenLength : Nat := 8

/-- A key is missing when it is blank. -/
def isMissing (key : ApiKey) : Bool :=
  Text.isBlankText key.secret

/-- The form of a key in previews: the first two and the last two characters of a long key around
the veil, and the veil alone for a short one. -/
def masked (key : ApiKey) : String :=
  let cs := key.secret.toList
  if cs.length ≤ hiddenLength then veil
  else String.ofList (cs.take 2 ++ veil.toList ++ cs.drop (cs.length - 2))

def shown (_ : ApiKey) : String := veil

def diagnosed (_ : ApiKey) : String := "ApiKey(***)"

end ApiKey

end Courier
