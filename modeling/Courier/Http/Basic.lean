import Courier.Text.Utf8
import Courier.Url.Basic

/-! Requests, answers and the network between. The network is any function of the requests made
before and the one made now, so whatever holds for all networks holds for every server.
-/

namespace Courier.Http

/-- The methods of requests. -/
inductive Method
  | get
  | post
  deriving DecidableEq, Repr

def Method.name : Method → String
  | get => "GET"
  | post => "POST"

/-- Headers with their values, in order. -/
abbrev Headers := List (String × String)

/-- A request as it leaves the host. -/
structure Request where
  method : Method
  url : Url
  headers : Headers
  body : Option String
  deriving DecidableEq, Repr

/-- An answer; its body is missing when the connection ends too early. -/
structure Response where
  status : Nat
  headers : Headers
  body : Option (List UInt8)
  deriving DecidableEq, Repr

/-- What becomes of a request: no connection, a connection that ends without an answer, or an
answer. -/
inductive Reply
  | refused (causes : List String)
  | dropped
  | answer (response : Response)
  deriving DecidableEq, Repr

/-- A network answers a request, knowing those before it. -/
abbrev Network := List Request → Request → Reply

/-- The network on which no connection can be made. -/
def Network.unreachable : Network := fun _ _ =>
  .refused ["client error (Connect)", "tcp connect error", "Network is unreachable (os error 101)"]

def Reply.isReceived : Reply → Bool
  | refused _ => false
  | dropped | answer _ => true

/-- A character that counts in the name of a header, in lower case. -/
def lowerName (name : String) : List Char :=
  name.toList.map fun c => if 'A' ≤ c && c ≤ 'Z' then Char.ofNat (c.toNat + 32) else c

/-- The first value of a header. -/
def Headers.find? (headers : Headers) (name : String) : Option String :=
  (List.find? (fun h => lowerName h.1 == lowerName name) headers).map (·.2)

/-- Whether a status says that a request was accepted. -/
def isSuccess (status : Nat) : Bool := 200 ≤ status && status ≤ 299

/-- Whether a text can be the value of a header: no control characters but the tab. -/
def isHeaderValue (s : String) : Bool :=
  s.toList.all fun c => c == '\t' || (0x20 ≤ c.toNat && c != '\x7F')

def isNameChar (c : Char) : Bool :=
  ('a' ≤ c && c ≤ 'z') || ('A' ≤ c && c ≤ 'Z') || ('0' ≤ c && c ≤ '9')
    || ['!', '#', '$', '%', '&', '\x27', '*', '+', '-', '.', '^', '_', '\x60', '|', '~'].contains c

def isHeaderName (s : String) : Bool :=
  !s.isEmpty && s.toList.all isNameChar

end Courier.Http
