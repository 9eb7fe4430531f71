import Courier.Http.Client
import Courier.Phone
import Courier.Settings.Validation

/-! Providers and what they have in common: a message goes in, a delivery comes out, and the account
is checked before anything is sent.
-/

namespace Courier

open Courier.Text

/-- A message to a recipient, whose number may be written in any way. -/
structure Message where
  recipient : String
  text : String
  deriving DecidableEq, Repr

/-- The body of a provider's answer, as a text or as a document. -/
inductive Answer
  | text (text : String)
  | json (document : Json)
  deriving Repr

def Answer.shown : Answer → String
  | text s => s
  | json j => j.pretty

/-- What a provider answered to a message that it accepted. -/
structure Delivery where
  provider : String
  status : Nat
  answer : Answer
  deriving Repr

/-- The report of a delivery: a text as it is, a document after its status. -/
def Delivery.report (delivery : Delivery) : String :=
  match delivery.answer with
  | .text s => s
  | .json _ => s!"Status Code: {delivery.status}\n{delivery.answer.shown}"

def previewReport (provider : String) (body : Json) : String :=
  s!"[dry-run] {provider} would send:\n{body.pretty}"

/-- What the reader of a provider's answers says of a fault in one of them, given the provider and
the text of the answer. -/
abbrev Wording := String → String → Json.Fault → String

/-- The wording in which a fault is told in short, whatever the text. -/
def Wording.short : Wording := fun _ _ fault => fault.message

/-- What every provider needs besides its account. -/
structure Context where
  client : Http.Client
  countryCode : String
  wording : Wording := .short

namespace Context

def make (client : Http.Client) (settings : Settings) : Context :=
  { client, countryCode := dropLeading '+' settings.defaults.countryCode }

/-- What a provider's reader makes of a text, faults in its own words. -/
def reading (context : Context) (provider : String) (read : String → Except Json.Fault α)
    (text : String) : Except Json.Misreading α :=
  (read text).mapError fun fault => ⟨fault, context.wording provider text fault⟩

def recipient (context : Context) (raw : String) : Except Failure String :=
  (Phone.digits raw context.countryCode).mapError fun fault => .invalid "to" fault.message

end Context

/-- A provider of messages. -/
structure Provider where
  name : String
  /-- Checks the account. -/
  check : Except Failure Unit
  /-- The body that would be sent, with the key masked. -/
  preview : Message → Except Failure Json
  send : Message → Job Delivery

/-- What is checked of every account. -/
structure AccountCheck where
  area : String
  apiKey : ApiKey
  senderField : String
  sender : String
  baseUrl : String

def capitals (s : String) : String :=
  String.ofList (s.toList.map fun c => if 'a' ≤ c && c ≤ 'z' then Char.ofNat (c.toNat - 32) else c)

/-- Checks an account: a key that can be sent in a header, a sender and an address. -/
def AccountCheck.run (account : AccountCheck) : Except Failure Unit :=
  let keyField := account.area ++ ".api_key"
  let urlField := account.area ++ ".base_url"
  if account.apiKey.isMissing then
    .error
      (.invalid keyField
        s!"API key is not configured; set SMS_DISPATCH_{capitals account.area}__API_KEY")
  else if !Http.isHeaderValue account.apiKey.secret then
    .error
      (.invalid keyField "API key contains characters that are not allowed in an HTTP header")
  else if isBlankText account.sender then
    .error (.invalid (account.area ++ "." ++ account.senderField) "Sender cannot be empty")
  else (checkBaseUrl urlField account.baseUrl).mapError fun fault => .invalid urlField fault.message

end Courier
