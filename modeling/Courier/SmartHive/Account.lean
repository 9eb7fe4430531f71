import Courier.Codec

/-! The account with SmartHive, which sends short messages in two classes of traffic.
-/

namespace Courier.SmartHive

open Courier.Text

/-- How a message is shown: at once on the screen, or kept in the inbox. -/
inductive MessageType
  | flash
  | inbox
  deriving DecidableEq, Repr

namespace MessageType

def code : MessageType → Nat
  | flash => 0
  | inbox => 1

def ofCode? : Nat → Option MessageType
  | 0 => some flash
  | 1 => some inbox
  | _ => none

def codec : Codec MessageType := Codec.numbered code ofCode?

end MessageType

/-- The class of traffic, by which messages are priced. -/
inductive Route
  | transactional
  | marketing
  deriving DecidableEq, Repr

namespace Route

def name : Route → String
  | transactional => "TRX"
  | marketing => "MKT"

/-- The route of a name, in capitals or small letters. -/
def ofName? (name : String) : Option Route :=
  if name == "TRX" || name == "trx" then some transactional
  else if name == "MKT" || name == "mkt" then some marketing
  else none

def codec : Codec Route := Codec.named name ofName?

end Route

/-- An account. -/
structure Account where
  baseUrl : String := "https://api.smarthivesms.com"
  apiKey : ApiKey := ⟨""⟩
  sender : String := ""
  messageType : MessageType := .inbox
  route : Route := .transactional
  deriving DecidableEq, Repr

namespace Account

def codec : Codec Account :=
  Codec.record {}
    [.of "base_url" Codec.text baseUrl fun v a => { a with baseUrl := v },
      .of "api_key" Codec.apiKey apiKey fun v a => { a with apiKey := v },
      .of "sender" Codec.text sender fun v a => { a with sender := v },
      .of "message_type" MessageType.codec messageType fun v a => { a with messageType := v },
      .of "route" Route.codec route fun v a => { a with route := v }]

/-- The address to which messages are sent. -/
def sendUrl (account : Account) : String :=
  dropTrailing '/' account.baseUrl ++ "/api/sms/send"

end Account

end Courier.SmartHive
