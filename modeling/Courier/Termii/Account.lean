import Courier.Otp.Policy

/-! The account with Termii, which sends short messages and one-time passwords.
-/

namespace Courier.Termii

open Courier.Text

/-- The way a message is delivered. -/
inductive Channel
  | generic
  | dnd
  | whatsapp
  deriving DecidableEq, Repr

namespace Channel

def name : Channel → String
  | generic => "generic"
  | dnd => "dnd"
  | whatsapp => "whatsapp"

def ofName? (name : String) : Option Channel :=
  if name == "generic" then some generic
  else if name == "dnd" then some dnd
  else if name == "whatsapp" then some whatsapp
  else none

def codec : Codec Channel := Codec.named name ofName?

end Channel

/-- The kind of a message; plain text is the only one. -/
inductive SmsType
  | plain
  deriving DecidableEq, Repr

namespace SmsType

def name : SmsType → String
  | plain => "plain"

def ofName? (name : String) : Option SmsType :=
  if name == "plain" then some plain else none

def codec : Codec SmsType := Codec.named name ofName?

end SmsType

/-- An account. -/
structure Account where
  baseUrl : String := "https://v3.api.termii.com"
  apiKey : ApiKey := ⟨""⟩
  senderId : String := ""
  channel : Channel := .generic
  smsType : SmsType := .plain
  otp : Otp.Policy := {}
  deriving DecidableEq, Repr

namespace Account

def codec : Codec Account :=
  Codec.record {}
    [.of "base_url" Codec.text baseUrl fun v a => { a with baseUrl := v },
      .of "api_key" Codec.apiKey apiKey fun v a => { a with apiKey := v },
      .of "sender_id" Codec.text senderId fun v a => { a with senderId := v },
      .of "channel" Channel.codec channel fun v a => { a with channel := v },
      .of "sms_type" SmsType.codec smsType fun v a => { a with smsType := v },
      .of "otp" Otp.Policy.codec otp fun v a => { a with otp := v }]

/-- The address of a path of the account's server, with one slash between the two. -/
def endpoint (account : Account) (path : String) : String :=
  dropTrailing '/' account.baseUrl ++ "/" ++ dropLeading '/' path

end Account

end Courier.Termii
