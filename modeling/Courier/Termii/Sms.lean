import Courier.Dispatch.Provider

/-! Short messages through Termii.
-/

namespace Courier.Termii

namespace Account

def check (account : Account) : Except Failure Unit :=
  AccountCheck.run ⟨"termii", account.apiKey, "sender_id", account.senderId, account.baseUrl⟩

end Account

namespace Sms

def name : String := "termii-sms"

/-- The path to which messages are sent. -/
def path : String := "/api/sms/send"

def place : String := "sms_dispatch::services::notifications::termii_sms_provider"

/-- The members of a message's body, with a key. -/
def members (account : Account) (key recipient text : String) : List (String × Json) :=
  [("to", .string recipient), ("from", .string account.senderId), ("sms", .string text),
    ("type", .string account.smsType.name), ("channel", .string account.channel.name),
    ("api_key", .string key)]

/-- The body that would be sent. -/
def preview (account : Account) (context : Context) (message : Message) : Except Failure Json := do
  let recipient ← context.recipient message.recipient
  return Json.ofMembers (members account account.apiKey.masked recipient message.text)

def post (account : Account) (recipient text : String) : Http.Post where
  provider := name
  url := account.endpoint path
  body := .object (members account account.apiKey.secret recipient text)
  headers := []

def send (account : Account) (context : Context) (message : Message) : Job Delivery := do
  Job.ofExcept account.check
  let recipient ← Job.ofExcept (context.recipient message.recipient)
  let accepted ← context.client.post (post account recipient message.text)
  Job.record
    ⟨.info, place, "SMS dispatched",
      [("provider", .text name), ("recipient", .text recipient),
        ("status", .number accepted.status)]⟩
  return ⟨name, accepted.status, .text accepted.body⟩

def provider (account : Account) (context : Context) : Provider where
  name
  check := account.check
  preview := preview account context
  send := send account context

end Sms

end Courier.Termii
