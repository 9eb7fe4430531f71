import Courier.Dispatch.Provider

/-! Short messages through SmartHive. The key travels in a header, and the answer is a document.
-/

namespace Courier.SmartHive

namespace Account

def check (account : Account) : Except Failure Unit :=
  AccountCheck.run ⟨"smarthive", account.apiKey, "sender", account.sender, account.baseUrl⟩

def withMessageType (account : Account) (messageType : MessageType) : Account :=
  { account with messageType }

def withRoute (account : Account) (route : Route) : Account :=
  { account with route }

end Account

namespace Sms

def name : String := "smarthive"

def keyHeader : String := "x-api-key"

def place : String := "sms_dispatch::services::notifications::smarthive_provider"

def members (account : Account) (recipient text : String) : List (String × Json) :=
  [("sender", .string account.sender), ("recipients", .string recipient), ("msg", .string text),
    ("type", Json.nat account.messageType.code), ("route", .string account.route.name)]

/-- The body that would be sent. -/
def preview (account : Account) (context : Context) (message : Message) : Except Failure Json := do
  let recipient ← context.recipient message.recipient
  return Json.ofMembers (members account recipient message.text)

def post (account : Account) (recipient text : String) : Http.Post where
  provider := name
  url := account.sendUrl
  body := .object (members account recipient text)
  headers := [(keyHeader, account.apiKey.secret)]

def send (account : Account) (context : Context) (message : Message) : Job Delivery := do
  Job.ofExcept account.check
  let recipient ← Job.ofExcept (context.recipient message.recipient)
  let accepted ← context.client.post (post account recipient message.text)
  match context.reading name Json.parse accepted.body with
  | .error fault => Job.fail (.malformed name accepted.status accepted.body fault)
  | .ok document =>
    Job.record
      ⟨.info, place, "SMS dispatched",
        [("provider", .text name), ("recipient", .text recipient),
          ("status", .number accepted.status)]⟩
    return ⟨name, accepted.status, .json document⟩

def provider (account : Account) (context : Context) : Provider where
  name
  check := account.check
  preview := preview account context
  send := send account context

end Sms

end Courier.SmartHive
