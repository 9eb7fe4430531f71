import Courier.Termii.Sms

/-! One-time passwords through Termii. The provider makes up the pin and puts it into the template;
what it answers names the pin, and the pin is confirmed by that name.
-/

namespace Courier.Termii.Otp

open Courier.Json (Reader)
open Courier.Text

def name : String := "termii-otp"

/-- The path to which templates are sent. -/
def sendPath : String := "/api/sms/otp/send"

/-- The path at which pins are confirmed. -/
def verifyPath : String := "/api/sms/otp/verify"

def place : String := "sms_dispatch::services::notifications::termii_otp_provider"

/-- The acknowledgement of a template. -/
structure Receipt where
  pinId : String
  recipient : Option String
  smsStatus : Option String
  deriving DecidableEq, Repr

/-- Reads an acknowledgement, which must name the pin. -/
def Receipt.read : Reader Receipt :=
  Reader.recordWith ["pinId"] ⟨"", none, none⟩
    [⟨"pinId", fun r => Reader.string.map fun v => { r with pinId := v }⟩,
      ⟨"to", fun r => (Reader.optional Reader.string).map fun v => { r with recipient := v }⟩,
      ⟨"smsStatus", fun r =>
        (Reader.optional Reader.string).map fun v => { r with smsStatus := v }⟩]

/-- The answer to a confirmation. What it says of the pin may be any value. -/
structure Verdict where
  pinId : Option String
  verified : Json
  msisdn : Option String
  deriving Repr

namespace Verdict

def read : Reader Verdict :=
  Reader.record ⟨none, .null, none⟩
    [⟨"pinId", fun r => (Reader.optional Reader.string).map fun v => { r with pinId := v }⟩,
      ⟨"verified", fun r => (Reader.value 1).map fun v => { r with verified := v }⟩,
      ⟨"msisdn", fun r => (Reader.optional Reader.string).map fun v => { r with msisdn := v }⟩]

def isVerified (verdict : Verdict) : Bool := verdict.verified.isTrue

/-- Why a pin is not confirmed. -/
def reason (verdict : Verdict) : String :=
  match verdict.verified with
  | .string s => s
  | .null => "no verification status returned"
  | j => j.compact

end Verdict

/-- A pin that is confirmed. -/
structure Verification where
  pinId : String
  verified : Bool
  msisdn : Option String
  deriving DecidableEq, Repr

def Verification.report (verification : Verification) : String :=
  match verification.msisdn with
  | some msisdn => s!"Pin {verification.pinId} verified for {msisdn}"
  | none => s!"Pin {verification.pinId} verified"

/-- Checks the account and the policy. -/
def check (account : Account) : Except Failure Unit := do
  account.check
  account.otp.validate.mapError Failure.ofErrors

/-- Checks that a template has a place for the pin. -/
def checkTemplate (account : Account) (template : String) : Except Failure Unit :=
  if account.otp.hasPlaceholder template then .ok ()
  else
    .error
      (.invalid "message_text"
        s!"OTP template must contain the placeholder '{account.otp.pinPlaceholder}'")

/-- The members of a template's body, with a key. -/
def members (account : Account) (key recipient template : String) : List (String × Json) :=
  let policy := account.otp
  [("message_type", .string policy.messageType.name), ("to", .string recipient),
    ("from", .string account.senderId), ("channel", .string account.channel.name),
    ("pin_attempts", Json.nat policy.pinAttempts.toNat),
    ("pin_time_to_live", Json.nat policy.pinTimeToLive.toNat),
    ("pin_length", Json.nat policy.pinLength.toNat),
    ("pin_placeholder", .string policy.pinPlaceholder), ("message_text", .string template),
    ("pin_type", .string policy.pinType.name), ("api_key", .string key)]

/-- The body that would be sent. -/
def preview (account : Account) (context : Context) (message : Message) : Except Failure Json := do
  checkTemplate account message.text
  let recipient ← context.recipient message.recipient
  return Json.ofMembers (members account account.apiKey.masked recipient message.text)

/-- The event of an accepted template, which depends on whether the answer names the pin. -/
def dispatchedEvent (recipient : String) (accepted : Http.Accepted) : Log.Event :=
  match Receipt.read.run accepted.body with
  | .ok receipt =>
    ⟨.info, place, "OTP dispatched",
      [("provider", .text name), ("recipient", .text recipient), ("pin_id", .text receipt.pinId),
        ("sms_status", .text (receipt.smsStatus.getD "unknown"))]⟩
  | .error _ =>
    ⟨.info, place, "OTP dispatched without pin id",
      [("provider", .text name), ("recipient", .text recipient),
        ("status", .number accepted.status)]⟩

def post (account : Account) (recipient template : String) : Http.Post where
  provider := name
  url := account.endpoint sendPath
  body := .object (members account account.apiKey.secret recipient template)
  headers := []

def send (account : Account) (context : Context) (message : Message) : Job Delivery := do
  Job.ofExcept (check account)
  Job.ofExcept (checkTemplate account message.text)
  let recipient ← Job.ofExcept (context.recipient message.recipient)
  let accepted ← context.client.post (post account recipient message.text)
  Job.record (dispatchedEvent recipient accepted)
  return ⟨name, accepted.status, .text accepted.body⟩

def provider (account : Account) (context : Context) : Provider where
  name
  check := check account
  preview := preview account context
  send := send account context

/-- The members of a confirmation's body, with a key. -/
def verifyMembers (key pinId pin : String) : List (String × Json) :=
  [("api_key", .string key), ("pin_id", .string (trim pinId)), ("pin", .string (trim pin))]

/-- The body that a confirmation would send. -/
def verifyPreview (account : Account) (pinId pin : String) : Json :=
  Json.ofMembers (verifyMembers account.apiKey.masked pinId pin)

/-- Checks that a text is not blank. -/
def checkGiven (field message value : String) : Except Failure Unit :=
  if isBlankText value then .error (.invalid field message) else .ok ()

def verifyPost (account : Account) (pinId pin : String) : Http.Post where
  provider := name
  url := account.endpoint verifyPath
  body := .object (verifyMembers account.apiKey.secret pinId pin)
  headers := []

def verify (account : Account) (context : Context) (pinId pin : String) : Job Verification := do
  Job.ofExcept (check account)
  Job.ofExcept (checkGiven "pin_id" "Pin id cannot be empty" pinId)
  Job.ofExcept (checkGiven "pin" "Pin cannot be empty" pin)
  let accepted ← context.client.post (verifyPost account pinId pin)
  match context.reading name Verdict.read.run accepted.body with
  | .error fault => Job.fail (.malformed name accepted.status accepted.body fault)
  | .ok verdict =>
    if verdict.isVerified then
      Job.record ⟨.info, place, "OTP verified", [("pin_id", .text pinId)]⟩
      return ⟨verdict.pinId.getD pinId, verdict.isVerified, verdict.msisdn⟩
    else
      Job.record
        ⟨.warn, place, "OTP not verified",
          [("pin_id", .text pinId), ("reason", .text verdict.reason)]⟩
      Job.fail (.rejected pinId verdict.reason)

end Courier.Termii.Otp
