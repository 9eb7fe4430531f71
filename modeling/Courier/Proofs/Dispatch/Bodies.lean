import Courier.Proofs.Dispatch.Providers

/-! The documents that providers are sent, as a server reads them: each body is read back as an
object of just the listed members, which a reader holds sorted by name.
-/

namespace Courier

open Courier.Text (trim)

namespace Termii

variable (account : Account)

def Sms.document (recipient text : String) : Json :=
  .object
    [("api_key", .string account.apiKey.secret), ("channel", .string account.channel.name),
      ("from", .string account.senderId), ("sms", .string text), ("to", .string recipient),
      ("type", .string account.smsType.name)]

theorem Sms.parse_body (recipient text : String)
    : Json.parse (post account recipient text).body.compact
      = .ok (document account recipient text) := by
  have read := Json.parse_members (legible_members account account.apiKey.secret recipient text)
  rw [post, read]
  simp only [document, members, Json.ofMembers, Json.sortMembers, List.foldl_cons, List.foldl_nil]
  simp (disch := decide) only [Json.insertMember_nil, Json.insertMember_cons_of_lt,
    Json.insertMember_cons_of_not_lt]

def Otp.document (recipient template : String) : Json :=
  .object
    [("api_key", .string account.apiKey.secret), ("channel", .string account.channel.name),
      ("from", .string account.senderId), ("message_text", .string template),
      ("message_type", .string account.otp.messageType.name),
      ("pin_attempts", Json.nat account.otp.pinAttempts.toNat),
      ("pin_length", Json.nat account.otp.pinLength.toNat),
      ("pin_placeholder", .string account.otp.pinPlaceholder),
      ("pin_time_to_live", Json.nat account.otp.pinTimeToLive.toNat),
      ("pin_type", .string account.otp.pinType.name), ("to", .string recipient)]

theorem Otp.parse_body (recipient template : String)
    : Json.parse (post account recipient template).body.compact
      = .ok (document account recipient template) := by
  have read := Json.parse_members
    (legible_members account account.apiKey.secret recipient template)
  rw [post, read]
  simp only [document, members, Json.ofMembers, Json.sortMembers, List.foldl_cons, List.foldl_nil]
  simp (disch := decide) only [Json.insertMember_nil, Json.insertMember_cons_of_lt,
    Json.insertMember_cons_of_not_lt]

def Otp.verifyDocument (pinId pin : String) : Json :=
  .object
    [("api_key", .string account.apiKey.secret), ("pin", .string (trim pin)),
      ("pin_id", .string (trim pinId))]

theorem Otp.parse_verifyBody (pinId pin : String)
    : Json.parse (verifyPost account pinId pin).body.compact
      = .ok (verifyDocument account pinId pin) := by
  have read := Json.parse_members (legible_verifyMembers account.apiKey.secret pinId pin)
  rw [verifyPost, read]
  simp only [verifyDocument, verifyMembers, Json.ofMembers, Json.sortMembers, List.foldl_cons,
    List.foldl_nil]
  simp (disch := decide) only [Json.insertMember_nil, Json.insertMember_cons_of_lt,
    Json.insertMember_cons_of_not_lt]

end Termii

namespace SmartHive.Sms

variable (account : Account)

def document (recipient text : String) : Json :=
  .object
    [("msg", .string text), ("recipients", .string recipient),
      ("route", .string account.route.name), ("sender", .string account.sender),
      ("type", Json.nat account.messageType.code)]

theorem parse_body (recipient text : String)
    : Json.parse (post account recipient text).body.compact
      = .ok (document account recipient text) := by
  have read := Json.parse_members (legible_members account recipient text)
  rw [post, read]
  simp only [document, members, Json.ofMembers, Json.sortMembers, List.foldl_cons, List.foldl_nil]
  simp (disch := decide) only [Json.insertMember_nil, Json.insertMember_cons_of_lt,
    Json.insertMember_cons_of_not_lt]

end SmartHive.Sms

end Courier
