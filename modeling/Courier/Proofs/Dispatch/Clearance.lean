import Courier.Proofs.Dispatch.Bodies
import Courier.Proofs.Dispatch.Checks
import Courier.Proofs.Http.Documents

/-! Nothing leaves the host unchecked. Whatever the account and the message, a call that makes a
request has found its account fit and its policy sound, and the document that it sends names a
number to dial, a template with a place for the pin, or a pin.
-/

namespace Courier

open Courier.Http (Carry Client Network Post Request)
open Courier.Text (all_of_all_dropWhile isBlank isBlankText trim trimChars)

variable {α : Type}

/-- A document has a text under a name, and the text is as a condition says. -/
def Json.Holds (document : Json) (name : String) (fine : String → Prop) : Prop :=
  ∃ text, document.get? name = some (.string text) ∧ fine text

/-- Requests with documents that are as a condition says: the first request carries one, and so does
every other one that has a body. -/
structure Http.Documented (fine : Json → Prop) (requests : List Request) : Prop where
  first : ∃ request sent, requests.head? = some request ∧ request.body = some sent
  each (request : Request) (sent : String)
    : request ∈ requests
      → request.body = some sent
      → ∃ document, Json.parse sent = .ok document ∧ fine document

theorem Http.Carry.documented {text : String} {requests : List Request} {fine : Json → Prop}
    {document : Json} (carry : Carry text requests) (read : Json.parse text = .ok document)
    (holds : fine document)
    : Documented fine requests := by
  constructor
  · obtain ⟨request, first, body⟩ := carry.first
    exact ⟨request, text, first, body⟩
  · intro request sent among body
    rcases carry.others request among with none | same
    · exact absurd (none.symm.trans body) nofun
    · obtain rfl := Option.some.inj (same.symm.trans body)
      exact ⟨document, read, holds⟩

/-- What is left of a text by trimming is blank only if the text is. -/
theorem Text.isBlankText_trim {s : String} (given : isBlankText s = false)
    : isBlankText (trim s) = false := by
  refine Bool.eq_false_iff.mpr fun blank => Bool.false_ne_true (given.symm.trans ?_)
  simp only [isBlankText, trim, String.toList_ofList, trimChars, List.all_reverse] at blank
  have front := all_of_all_dropWhile blank
  rw [List.all_reverse] at front
  exact all_of_all_dropWhile front

/-- A call makes requests only if its checks have prepared a post, and they carry its document. -/
theorem Calls.asksOnly {client : Client} {prepared : Except Failure Post} {job : Job α}
    {fine : List Request → Prop} (calls : Calls client prepared job)
    (each : ∀ post, prepared = .ok post
      → ∀ requests, Carry post.body.compact requests → fine requests)
    : job.AsksOnly fine := by
  cases calls with
  | refused failure => exact fun network past some => absurd rfl some
  | @posted post later concludes =>
      exact (Client.post_asksOnly client post concludes fun _ => id).mono (each post rfl)

section Calls

variable (context : Context)

section Termii

variable (account : Termii.Account) (message : Message)

theorem Termii.Sms.send_cleared
    : (Termii.Sms.send account context message).AsksOnly fun requests =>
        Fit account.apiKey account.senderId account.baseUrl
        ∧ Http.Documented (·.Holds "to" Phone.Dialable) requests := by
  refine (Termii.Sms.send_calls account context message).asksOnly fun post prepared => ?_
  obtain ⟨fit, recipient, found, rfl⟩ := Termii.Sms.prepare_eq_ok_iff.mp prepared
  have dials := Phone.dialable_of_digits found
  intro requests carry
  exact ⟨fit, carry.documented (Termii.Sms.parse_body ..) ⟨recipient, rfl, dials⟩⟩

theorem Termii.Otp.send_cleared
    : (Termii.Otp.send account context message).AsksOnly fun requests =>
        (Fit account.apiKey account.senderId account.baseUrl ∧ account.otp.Sound)
        ∧ Http.Documented
            (fun document =>
              document.Holds "to" Phone.Dialable
              ∧ document.Holds "message_text" account.otp.Places)
            requests := by
  refine (Termii.Otp.send_calls account context message).asksOnly fun post prepared => ?_
  obtain ⟨fit, places, recipient, found, rfl⟩ := Termii.Otp.prepare_eq_ok_iff.mp prepared
  have dials := Phone.dialable_of_digits found
  intro requests carry
  refine ⟨fit, carry.documented (Termii.Otp.parse_body ..) ⟨?_, ?_⟩⟩
  · exact ⟨recipient, rfl, dials⟩
  · exact ⟨message.text, rfl, places⟩

theorem Termii.Otp.verify_cleared (pinId pin : String)
    : (Termii.Otp.verify account context pinId pin).AsksOnly fun requests =>
        (Fit account.apiKey account.senderId account.baseUrl ∧ account.otp.Sound)
        ∧ Http.Documented
            (fun document =>
              document.Holds "pin_id" (isBlankText · = false)
              ∧ document.Holds "pin" (isBlankText · = false))
            requests := by
  refine (Termii.Otp.verify_calls account context pinId pin).asksOnly fun post prepared => ?_
  obtain ⟨fit, named, given, rfl⟩ := Termii.Otp.prepareVerify_eq_ok_iff.mp prepared
  intro requests carry
  refine ⟨fit, carry.documented (Termii.Otp.parse_verifyBody ..) ⟨?_, ?_⟩⟩
  · exact ⟨trim pinId, rfl, Text.isBlankText_trim named⟩
  · exact ⟨trim pin, rfl, Text.isBlankText_trim given⟩

end Termii

theorem SmartHive.Sms.send_cleared (account : SmartHive.Account) (message : Message)
    : (SmartHive.Sms.send account context message).AsksOnly fun requests =>
        Fit account.apiKey account.sender account.baseUrl
        ∧ Http.Documented (·.Holds "recipients" Phone.Dialable) requests := by
  refine (SmartHive.Sms.send_calls account context message).asksOnly fun post prepared => ?_
  obtain ⟨fit, recipient, found, rfl⟩ := SmartHive.Sms.prepare_eq_ok_iff.mp prepared
  have dials := Phone.dialable_of_digits found
  intro requests carry
  exact ⟨fit, carry.documented (SmartHive.Sms.parse_body ..) ⟨recipient, rfl, dials⟩⟩

end Calls

/-- Every call of a provider that makes a request has an account that is fit to send, and for
one-time passwords a sound policy, and what it sends is checked as well. -/
theorem calls_cleared (context : Context) (network : Network) (past : List Request)
    : (∀ (account : Termii.Account) (message : Message),
        let requests := ((Termii.Sms.send account context message).outcome network past).2.requests
        requests ≠ []
        → Fit account.apiKey account.senderId account.baseUrl
          ∧ Http.Documented (·.Holds "to" Phone.Dialable) requests)
      ∧ (∀ (account : Termii.Account) (message : Message),
        let requests := ((Termii.Otp.send account context message).outcome network past).2.requests
        requests ≠ []
        → (Fit account.apiKey account.senderId account.baseUrl ∧ account.otp.Sound)
          ∧ Http.Documented
              (fun document =>
                document.Holds "to" Phone.Dialable
                ∧ document.Holds "message_text" account.otp.Places)
              requests)
      ∧ (∀ (account : Termii.Account) (pinId pin : String),
        let requests :=
          ((Termii.Otp.verify account context pinId pin).outcome network past).2.requests
        requests ≠ []
        → (Fit account.apiKey account.senderId account.baseUrl ∧ account.otp.Sound)
          ∧ Http.Documented
              (fun document =>
                document.Holds "pin_id" (isBlankText · = false)
                ∧ document.Holds "pin" (isBlankText · = false))
              requests)
      ∧ (∀ (account : SmartHive.Account) (message : Message),
        let requests :=
          ((SmartHive.Sms.send account context message).outcome network past).2.requests
        requests ≠ []
        → Fit account.apiKey account.sender account.baseUrl
          ∧ Http.Documented (·.Holds "recipients" Phone.Dialable) requests) := by
  refine ⟨?_, ?_, ?_, ?_⟩
  · intro account message
    exact Termii.Sms.send_cleared context account message network past
  · intro account message
    exact Termii.Otp.send_cleared context account message network past
  · intro account pinId pin
    exact Termii.Otp.verify_cleared context account pinId pin network past
  · intro account message
    exact SmartHive.Sms.send_cleared context account message network past

/-- A message to a server that drops every connection is sent, and so it was checked. -/
theorem calls_cleared_dropped
    : let account : Termii.Account :=
        { baseUrl := "http://provider", apiKey := ⟨"secret-key"⟩, senderId := "Shop" }
      let sent :=
        (Termii.Sms.send account ⟨⟨"agent"⟩, "234", .short⟩ ⟨"08108394272", "hi"⟩).outcome
          (fun _ _ => .dropped) []
      sent.2.requests ≠ []
      ∧ Fit account.apiKey account.senderId account.baseUrl
      ∧ Http.Documented (·.Holds "to" Phone.Dialable) sent.2.requests := by
  intro account sent
  have asks : sent.2.requests ≠ [] := by decide +kernel
  exact ⟨asks, (calls_cleared _ _ _).1 account _ asks⟩

end Courier
