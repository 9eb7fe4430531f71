import Courier.Proofs.Dispatch.Providers
import Courier.Proofs.Http.Acceptance

/-! The calls of the providers: each of them posts once its input is checked, and is decided by that
post exactly when the answer to the post is not a redirect that is followed.
-/

namespace Courier

open Courier.Http (DecidedByPost Network Request Settles)
open Courier.Http.Client (decidedByPost_iff_settles)

variable {context : Context} {network : Network} {past : List Request} {recipient : String}

section Termii

variable {account : Termii.Account} {message : Message}

theorem Termii.Sms.send_decided_iff (checked : account.check = .ok ())
    (found : context.recipient message.recipient = .ok recipient)
    : DecidedByPost Termii.Sms.name
        ((Termii.Sms.send account context message).outcome network past)
      ↔ Settles context.client (Termii.Sms.post account recipient message.text) network past := by
  simp only [Termii.Sms.send, checked, found, Job.ofExcept, Job.finish_ok_bind]
  exact decidedByPost_iff_settles rfl fun accepted => .say rfl (.done _)

theorem Termii.Otp.send_decided_iff (checked : Termii.Otp.check account = .ok ())
    (placed : Termii.Otp.checkTemplate account message.text = .ok ())
    (found : context.recipient message.recipient = .ok recipient)
    : DecidedByPost Termii.Otp.name
        ((Termii.Otp.send account context message).outcome network past)
      ↔ Settles context.client (Termii.Otp.post account recipient message.text) network past := by
  simp only [Termii.Otp.send, checked, placed, found, Job.ofExcept, Job.finish_ok_bind]
  exact decidedByPost_iff_settles rfl fun accepted => .say rfl (.done _)

theorem Termii.Otp.verify_decided_iff {pinId pin : String}
    (checked : Termii.Otp.check account = .ok ()) (named : Text.isBlankText pinId = false)
    (given : Text.isBlankText pin = false)
    : DecidedByPost Termii.Otp.name
        ((Termii.Otp.verify account context pinId pin).outcome network past)
      ↔ Settles context.client (Termii.Otp.verifyPost account pinId pin) network past := by
  simp only [Termii.Otp.verify, checked, Termii.Otp.checkGiven, named, given, Job.ofExcept,
    Bool.false_eq_true, if_false, Job.finish_ok_bind]
  refine decidedByPost_iff_settles rfl fun accepted => ?_
  cases context.reading Termii.Otp.name Termii.Otp.Verdict.read.run accepted.body with
  | error fault => exact .fail rfl
  | ok verdict =>
      dsimp only
      split
      · exact .say rfl (.done _)
      · exact .say rfl (.fail rfl)

end Termii

theorem SmartHive.Sms.send_decided_iff {account : SmartHive.Account} {message : Message}
    (checked : account.check = .ok ())
    (found : context.recipient message.recipient = .ok recipient)
    : DecidedByPost SmartHive.Sms.name
        ((SmartHive.Sms.send account context message).outcome network past)
      ↔ Settles context.client (SmartHive.Sms.post account recipient message.text) network
          past := by
  simp only [SmartHive.Sms.send, checked, found, Job.ofExcept, Job.finish_ok_bind]
  refine decidedByPost_iff_settles rfl fun accepted => ?_
  cases context.reading SmartHive.Sms.name Json.parse accepted.body with
  | error fault => exact .fail rfl
  | ok document => exact .say rfl (.done _)

/-- Every call with good input is decided by its post exactly when the answer to the post settles
it. -/
theorem calls_decided_iff (context : Context) (network : Network) (past : List Request)
    : (∀ (account : Termii.Account) (message : Message) (recipient : String),
        account.check = .ok ()
        → context.recipient message.recipient = .ok recipient
        → (DecidedByPost Termii.Sms.name
            ((Termii.Sms.send account context message).outcome network past)
          ↔ Settles context.client (Termii.Sms.post account recipient message.text) network past))
      ∧ (∀ (account : Termii.Account) (message : Message) (recipient : String),
        Termii.Otp.check account = .ok ()
        → Termii.Otp.checkTemplate account message.text = .ok ()
        → context.recipient message.recipient = .ok recipient
        → (DecidedByPost Termii.Otp.name
            ((Termii.Otp.send account context message).outcome network past)
          ↔ Settles context.client (Termii.Otp.post account recipient message.text) network past))
      ∧ (∀ (account : Termii.Account) (pinId pin : String),
        Termii.Otp.check account = .ok ()
        → Text.isBlankText pinId = false
        → Text.isBlankText pin = false
        → (DecidedByPost Termii.Otp.name
            ((Termii.Otp.verify account context pinId pin).outcome network past)
          ↔ Settles context.client (Termii.Otp.verifyPost account pinId pin) network past))
      ∧ (∀ (account : SmartHive.Account) (message : Message) (recipient : String),
        account.check = .ok ()
        → context.recipient message.recipient = .ok recipient
        → (DecidedByPost SmartHive.Sms.name
            ((SmartHive.Sms.send account context message).outcome network past)
          ↔ Settles context.client (SmartHive.Sms.post account recipient message.text) network
              past)) := by
  refine ⟨?_, ?_, ?_, ?_⟩
  · intro account message recipient checked found
    exact Termii.Sms.send_decided_iff checked found
  · intro account message recipient checked placed found
    exact Termii.Otp.send_decided_iff checked placed found
  · intro account pinId pin checked named given
    exact Termii.Otp.verify_decided_iff checked named given
  · intro account message recipient checked found
    exact SmartHive.Sms.send_decided_iff checked found

/-- A server that redirects the first request to another path and accepts all others. -/
def redirecting : Network := fun past _ =>
  if past.isEmpty then .answer ⟨302, [("location", "/elsewhere")], some []⟩
  else .answer ⟨200, [], some []⟩

def shop : Termii.Account :=
  { baseUrl := "http://provider", apiKey := ⟨"secret-key"⟩, senderId := "Shop" }

/-- What becomes of a message on that server. -/
def redirectedSend : Except Failure Delivery × Trace :=
  (Termii.Sms.send shop ⟨⟨"agent"⟩, "234", .short⟩ ⟨"08108394272", "hi"⟩).outcome redirecting []

/-- A redirected message is reported as sent, although its post was not accepted: the answer is that
to a second request, which carries no document. -/
theorem redirected_send_undecided
    : shop.check.isOk = true
      ∧ redirectedSend.1.isOk = true
      ∧ redirectedSend.2.requests.map (fun request => (request.method, request.body.isSome))
        = [(.post, true), (.get, false)]
      ∧ ¬ DecidedByPost Termii.Sms.name redirectedSend := by
  have ran
      : (redirectedSend.1.isOk,
          redirectedSend.2.requests.map fun request => (request.method, request.body.isSome))
        = (true, [(.post, true), (.get, false)]) := by
    decide +kernel
  obtain ⟨succeeds, asks⟩ := Prod.mk.inj ran
  refine ⟨by decide +kernel, succeeds, asks, ?_⟩
  intro decided
  have twice : redirectedSend.2.requests.length = 2 := by
    simpa using congrArg List.length asks
  have once := decided.once
  omega

end Courier
