import Courier.Dispatch.Desk
import Courier.Proofs.Http.Posting

/-! The one form of all calls of providers. A call makes its checks, which prepare a post, makes
that post, and draws a conclusion from the answer, which takes no further request. So what is to be
shown of a call is shown of its checks and of a post.
-/

namespace Courier

open Courier.Http (Accepted Client Post)

variable {α β : Type} {client : Client}

/-- The rules of a conclusion: complaints are left to others, no request is made, and no failure
blames what was given. -/
def Job.Rules.concluding : Job.Rules where
  note note := note.isComplaint = false
  request _ := False
  failure failure := failure.isDispatchFailure = true

/-- A failed dispatch blames nothing that was given. -/
theorem Job.Abides.receiving {job : Job α} (abides : job.Abides .concluding)
    : job.Abides .receiving := by
  refine abides.weaken (fun _ => id) (fun _ => id) fun failure dispatch => ?_
  cases failure with
  | transport | status | malformed | batch | rejected => rfl
  | invalid | invalidFields | configuration | internal => cases dispatch

/-- A job is a call: it fails with the failure of its checks, or makes the post that they prepare
and draws a conclusion. -/
inductive Calls (client : Client) : Except Failure Post → Job α → Prop
  | refused (failure : Failure) : Calls client (.error failure) (.fail failure)
  | posted {post : Post} {later : Accepted → Job α}
    (concludes : ∀ accepted, (later accepted).Abides .concluding)
    : Calls client (.ok post) (client.post post >>= later)

/-- A check that comes before what is prepared. -/
theorem Calls.check {check : Except Failure β} {prepare : β → Except Failure Post}
    {send : β → Job α} (calls : ∀ b, Calls client (prepare b) (send b))
    : Calls client (check >>= prepare) (Job.ofExcept check >>= send) := by
  cases check with
  | ok b => exact calls b
  | error failure => exact .refused failure

/-- A report of what was concluded. -/
theorem Calls.report {prepared : Except Failure Post} {job : Job α}
    (calls : Calls client prepared job) (report : α → String)
    : Calls client prepared (job >>= fun a => Job.print (report a)) := by
  cases calls with
  | refused failure => exact .refused failure
  | @posted post later concludes =>
      have reports (accepted : Accepted)
          : (later accepted >>= fun a => Job.print (report a)).Abides .concluding :=
        (concludes accepted).bind fun a => .say rfl (.done ())
      rw [Job.bind_assoc]
      exact .posted reports

-----------------------------------------------------------------------------------------
-- The calls of the providers
-----------------------------------------------------------------------------------------

namespace Termii

variable (account : Account) (context : Context) (message : Message)

/-- The post of a short message. -/
def Sms.prepare : Except Failure Post := do
  account.check
  let recipient ← context.recipient message.recipient
  return post account recipient message.text

theorem Sms.send_calls
    : Calls context.client (prepare account context message) (send account context message) := by
  refine .check fun _ => .check fun recipient => .posted fun accepted => ?_
  exact .say rfl (.done _)

/-- The post of a one-time password. -/
def Otp.prepare : Except Failure Post := do
  check account
  checkTemplate account message.text
  let recipient ← context.recipient message.recipient
  return post account recipient message.text

theorem Otp.send_calls
    : Calls context.client (prepare account context message) (send account context message) := by
  refine .check fun _ => .check fun _ => .check fun recipient => .posted fun accepted => ?_
  exact .say rfl (.done _)

/-- The post of a confirmation. -/
def Otp.prepareVerify (pinId pin : String) : Except Failure Post := do
  check account
  checkGiven "pin_id" "Pin id cannot be empty" pinId
  checkGiven "pin" "Pin cannot be empty" pin
  return verifyPost account pinId pin

theorem Otp.verify_calls (pinId pin : String)
    : Calls context.client (prepareVerify account pinId pin)
        (verify account context pinId pin) := by
  refine .check fun _ => .check fun _ => .check fun _ => .posted fun accepted => ?_
  cases context.reading name Verdict.read.run accepted.body with
  | error fault => exact .fail rfl
  | ok verdict =>
      dsimp only
      split
      · exact .say rfl (.done _)
      · exact .say rfl (.fail rfl)

end Termii

namespace SmartHive.Sms

/-- The post of a short message. -/
def prepare (account : Account) (context : Context) (message : Message) : Except Failure Post := do
  account.check
  let recipient ← context.recipient message.recipient
  return post account recipient message.text

theorem send_calls (account : Account) (context : Context) (message : Message)
    : Calls context.client (prepare account context message) (send account context message) := by
  refine .check fun _ => .check fun recipient => .posted fun accepted => ?_
  cases context.reading name Json.parse accepted.body with
  | error fault => exact .fail rfl
  | ok document => exact .say rfl (.done _)

end SmartHive.Sms

end Courier
