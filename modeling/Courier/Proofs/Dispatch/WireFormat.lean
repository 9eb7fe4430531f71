import Courier.Proofs.Dispatch.Bodies
import Courier.Proofs.Dispatch.Checks
import Courier.Proofs.Http.WireFormat

/-! The wire format of posts: the address, the headers and the document of the request that is made
of each provider's post.
-/

namespace Courier

open Courier.Http (Client Post Request)
open Courier.Text (dropLeading dropTrailing)

variable {α : Type}

-----------------------------------------------------------------------------------------
-- The requests of the providers
-----------------------------------------------------------------------------------------

/-- A call begins with the request that is made of the post that its checks prepare. -/
theorem Calls.beginsWith {client : Client} {prepared : Except Failure Post} {job : Job α}
    {wanted : Request → Prop} (calls : Calls client prepared job)
    (each : ∀ post, prepared = .ok post
      → ∀ request, client.request? post = some request → wanted request)
    : job.BeginsWith wanted := by
  cases calls with
  | refused failure => exact .finish _
  | @posted post later concludes =>
      have begins := (Client.post_beginsWith client post).mono (each post rfl)
      exact begins.bind fun accepted => (concludes accepted).beginsWith fun _ => id

/-- An address has one slash between the server and the path. -/
theorem Termii.Account.endpoint_eq (account : Termii.Account) {path : String}
    (slashed : "/" ++ dropLeading '/' path = path)
    : account.endpoint path = dropTrailing '/' account.baseUrl ++ path := by
  rw [endpoint, String.append_assoc, slashed]

namespace Termii

variable {account : Account} {context : Context} {message : Message} {post : Post}
  {request : Request}

theorem Sms.posts_of_prepare (prepared : Sms.prepare account context message = .ok post)
    (made : context.client.request? post = some request)
    : Fit account.apiKey account.senderId account.baseUrl
      ∧ ∃ number,
        Phone.digits message.recipient context.countryCode = .ok number
        ∧ request.Posts (dropTrailing '/' account.baseUrl ++ "/api/sms/send") []
            (Sms.document account number message.text) := by
  obtain ⟨fit, number, found, rfl⟩ := Sms.prepare_eq_ok_iff.mp prepared
  have posts := Client.posts_of_request? [] rfl (Sms.parse_body account number message.text) made
  rw [Sms.post, account.endpoint_eq (by decide)] at posts
  exact ⟨fit, number, found, posts⟩

theorem Otp.posts_of_prepare (prepared : Otp.prepare account context message = .ok post)
    (made : context.client.request? post = some request)
    : Fit account.apiKey account.senderId account.baseUrl
      ∧ ∃ number,
        Phone.digits message.recipient context.countryCode = .ok number
        ∧ request.Posts (dropTrailing '/' account.baseUrl ++ "/api/sms/otp/send") []
            (Otp.document account number message.text) := by
  obtain ⟨⟨fit, _⟩, _, number, found, rfl⟩ := Otp.prepare_eq_ok_iff.mp prepared
  have posts := Client.posts_of_request? [] rfl (Otp.parse_body account number message.text) made
  rw [Otp.post, account.endpoint_eq (by decide)] at posts
  exact ⟨fit, number, found, posts⟩

theorem Otp.posts_of_prepareVerify {pinId pin : String}
    (prepared : Otp.prepareVerify account pinId pin = .ok post)
    (made : context.client.request? post = some request)
    : Fit account.apiKey account.senderId account.baseUrl
      ∧ request.Posts (dropTrailing '/' account.baseUrl ++ "/api/sms/otp/verify") []
          (Otp.verifyDocument account pinId pin) := by
  obtain ⟨⟨fit, _⟩, _, _, rfl⟩ := Otp.prepareVerify_eq_ok_iff.mp prepared
  have posts := Client.posts_of_request? [] rfl (Otp.parse_verifyBody account pinId pin) made
  rw [Otp.verifyPost, account.endpoint_eq (by decide)] at posts
  exact ⟨fit, posts⟩

variable (account context message)

theorem Sms.send_posts
    : (Sms.send account context message).BeginsWith fun request =>
        ∃ number,
          Phone.digits message.recipient context.countryCode = .ok number
          ∧ request.Posts (dropTrailing '/' account.baseUrl ++ "/api/sms/send") []
              (Sms.document account number message.text) :=
  (Sms.send_calls account context message).beginsWith fun _ prepared _ made =>
    (Sms.posts_of_prepare prepared made).2

theorem Otp.send_posts
    : (Otp.send account context message).BeginsWith fun request =>
        ∃ number,
          Phone.digits message.recipient context.countryCode = .ok number
          ∧ request.Posts (dropTrailing '/' account.baseUrl ++ "/api/sms/otp/send") []
              (Otp.document account number message.text) :=
  (Otp.send_calls account context message).beginsWith fun _ prepared _ made =>
    (Otp.posts_of_prepare prepared made).2

theorem Otp.verify_posts (pinId pin : String)
    : (Otp.verify account context pinId pin).BeginsWith fun request =>
        request.Posts (dropTrailing '/' account.baseUrl ++ "/api/sms/otp/verify") []
          (Otp.verifyDocument account pinId pin) :=
  (Otp.verify_calls account context pinId pin).beginsWith fun _ prepared _ made =>
    (Otp.posts_of_prepareVerify prepared made).2

end Termii

namespace SmartHive.Sms

variable {account : Account} {context : Context} {message : Message} {post : Post}
  {request : Request}

theorem posts_of_prepare (prepared : prepare account context message = .ok post)
    (made : context.client.request? post = some request)
    : Fit account.apiKey account.sender account.baseUrl
      ∧ ∃ number,
        Phone.digits message.recipient context.countryCode = .ok number
        ∧ request.Posts (dropTrailing '/' account.baseUrl ++ "/api/sms/send")
            [account.apiKey.secret] (document account number message.text) := by
  obtain ⟨fit, number, found, rfl⟩ := prepare_eq_ok_iff.mp prepared
  exact ⟨fit, number, found,
    Client.posts_of_request? [_] rfl (parse_body account number message.text) made⟩

theorem send_posts (account : Account) (context : Context) (message : Message)
    : (send account context message).BeginsWith fun request =>
        ∃ number,
          Phone.digits message.recipient context.countryCode = .ok number
          ∧ request.Posts (dropTrailing '/' account.baseUrl ++ "/api/sms/send")
              [account.apiKey.secret] (document account number message.text) :=
  (send_calls account context message).beginsWith fun _ prepared _ made =>
    (posts_of_prepare prepared made).2

end SmartHive.Sms

end Courier
