import Courier.Proofs.Dispatch.Clearance
import Courier.Proofs.Program.WireFormat

/-! The texts that providers are sent. A call sends the text of its message and no other one, and
whether it sends anything is told from its checks and from the request that can be made of its post,
whatever the network does.
-/

namespace Courier

open Courier.Http (Carry Client Network Post Request)
open Courier.Text (isBlankText)

variable {α : Type}

-----------------------------------------------------------------------------------------
-- Requests without a blank text
-----------------------------------------------------------------------------------------

/-- The members in which providers take the text of a message. -/
def textMembers : List String := ["sms", "message_text", "msg"]

/-- A document has no blank text of a message. -/
def Json.speaks (document : Json) : Bool :=
  textMembers.all fun name =>
    match document.get? name with
    | some (.string text) => !isBlankText text
    | _ => true

/-- A request has no body, or one that is a document without a blank text. -/
def Http.Request.speaks (request : Request) : Bool :=
  match request.body with
  | none => true
  | some sent =>
    match Json.parse sent with
    | .ok document => document.speaks
    | .error _ => false

theorem Http.Carry.speaks_iff {text : String} {requests : List Request} {document : Json}
    (carry : Carry text requests) (read : Json.parse text = .ok document)
    : (∀ request ∈ requests, request.speaks = true) ↔ document.speaks = true := by
  have speaks {request : Request} (body : request.body = some text)
      : request.speaks = document.speaks := by
    simp only [Request.speaks, body, read]
  constructor
  · intro all
    obtain ⟨request, first, body⟩ := carry.first
    rw [← speaks body]
    exact all request (List.mem_of_head? first)
  · intro fine request among
    rcases carry.others request among with none | same
    · simp only [Request.speaks, none]
    · rw [speaks same, fine]

-----------------------------------------------------------------------------------------
-- Calls
-----------------------------------------------------------------------------------------

section Calls

variable {client : Client} {prepared : Except Failure Post} {job : Job α}
  (calls : Calls client prepared job) (network : Network) (past : List Request)

include calls

/-- A call makes a request exactly when one can be made of the post that its checks prepare. -/
theorem Calls.asks_iff
    : (job.outcome network past).2.requests ≠ []
      ↔ (prepared.toOption.bind client.request?).isSome = true := by
  cases calls with
  | refused failure => exact iff_of_false (fun some => some rfl) nofun
  | @posted post later concludes =>
      have silent : ((client.post post >>= later).outcome network past).2.exchanges
          = ((client.post post).outcome network past).2.exchanges :=
        Job.exchanges_bind concludes fun _ => id
      rw [ne_eq, Trace.requests_eq_nil_iff, silent]
      change _ ↔ (client.request? post).isSome = true
      cases made : client.request? post with
      | none =>
          rw [Client.post_of_none made]
          exact iff_of_false (fun some => some rfl) nofun
      | some request =>
          obtain ⟨next, asks⟩ := Client.send_eq_ask post.provider Client.redirectLimit request
          rw [Client.exchanges_of_post made, asks]
          exact iff_of_true (List.cons_ne_nil _ _) rfl

/-- A call whose document has a text sends nothing blank exactly when the text is not blank or no
request can be made. -/
theorem Calls.speaks_iff {blank : Prop}
    (reads : ∀ post, prepared = .ok post →
      ∃ document, Json.parse post.body.compact = .ok document ∧ (document.speaks = true ↔ ¬ blank))
    : (∀ request ∈ (job.outcome network past).2.requests, request.speaks = true)
      ↔ (blank → prepared.toOption.bind client.request? = none) := by
  have asks := calls.asks_iff network past
  by_cases silent : (job.outcome network past).2.requests = []
  · rw [silent]
    refine iff_of_true nofun fun _ => ?_
    simpa [silent] using asks
  · have made := asks.mp silent
    obtain ⟨request, made⟩ := Option.isSome_iff_exists.mp made
    obtain ⟨post, is, -⟩ := Option.bind_eq_some_iff.mp made
    have prepares := toOption_eq_some_iff.mp is
    obtain ⟨document, read, speaks⟩ := reads post prepares
    have only := calls.asksOnly fun other same requests carry =>
      show Carry post.body.compact requests by
        cases prepares.symm.trans same
        exact carry
    rw [(only network past silent).speaks_iff read, speaks, made]
    simp

end Calls

-----------------------------------------------------------------------------------------
-- Documents
-----------------------------------------------------------------------------------------

theorem Termii.Sms.speaks_document (account : Termii.Account) (recipient text : String)
    : (document account recipient text).speaks = true ↔ ¬ isBlankText text = true := by
  simp [document, Json.speaks, textMembers, Json.get?]

theorem Termii.Otp.speaks_document (account : Termii.Account) (recipient template : String)
    : (document account recipient template).speaks = true ↔ ¬ isBlankText template = true := by
  simp [document, Json.speaks, textMembers, Json.get?]

theorem Termii.Otp.speaks_verifyDocument (account : Termii.Account) (pinId pin : String)
    : (verifyDocument account pinId pin).speaks = true := by
  simp [verifyDocument, Json.speaks, textMembers, Json.get?]

theorem SmartHive.Sms.speaks_document (account : SmartHive.Account) (recipient text : String)
    : (document account recipient text).speaks = true ↔ ¬ isBlankText text = true := by
  simp [document, Json.speaks, textMembers, Json.get?]

-----------------------------------------------------------------------------------------
-- Single commands
-----------------------------------------------------------------------------------------

/-- The text that a single command sends, if it sends one. -/
def Command.text? (settings : Settings) : Command → Option String
  | .sms _ text | .smarthive _ text _ _ => some text
  | .otp _ template => some (template.getD settings.termii.otp.messageText)
  | .verifyOtp .. | .all _ => none

/-- A single command has a text to send, and it is blank. -/
def Command.IsBlank (settings : Settings) (command : Command) : Prop :=
  ∃ text ∈ command.text? settings, isBlankText text = true

namespace Desk

/-- The post of a single command, if its checks prepare one. -/
def post? (desk : Desk) : Command → Option Post
  | .sms asked text =>
    (desk.recipient asked >>= fun recipient =>
      Termii.Sms.prepare desk.settings.termii desk.context ⟨recipient, text⟩).toOption
  | .otp asked template =>
    (desk.recipient asked >>= fun recipient =>
      Termii.Otp.prepare desk.settings.termii desk.context
        ⟨recipient, template.getD desk.settings.termii.otp.messageText⟩).toOption
  | .verifyOtp pinId pin => (Termii.Otp.prepareVerify desk.settings.termii pinId pin).toOption
  | .smarthive asked text flash route =>
    (desk.recipient asked >>= fun recipient =>
      SmartHive.Sms.prepare (desk.settings.smarthive.overridden flash route) desk.context
        ⟨recipient, text⟩).toOption
  | .all _ => none

/-- The first request of a single command, if it makes one. -/
def request? (desk : Desk) (command : Command) : Option Request :=
  if desk.dryRun then none else (desk.post? command).bind desk.context.client.request?

variable (desk : Desk)

theorem dispatch_of_sending (real : desk.dryRun = false) (provider : Provider) (message : Message)
    : desk.dispatch provider message
      = (provider.send message >>= fun delivery => Job.print delivery.report) := by
  rw [dispatch, if_neg (by simp [real])]

/-- Outside of a dry run a single command is a call. -/
theorem carryOut_calls {command : Command} (single : command.isBatch = false)
    (real : desk.dryRun = false)
    : ∃ prepared,
        Calls desk.context.client prepared (desk.carryOut command)
        ∧ prepared.toOption = desk.post? command := by
  cases command with
  | sms asked text =>
      rw [carryOut, post?]
      refine ⟨_, .check fun recipient => ?_, rfl⟩
      rw [desk.dispatch_of_sending real]
      exact (Termii.Sms.send_calls _ desk.context _).report _
  | otp asked template =>
      rw [carryOut, post?]
      refine ⟨_, .check fun recipient => ?_, rfl⟩
      rw [desk.dispatch_of_sending real]
      exact (Termii.Otp.send_calls _ desk.context _).report _
  | verifyOtp pinId pin =>
      rw [carryOut, verifyOtp, if_neg (by simp [real])]
      exact ⟨_, (Termii.Otp.verify_calls _ desk.context pinId pin).report _, rfl⟩
  | smarthive asked text flash route =>
      rw [carryOut, post?]
      refine ⟨_, .check fun recipient => ?_, rfl⟩
      rw [desk.dispatch_of_sending real, smartHiveProvider_eq]
      exact (SmartHive.Sms.send_calls _ desk.context _).report _
  | all asked => cases single

/-- In a dry run a single command makes no request. -/
theorem carryOut_silent {command : Command} (single : command.isBatch = false)
    (dry : desk.dryRun = true)
    : (desk.carryOut command).Abides .silent := by
  have dispatch_silent (provider : Provider) (message : Message)
      : (desk.dispatch provider message).Abides .silent := by
    rw [dispatch, if_pos dry]
    refine (Job.abides_ofExcept fun _ _ => trivial).bind fun _ => ?_
    refine (Job.abides_ofExcept fun _ _ => trivial).bind fun body => ?_
    exact .say trivial (.done ())
  cases command with
  | sms asked text | otp asked template | smarthive asked text flash route =>
      rw [carryOut]
      exact (Job.abides_ofExcept fun _ _ => trivial).bind fun recipient => dispatch_silent _ _
  | verifyOtp pinId pin =>
      rw [carryOut, verifyOtp, if_pos dry]
      refine (Job.abides_ofExcept fun _ _ => trivial).bind fun _ => ?_
      exact .say trivial (.done ())
  | all asked => cases single

/-- The post of a single command has a document with the text of the command. -/
theorem speaks_of_post? {command : Command} {post : Post} (is : desk.post? command = some post)
    : ∃ document,
        Json.parse post.body.compact = .ok document
        ∧ (document.speaks = true ↔ ¬ command.IsBlank desk.settings) := by
  cases command with
  | sms asked text =>
      rw [post?, toOption_eq_some_iff] at is
      obtain ⟨recipient, -, prepares⟩ := bind_eq_ok_iff.mp is
      obtain ⟨-, number, -, rfl⟩ := Termii.Sms.prepare_eq_ok_iff.mp prepares
      refine ⟨_, Termii.Sms.parse_body .., ?_⟩
      simp [Termii.Sms.speaks_document, Command.IsBlank, Command.text?]
  | otp asked template =>
      rw [post?, toOption_eq_some_iff] at is
      obtain ⟨recipient, -, prepares⟩ := bind_eq_ok_iff.mp is
      obtain ⟨-, -, number, -, rfl⟩ := Termii.Otp.prepare_eq_ok_iff.mp prepares
      refine ⟨_, Termii.Otp.parse_body .., ?_⟩
      simp [Termii.Otp.speaks_document, Command.IsBlank, Command.text?]
  | verifyOtp pinId pin =>
      obtain ⟨-, -, -, rfl⟩ := Termii.Otp.prepareVerify_eq_ok_iff.mp (toOption_eq_some_iff.mp is)
      refine ⟨_, Termii.Otp.parse_verifyBody .., ?_⟩
      simp [Termii.Otp.speaks_verifyDocument, Command.IsBlank, Command.text?]
  | smarthive asked text flash route =>
      rw [post?, toOption_eq_some_iff] at is
      obtain ⟨recipient, -, prepares⟩ := bind_eq_ok_iff.mp is
      obtain ⟨-, number, -, rfl⟩ := SmartHive.Sms.prepare_eq_ok_iff.mp prepares
      refine ⟨_, SmartHive.Sms.parse_body .., ?_⟩
      simp [SmartHive.Sms.speaks_document, Command.IsBlank, Command.text?]
  | all asked => cases is

/-- A single command sends nothing blank exactly when its text is not blank or it makes no
request. -/
theorem carryOut_speaks_iff {command : Command} (single : command.isBatch = false)
    (network : Network) (past : List Request)
    : (∀ request ∈ ((desk.carryOut command).outcome network past).2.requests, request.speaks = true)
      ↔ (command.IsBlank desk.settings → desk.request? command = none) := by
  cases dry : desk.dryRun with
  | true =>
      rw [(desk.carryOut_silent single dry).requests_eq_nil fun _ => id]
      exact iff_of_true nofun fun _ => by rw [request?, dry, if_pos rfl]
  | false =>
      obtain ⟨prepared, calls, is⟩ := desk.carryOut_calls single dry
      rw [request?, dry, if_neg Bool.false_ne_true, ← is]
      refine calls.speaks_iff network past fun post prepares => ?_
      exact desk.speaks_of_post? (is.symm.trans (toOption_eq_some_iff.mpr prepares))

end Desk

end Courier
