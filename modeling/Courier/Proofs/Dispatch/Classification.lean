import Courier.Proofs.Dispatch.WireFormat
import Courier.Proofs.Http.Endings

/-! What becomes of messages. The ending of its requests decides the result of a message, and the
result decides what is recorded and what is printed of it.
-/

namespace Courier

open Courier.Http (Accepted Client Ending Network Post Request Settled Strands ending isSuccess)
open Courier.Http.Client (addressCauses canRequest redirectLimit request? unmakeable)
open Courier.Text (dropTrailing)

-----------------------------------------------------------------------------------------
-- Addresses
-----------------------------------------------------------------------------------------

namespace Http.Client

/-- A text is an address to which a request can be made. -/
def Requestable (address : String) : Prop :=
  ∃ url, Url.parse? address = some url ∧ canRequest url = true

instance decidableRequestable (address : String) : Decidable (Requestable address) :=
  decidable_of_iff ((Url.parse? address).any canRequest = true) (Option.any_eq_true _ _)

/-- A post with legal headers is a request exactly when one can be made to its address. -/
theorem request?_isSome_iff (client : Client) {post : Post}
    (legal : ∀ header ∈ post.headers, isHeaderName header.1 ∧ isHeaderValue header.2)
    : (client.request? post).isSome = true ↔ Requestable post.url := by
  have all : (post.headers.all fun h => isHeaderName h.1 && isHeaderValue h.2) = true := by
    simpa [List.all_eq_true] using fun name value => legal (name, value)
  rw [request?, Requestable]
  cases Url.parse? post.url with
  | none => simp
  | some url =>
      dsimp only
      rw [all, Bool.and_true]
      cases can : canRequest url <;> simp [can]

/-- Where its headers can be sent, what is said of a post is said of its address. -/
theorem buildCauses_of_legal {post : Post}
    (legal : ∀ header ∈ post.headers, isHeaderName header.1 ∧ isHeaderValue header.2)
    : buildCauses post = addressCauses post.url := by
  have none : unsendable? post.headers = none := by
    apply Option.map_eq_none_iff.mpr
    apply List.find?_eq_none.mpr
    intro header among
    simp [legal header among]
  rw [buildCauses, none]

/-- What a post comes to whose answer is judged: where no request can be made to its address,
nothing is sent, and where its requests are not stranded, it is settled by their ending and then
judged. -/
structure Judged {α : Type} (post : Post) (judge : Accepted → Except Failure α)
    (outcome : Except Failure α × Trace) : Prop where
  unmade
    : ¬ Requestable post.url
      → outcome.1 = .error (unmakeable post.provider (addressCauses post.url))
        ∧ outcome.2.exchanges = []
  settled
    : Requestable post.url
      → ¬ Strands redirectLimit outcome.2.exchanges
      → ∃ posted,
        Settled post.provider (ending outcome.2.exchanges) posted
        ∧ outcome.1 = posted >>= judge

/-- What follows a post and makes no request is the judgement of its answer. -/
theorem post_judged {α : Type} {client : Client} {post : Post} {network : Network}
    {past : List Request} {later : Accepted → Job α} {judge : Accepted → Except Failure α}
    {rules : Job.Rules}
    (legal : ∀ header ∈ post.headers, isHeaderName header.1 ∧ isHeaderValue header.2)
    (judges : ∀ accepted past, ((later accepted).outcome network past).1 = judge accepted)
    (abides : ∀ accepted, (later accepted).Abides rules)
    (none : ∀ request, ¬ rules.request request)
    : Judged post judge ((client.post post >>= later).outcome network past) := by
  have made_iff := client.request?_isSome_iff legal
  have result : ((client.post post >>= later).outcome network past).1
      = ((client.post post).outcome network past).1 >>= judge :=
    Job.result_bind network past judges
  have exchanges : ((client.post post >>= later).outcome network past).2.exchanges
      = ((client.post post).outcome network past).2.exchanges :=
    Job.exchanges_bind abides none
  constructor
  · intro cannot
    have unmade : client.request? post = .none := by simpa using mt made_iff.mp cannot
    rw [exchanges, result, post_of_none unmade, buildCauses_of_legal legal]
    exact ⟨rfl, rfl⟩
  · intro can afloat
    rw [exchanges] at afloat ⊢
    obtain ⟨request, made⟩ := Option.isSome_iff_exists.mp (made_iff.mpr can)
    exact ⟨_, post_settled made afloat, result⟩

end Http.Client

-----------------------------------------------------------------------------------------
-- Conclusions
-----------------------------------------------------------------------------------------

/-- The conclusion that a provider of messages draws from an accepted post: it reads the answer and
records the delivery. -/
def conclude (provider : String) (read : String → Except Json.Misreading Answer)
    (event : Accepted → Log.Event) (accepted : Accepted)
    : Job Delivery :=
  match read accepted.body with
  | .error fault => .fail (.malformed provider accepted.status accepted.body fault)
  | .ok answer => do
    Job.record (event accepted)
    return ⟨provider, accepted.status, answer⟩

/-- An answer that is taken as it is. -/
def Answer.verbatim (text : String) : Except Json.Misreading Answer := .ok (.text text)

/-- An answer that is taken as a document, with faults in the words of the provider's reader. -/
def Answer.document (context : Context) (provider text : String)
    : Except Json.Misreading Answer :=
  (context.reading provider Json.parse text).map .json

/-- The result of a message, told from the ending of its requests. -/
structure Classified (provider : String) (read : String → Except Json.Misreading Answer)
    (ending : Ending) (result : Except Failure Delivery) : Prop where
  delivered (delivery : Delivery)
    : result = .ok delivery
      ↔ ∃ status text answer,
        ending = .whole status text
        ∧ (200 ≤ status ∧ status ≤ 299)
        ∧ read text = .ok answer
        ∧ delivery = ⟨provider, status, answer⟩
  malformed (status : Nat) (text : String) (fault : Json.Misreading)
    : result = .error (.malformed provider status text fault)
      ↔ ending = .whole status text ∧ (200 ≤ status ∧ status ≤ 299) ∧ read text = .error fault
  refused (status : Nat) (text : String)
    : result = .error (.status provider status text)
      ↔ ending = .whole status text ∧ ¬ (200 ≤ status ∧ status ≤ 299)
  unanswered : (∃ causes, result = .error (.transport provider causes)) ↔ ending = .lost
  named (failure : Failure) : result = .error failure → failure.provider? = some provider

theorem Http.isSuccess_iff (status : Nat)
    : isSuccess status = true ↔ 200 ≤ status ∧ status ≤ 299 := by
  simp [isSuccess]

/-- What a conclusion makes of an accepted post. -/
def concluded (provider : String) (read : String → Except Json.Misreading Answer)
    (accepted : Accepted)
    : Except Failure Delivery :=
  match read accepted.body with
  | .error fault => .error (.malformed provider accepted.status accepted.body fault)
  | .ok answer => .ok ⟨provider, accepted.status, answer⟩

/-- A post that is settled by its ending is classified by it, whatever its answer reads as. -/
theorem Http.Settled.classified {provider : String} {ending : Ending}
    {posted : Except Failure Accepted} (settled : Settled provider ending posted)
    (read : String → Except Json.Misreading Answer)
    : Classified provider read ending (posted >>= concluded provider read) := by
  have success_iff := isSuccess_iff
  cases settled with
  | @accepted status text success =>
      simp only [bind, Except.bind, concluded]
      cases reads : read text with
      | error fault => constructor <;> grind [Failure.provider?]
      | ok answer => constructor <;> grind [Failure.provider?]
  | refused unsuccessful =>
      simp only [bind, Except.bind]
      constructor <;> grind [Failure.provider?]
  | lost causes =>
      simp only [bind, Except.bind]
      constructor <;> grind [Failure.provider?]

section Concluded

variable {job : Job Accepted} {network : Network} {past : List Request} {provider : String}
  {read : String → Except Json.Misreading Answer} {event : Accepted → Log.Event}

theorem result_conclude (accepted : Accepted)
    : ((conclude provider read event accepted).outcome network past).1
      = concluded provider read accepted := by
  rw [conclude, concluded]
  cases read accepted.body <;> rfl

/-- A conclusion only records, and it asks nothing more. -/
theorem conclude_abides (accepted : Accepted)
    : (conclude provider read event accepted).Abides
        { Job.Rules.recording fun _ => True with request := fun _ => False } := by
  rw [conclude]
  cases read accepted.body with
  | error fault => exact .fail trivial
  | ok answer =>
      refine .say ?_ (.done _)
      exact ⟨_, rfl, trivial⟩

/-- An answer that can be read is recorded with one event for the operator. -/
theorem infos_conclude_of_reads {accepted : Accepted} {trace : Trace} {answer : Answer}
    (ended : job.outcome network past = (.ok accepted, trace)) (quiet : trace.infos = [])
    (info : (event accepted).level = .info) (reads : read accepted.body = .ok answer)
    : ((job >>= conclude provider read event).outcome network past).2.infos
      = [event accepted] := by
  rw [Job.outcome_bind_ok network past ended]
  dsimp only
  rw [Trace.infos_append, quiet, conclude, reads]
  have kept : Trace.infos ⟨[.note (.record (event accepted))]⟩ = [event accepted] :=
    List.filter_cons_of_pos (by simpa using info)
  exact kept

/-- A post whose requests end with an accepted answer that can be read comes to the delivery of this
answer, which is recorded with one event. -/
theorem delivered_of_whole {client : Client} {post : Post} {status : Nat} {text : String}
    {answer : Answer}
    (whole
      : ending ((client.post post >>= conclude provider read event).outcome network
          past).2.exchanges
        = .whole status text)
    (success : 200 ≤ status ∧ status ≤ 299) (info : (event ⟨status, text⟩).level = .info)
    (reads : read text = .ok answer)
    : let ran := (client.post post >>= conclude provider read event).outcome network past
      ran.1 = .ok ⟨provider, status, answer⟩ ∧ ran.2.infos = [event ⟨status, text⟩] := by
  rw [Job.exchanges_bind conclude_abides fun _ => id] at whole
  have result := Client.post_accepted whole ((Http.isSuccess_iff status).mpr success)
  have quiet : ((client.post post).outcome network past).2.infos = [] :=
    (client.post_recording post).infos_eq_nil
  rcases ended : (client.post post).outcome network past with ⟨posted, trace⟩
  rw [ended] at result quiet
  obtain rfl : posted = .ok ⟨status, text⟩ := result
  refine ⟨?_, infos_conclude_of_reads ended quiet info reads⟩
  rw [Job.outcome_bind_ok network past ended, result_conclude, concluded]
  simp only [reads]

/-- A conclusion records one event for the operator if it ends with a delivery, and none else. -/
theorem infos_conclude (quiet : (job.outcome network past).2.infos = [])
    (info : ∀ accepted, (event accepted).level = .info)
    : let whole := (job >>= conclude provider read event).outcome network past
      whole.2.infos.length = if whole.1.isOk then 1 else 0 := by
  rcases ended : job.outcome network past with ⟨result, trace⟩
  rw [ended] at quiet
  cases result with
  | error failure =>
      rw [Job.outcome_bind_error network past ended]
      exact congrArg List.length quiet
  | ok accepted =>
      cases reads : read accepted.body with
      | error fault =>
          rw [Job.outcome_bind_ok network past ended]
          dsimp only
          rw [Trace.infos_append, quiet, conclude, reads]
          rfl
      | ok answer =>
          dsimp only
          rw [infos_conclude_of_reads ended quiet (info accepted) reads,
            Job.outcome_bind_ok network past ended, conclude, reads]
          rfl

end Concluded

-----------------------------------------------------------------------------------------
-- Messages
-----------------------------------------------------------------------------------------

/-- What a message to an address comes to: what a provider makes of it, and what the desk tells of
that. -/
structure Conducted (provider : String) (read : String → Except Json.Misreading Answer)
    (address : String) (sent : Except Failure Delivery × Trace)
    (handled : Except Failure Unit × Trace) : Prop where
  unmade
    : ¬ Client.Requestable address
      → sent.1 = .error (unmakeable provider (addressCauses address)) ∧ sent.2.exchanges = []
  classified
    : Client.Requestable address
      → ¬ Strands redirectLimit sent.2.exchanges
      → Classified provider read (ending sent.2.exchanges) sent.1
  logged : sent.2.infos.length = if sent.1.isOk then 1 else 0
  told : handled.1 = sent.1.map fun _ => ()
  printed
    : handled.2.stdout
      = match sent.1 with
        | .ok delivery => delivery.report ++ "\n"
        | .error _ => ""

section Providers

variable {desk : Desk} {message : Message} {recipient : String} (network : Network)
  (past : List Request)

/-- A message that only records prints what the desk reports of it. -/
theorem outcome_report {send : Job Delivery} (records : send.Abides (.recording fun _ => True))
    : let sent := send.outcome network past
      let handled := (send >>= fun delivery => Job.print delivery.report).outcome network past
      handled.1 = sent.1.map (fun _ => ())
      ∧ handled.2.stdout
        = match sent.1 with
          | .ok delivery => delivery.report ++ "\n"
          | .error _ => "" := by
  intro sent handled
  have silent : sent.2.stdout = "" := records.stdout_eq_empty
  rcases ended : sent with ⟨result, trace⟩
  rw [ended] at silent
  cases result with
  | error failure =>
      have whole : handled = (.error failure, trace) :=
        Job.outcome_bind_error network past ended _
      rw [whole]
      exact ⟨rfl, silent⟩
  | ok delivery =>
      have whole : handled = (.ok (), trace ++ ⟨[.note (.print (delivery.report ++ "\n"))]⟩) :=
        Job.outcome_bind_ok network past ended _
      rw [whole]
      refine ⟨rfl, ?_⟩
      rw [Trace.stdout_append, silent, String.empty_append]
      simp [Trace.stdout, Effect.print?]

/-- A provider sends a message as a post and draws its conclusion from the answer. -/
def Concludes (client : Client) (post : Post) (provider : String)
    (read : String → Except Json.Misreading Answer) (send : Job Delivery) : Prop :=
  ∃ event : Accepted → Log.Event,
    (∀ accepted, (event accepted).level = .info)
    ∧ send = client.post post >>= conclude provider read event

/-- A message that passes the checks is conducted as its post is settled. -/
theorem Concludes.conducted (provider : Provider) {client : Client} {post : Post}
    {read : String → Except Json.Misreading Answer} (real : desk.dryRun = false)
    (legal
      : ∀ header ∈ post.headers, Http.isHeaderName header.1 ∧ Http.isHeaderValue header.2)
    (concludes : Concludes client post post.provider read (provider.send message))
    : Conducted post.provider read post.url ((provider.send message).outcome network past)
        ((desk.dispatch provider message).outcome network past) := by
  obtain ⟨event, info, sends⟩ := concludes
  have handles : desk.dispatch provider message
      = (provider.send message >>= fun delivery => Job.print delivery.report) := by
    rw [Desk.dispatch, if_neg (by simp [real])]
  have quiet : ((client.post post).outcome network past).2.infos = [] :=
    (client.post_recording post).infos_eq_nil
  have records : (provider.send message).Abides (.recording fun _ => True) := by
    rw [sends]
    refine Job.Abides.bind ?_ fun accepted => ?_
    · refine (client.post_recording post).weaken ?_ (fun _ => id) (fun _ => id)
      exact fun note ⟨event, recorded, _⟩ => ⟨event, recorded, trivial⟩
    · exact (conclude_abides accepted).weaken (fun _ => id) (fun _ => False.elim) (fun _ => id)
  have judged : Client.Judged post (concluded post.provider read)
      ((provider.send message).outcome network past) := by
    rw [sends]
    exact Client.post_judged legal (fun accepted _ => result_conclude accepted) conclude_abides
      fun _ => id
  obtain ⟨told, printed⟩ := outcome_report network past records
  rw [← handles] at told printed
  refine ⟨judged.unmade, ?_, ?_, told, printed⟩
  · intro can afloat
    obtain ⟨posted, settled, ends⟩ := judged.settled can afloat
    rw [ends]
    exact settled.classified read
  · rw [sends]
    exact infos_conclude quiet info

/-- The event of a short message that is accepted. -/
def smsDispatched (place provider recipient : String) (accepted : Accepted) : Log.Event :=
  ⟨.info, place, "SMS dispatched",
    [("provider", .text provider), ("recipient", .text recipient),
      ("status", .number accepted.status)]⟩

theorem Termii.Sms.send_conducted {account : Termii.Account} (real : desk.dryRun = false)
    (checked : account.check = .ok ())
    (found : desk.context.recipient message.recipient = .ok recipient)
    : Conducted name Answer.verbatim (dropTrailing '/' account.baseUrl ++ "/api/sms/send")
        ((send account desk.context message).outcome network past)
        ((desk.dispatch (provider account desk.context) message).outcome network past) := by
  have concludes : Concludes desk.context.client (post account recipient message.text) name
      Answer.verbatim (send account desk.context message) := by
    refine ⟨smsDispatched place name recipient, fun _ => rfl, ?_⟩
    simp only [send, checked, found, Job.ofExcept, Job.finish_ok_bind]
    rfl
  have whole := concludes.conducted network past (provider account desk.context) real
    (by simp [post])
  rwa [post, account.endpoint_eq (by decide)] at whole

/-- The event of an accepted template is one that an operator is to see. -/
theorem Termii.Otp.level_dispatchedEvent (recipient : String) (accepted : Accepted)
    : (dispatchedEvent recipient accepted).level = .info := by
  rw [dispatchedEvent]
  split <;> rfl

/-- A template that passes the checks is a post whose answer is taken as it is. -/
theorem Termii.Otp.send_eq_conclude {account : Termii.Account} {context : Context}
    (checked : check account = .ok ()) (placed : checkTemplate account message.text = .ok ())
    (found : context.recipient message.recipient = .ok recipient)
    : send account context message
      = context.client.post (post account recipient message.text)
        >>= conclude name Answer.verbatim (dispatchedEvent recipient) := by
  simp only [send, checked, placed, found, Job.ofExcept, Job.finish_ok_bind]
  rfl

theorem Termii.Otp.send_conducted {account : Termii.Account} (real : desk.dryRun = false)
    (checked : check account = .ok ()) (placed : checkTemplate account message.text = .ok ())
    (found : desk.context.recipient message.recipient = .ok recipient)
    : Conducted name Answer.verbatim (dropTrailing '/' account.baseUrl ++ "/api/sms/otp/send")
        ((send account desk.context message).outcome network past)
        ((desk.dispatch (provider account desk.context) message).outcome network past) := by
  have concludes : Concludes desk.context.client (post account recipient message.text) name
      Answer.verbatim (send account desk.context message) :=
    ⟨dispatchedEvent recipient, level_dispatchedEvent recipient,
      send_eq_conclude checked placed found⟩
  have whole := concludes.conducted network past (provider account desk.context) real
    (by simp [post])
  rwa [post, account.endpoint_eq (by decide)] at whole

/-- A message that passes the checks is a post whose answer is taken as a document. -/
theorem SmartHive.Sms.send_eq_conclude {account : SmartHive.Account} {context : Context}
    (checked : account.check = .ok ())
    (found : context.recipient message.recipient = .ok recipient)
    : send account context message
      = context.client.post (post account recipient message.text)
        >>= conclude name (Answer.document context name)
          (smsDispatched place name recipient) := by
  simp only [send, checked, found, Job.ofExcept, Job.finish_ok_bind]
  refine congrArg _ (funext fun accepted => ?_)
  rw [conclude, Answer.document]
  cases context.reading name Json.parse accepted.body <;> rfl

theorem SmartHive.Sms.send_conducted {account : SmartHive.Account} (real : desk.dryRun = false)
    (checked : account.check = .ok ())
    (found : desk.context.recipient message.recipient = .ok recipient)
    : Conducted name (Answer.document desk.context name)
        (dropTrailing '/' account.baseUrl ++ "/api/sms/send")
        ((send account desk.context message).outcome network past)
        ((desk.dispatch (provider account desk.context) message).outcome network past) := by
  have concludes : Concludes desk.context.client (post account recipient message.text) name
      (Answer.document desk.context name) (send account desk.context message) :=
    ⟨smsDispatched place name recipient, fun _ => rfl, send_eq_conclude checked found⟩
  have legal := (account.check_eq_ok_iff.mp checked).keyLegal
  refine concludes.conducted network past (provider account desk.context) real ?_
  simp only [post, List.mem_singleton, forall_eq]
  exact ⟨by decide, legal⟩

end Providers

/-- Every message that passes the local checks is classified by the answer that its requests end
with, unless no request can be made to the configured address: then nothing is sent. One event is
recorded for a delivery and none otherwise, and only a delivery is printed. -/
theorem sends_classified (desk : Desk) (real : desk.dryRun = false) (message : Message)
    (recipient : String) (found : desk.context.recipient message.recipient = .ok recipient)
    (network : Network) (past : List Request)
    : (∀ account : Termii.Account,
        account.check = .ok ()
        → Conducted Termii.Sms.name Answer.verbatim
            (dropTrailing '/' account.baseUrl ++ "/api/sms/send")
            ((Termii.Sms.send account desk.context message).outcome network past)
            ((desk.dispatch (Termii.Sms.provider account desk.context) message).outcome network
              past))
      ∧ (∀ account : Termii.Account,
        Termii.Otp.check account = .ok ()
        → Termii.Otp.checkTemplate account message.text = .ok ()
        → Conducted Termii.Otp.name Answer.verbatim
            (dropTrailing '/' account.baseUrl ++ "/api/sms/otp/send")
            ((Termii.Otp.send account desk.context message).outcome network past)
            ((desk.dispatch (Termii.Otp.provider account desk.context) message).outcome network
              past))
      ∧ (∀ account : SmartHive.Account,
        account.check = .ok ()
        → Conducted SmartHive.Sms.name (Answer.document desk.context SmartHive.Sms.name)
            (dropTrailing '/' account.baseUrl ++ "/api/sms/send")
            ((SmartHive.Sms.send account desk.context message).outcome network past)
            ((desk.dispatch (SmartHive.Sms.provider account desk.context) message).outcome network
              past)) := by
  refine ⟨?_, ?_, ?_⟩
  · intro account checked
    exact Termii.Sms.send_conducted network past real checked found
  · intro account checked placed
    exact Termii.Otp.send_conducted network past real checked placed found
  · intro account checked
    exact SmartHive.Sms.send_conducted network past real checked found

section Runs

/-- An account with a blank after its address, which the check allows. -/
def spacedAccount : Termii.Account :=
  { baseUrl := "http://provider ", apiKey := ⟨"secret-key"⟩, senderId := "Shop" }

/-- A server that accepts everything. -/
def accepting : Network := fun _ _ => .answer ⟨200, [], some "done".toUTF8.toList⟩

/-- A desk for real, with the default settings. -/
def openDesk : Desk := ⟨{}, ⟨⟨"agent"⟩, "234", .short⟩, false⟩

/-- What becomes of a message to the address with a blank. -/
def spacedSend : Except Failure Delivery × Trace :=
  (Termii.Sms.send spacedAccount openDesk.context ⟨"08108394272", "hi"⟩).outcome accepting []

/-- A message can pass the checks and fail before anything is sent: the address that follows from
the account's is none to which a request can be made. -/
theorem spacedSend_unclassified
    : spacedAccount.check = .ok ()
      ∧ openDesk.context.recipient "08108394272" = .ok "2348108394272"
      ∧ spacedSend.1
        = .error (.configuration Termii.Sms.name
          (.texts
            ["Failed to build request", "builder error", "invalid international domain name"]))
      ∧ spacedSend.2.exchanges = []
      ∧ ¬ Classified Termii.Sms.name Answer.verbatim (ending spacedSend.2.exchanges)
          spacedSend.1 := by
  have checked : spacedAccount.check = .ok () := by decide +kernel
  have found : openDesk.context.recipient "08108394272" = .ok "2348108394272" := by
    decide +kernel
  have conducted
      : Conducted Termii.Sms.name Answer.verbatim _ spacedSend
          ((openDesk.dispatch (Termii.Sms.provider spacedAccount openDesk.context)
            ⟨"08108394272", "hi"⟩).outcome accepting []) :=
    Termii.Sms.send_conducted accepting [] rfl checked found
  obtain ⟨fails, unsent⟩ := conducted.unmade (by decide +kernel)
  have causes
      : addressCauses (dropTrailing '/' spacedAccount.baseUrl ++ "/api/sms/send")
        = ["builder error", "invalid international domain name"] := by
    decide +kernel
  rw [unmakeable, causes] at fails
  refine ⟨checked, found, fails, unsent, fun classified => ?_⟩
  obtain ⟨causes, transport⟩ := classified.unanswered.mpr (congrArg ending unsent)
  cases fails.symm.trans transport

/-- Without the blank the message is sent, and the text of the answer is delivered. -/
theorem sends_classified_done
    : let account := { spacedAccount with baseUrl := "http://provider" }
      let message : Message := ⟨"08108394272", "hi"⟩
      let sent := (Termii.Sms.send account openDesk.context message).outcome accepting []
      openDesk.dryRun = false
      ∧ openDesk.context.recipient message.recipient = .ok "2348108394272"
      ∧ account.check = .ok ()
      ∧ Client.Requestable (dropTrailing '/' account.baseUrl ++ "/api/sms/send")
      ∧ ¬ Strands redirectLimit sent.2.exchanges
      ∧ ending sent.2.exchanges = .whole 200 "done"
      ∧ sent.1 = .ok ⟨Termii.Sms.name, 200, .text "done"⟩ := by
  intro account message sent
  have found : openDesk.context.recipient message.recipient = .ok "2348108394272" := by
    decide +kernel
  have checked : account.check = .ok () := by decide +kernel
  have can : Client.Requestable (dropTrailing '/' account.baseUrl ++ "/api/sms/send") := by
    decide +kernel
  have ran
      : (decide (Strands redirectLimit sent.2.exchanges), ending sent.2.exchanges)
        = (false, .whole 200 "done") := by
    decide +kernel
  obtain ⟨stranded, whole⟩ := Prod.mk.inj ran
  have afloat : ¬ Strands redirectLimit sent.2.exchanges := of_decide_eq_false stranded
  have conducted := (sends_classified openDesk rfl message _ found accepting []).1 account checked
  have classified := conducted.classified can afloat
  have delivered := (classified.delivered ⟨Termii.Sms.name, 200, .text "done"⟩).mpr
    ⟨200, "done", .text "done", whole, by decide, rfl, rfl⟩
  exact ⟨rfl, found, checked, can, afloat, whole, delivered⟩

end Runs

end Courier
