import Courier.Proofs.Dispatch.Providers

/-! A dry run tells what the real run does. It is silent on the network, it fails exactly as the
real run does where that blames what was given, and else it shows what the real run posts first.
-/

namespace Courier

open Courier.Http (Network Request)

variable {α : Type}

-----------------------------------------------------------------------------------------
-- The dry run and the real run of a command
-----------------------------------------------------------------------------------------

/-- A dry run rehearses a real run, on whatever networks the two are made: it is silent; it fails
exactly as the real run does when that blames what was given, and then the real run is silent too;
and the body that it shows is posted first by the real run, with the key in place of its mask. -/
structure Rehearses (key : ApiKey) (name : String) (dry real : Job Unit) : Prop where
  silent (network : Network) (past : List Request)
    : (dry.outcome network past).2.requests = []
  fails_iff (dryNetwork network : Network) (dryPast past : List Request) (failure : Failure)
    : (dry.outcome dryNetwork dryPast).1 = .error failure
      ↔ (real.outcome network past).1 = .error failure ∧ failure.isInput = true
  unsent (dryNetwork network : Network) (dryPast past : List Request) (failure : Failure)
    : (dry.outcome dryNetwork dryPast).1 = .error failure
      → (real.outcome network past).2.requests = []
  shows (dryNetwork : Network) (dryPast : List Request)
    : (dry.outcome dryNetwork dryPast).1 = .ok ()
      → ∃ body,
          (dry.outcome dryNetwork dryPast).2.stdout = previewReport name body ++ "\n"
          ∧ ∀ (network : Network) (past : List Request) (request : Request) (reply : Http.Reply),
              (real.outcome network past).2.exchanges.head? = some (request, reply)
              → ∃ sent, request.body = some sent ∧ Shows key sent body

/-- The jobs of a rehearsal and of a sending that keeps it, with their reports behind. -/
theorem Keeps.rehearses {key : ApiKey} {rehearsal : Except Failure Json} {send : Job α}
    (keeps : Keeps key rehearsal send) (name : String) (report : α → String)
    : Rehearses key name
        (Job.ofExcept rehearsal >>= fun body => Job.print (previewReport name body))
        (send >>= fun a => Job.print (report a)) := by
  have reports (a) : (Job.print (report a)).Abides .receiving := .say rfl (.done ())
  cases keeps with
  | @refused failure input =>
      constructor
      · intro network past
        rfl
      · intro dryNetwork network dryPast past other
        constructor
        · intro fails
          cases fails
          exact ⟨rfl, input⟩
        · exact And.left
      · intro dryNetwork network dryPast past other fails
        rfl
      · intro dryNetwork dryPast ends
        cases ends
  | @posted body client post later shows abides =>
      constructor
      · intro network past
        rfl
      · intro dryNetwork network dryPast past failure
        constructor
        · intro impossible
          cases impossible
        · rintro ⟨ends, input⟩
          -- A message that is posted has passed every check, so nothing later blames the input.
          have whole := ((Http.Client.post_abides client post).bind
            fun accepted => (abides accepted).sending).bind fun a => (reports a).sending
          have blameless := whole.failure_of_ends ends
          exact absurd (input.symm.trans blameless) Bool.true_eq_false.mp
      · intro dryNetwork network dryPast past failure impossible
        cases impossible
      · intro dryNetwork dryPast _
        refine ⟨body, ?_, ?_⟩
        · simp [Job.ofExcept, Job.print, Job.perform, Trace.stdout, Job.done, Trace.cons,
            Effect.print?]
        · intro network past request reply first
          have begins := ((Http.Client.post_beginsWith client post).bind
            fun accepted => (abides accepted).beginsWith fun _ => id).bind
              fun a => (reports a).beginsWith fun _ => id
          have made := begins.wanted_of_head? first
          obtain ⟨url, rfl⟩ := Http.Client.form_of_request? made
          exact ⟨_, rfl, shows⟩

namespace Desk

def rehearsing (desk : Desk) : Desk := { desk with dryRun := true }

def sending (desk : Desk) : Desk := { desk with dryRun := false }

variable (desk : Desk) {key : ApiKey} {provider : Provider}

theorem dispatch_rehearsing (provider : Provider) (message : Message)
    : desk.rehearsing.dispatch provider message
      = (Job.ofExcept (provider.rehearse message) >>= fun body =>
          Job.print (previewReport provider.name body)) := by
  simp only [dispatch, rehearsing, Provider.rehearse, if_true]
  cases provider.check with
  | error failure => rfl
  | ok => rfl

theorem dispatch_rehearses {message : Message}
    (keeps : Keeps key (provider.rehearse message) (provider.send message))
    : Rehearses key provider.name (desk.rehearsing.dispatch provider message)
        (desk.sending.dispatch provider message) := by
  rw [dispatch_rehearsing]
  exact keeps.rehearses provider.name Delivery.report

theorem command_rehearses (asked : Option String) (text : String)
    (keeps : ∀ message, Keeps key (provider.rehearse message) (provider.send message))
    : Rehearses key provider.name
        (Job.ofExcept (desk.recipient asked) >>= fun recipient =>
          desk.rehearsing.dispatch provider ⟨recipient, text⟩)
        (Job.ofExcept (desk.recipient asked) >>= fun recipient =>
          desk.sending.dispatch provider ⟨recipient, text⟩) := by
  cases found : desk.recipient asked with
  | error failure =>
      have input := desk.blamesInput_recipient asked failure found
      exact (Keeps.refused input).rehearses provider.name Delivery.report
  | ok recipient => exact desk.dispatch_rehearses (keeps ⟨recipient, text⟩)

/-- A dry run of the command that uses every provider makes no request, by induction on its
steps. -/
theorem batch_rehearsing_abides (steps : List (Provider × Message))
    : (desk.rehearsing.batch steps).Abides .silent := by
  induction steps with
  | nil => exact .done _
  | cons step steps ih =>
      have dispatch : (desk.rehearsing.dispatch step.1 step.2).Abides .silent := by
        rw [dispatch_rehearsing]
        exact (Job.abides_ofExcept fun _ _ => trivial).bind fun body => .say trivial (.done _)
      refine .bind ?_ fun failed => ih.bind fun others => .done _
      refine .say trivial (dispatch.attempt.bind fun result => ?_)
      cases result with
      | ok => exact .done _
      | error failure => exact .say trivial (.done _)

/-- Every command that sends a message is rehearsed by its dry run, and so is each step of the
command that uses every provider, the dry run of which makes no request either. -/
theorem sending_rehearsed (desk : Desk) (asked : Option String)
    : (∀ text,
        Rehearses desk.settings.termii.apiKey Termii.Sms.name (desk.rehearsing.sms asked text)
          (desk.sending.sms asked text))
      ∧ (∀ template,
        Rehearses desk.settings.termii.apiKey Termii.Otp.name (desk.rehearsing.otp asked template)
          (desk.sending.otp asked template))
      ∧ (∀ text flash route,
        Rehearses desk.settings.smarthive.apiKey SmartHive.Sms.name
          (desk.rehearsing.smarthive asked text flash route)
          (desk.sending.smarthive asked text flash route))
      ∧ (∀ recipient,
        List.Forall₂
          (fun key step =>
            Rehearses key step.1.name (desk.rehearsing.dispatch step.1 step.2)
              (desk.sending.dispatch step.1 step.2))
          [desk.settings.termii.apiKey, desk.settings.termii.apiKey, desk.settings.smarthive.apiKey]
          (desk.steps recipient))
      ∧ ∀ network past, ((desk.rehearsing.all asked).outcome network past).2.requests = [] := by
  have sms := Termii.Sms.provider_keeps desk.context
  have otp := Termii.Otp.provider_keeps desk.context
  have smarthive := SmartHive.Sms.provider_keeps desk.context
  refine ⟨?_, ?_, ?_, ?_, ?_⟩
  · intro text
    exact desk.command_rehearses asked text fun message => sms message desk.settings.termii
  · intro template
    exact desk.command_rehearses asked _ fun message => otp message desk.settings.termii
  · intro text flash route
    exact desk.command_rehearses asked text fun message => smarthive message _ _
  · intro recipient
    refine .cons ?_ (.cons ?_ (.cons ?_ .nil))
    · exact desk.dispatch_rehearses (sms _ desk.settings.termii)
    · exact desk.dispatch_rehearses (otp _ desk.settings.termii)
    · exact desk.dispatch_rehearses (smarthive _ _ _)
  · intro network past
    have abides : (desk.rehearsing.all asked).Abides .silent := by
      refine (Job.abides_ofExcept fun _ _ => trivial).bind fun recipient => ?_
      refine (desk.batch_rehearsing_abides _).bind fun failed => .say trivial ?_
      split
      · exact .done _
      · exact .fail trivial
    exact abides.requests_eq_nil fun _ => id

/-- A message that its dry run shows is posted as it was shown. -/
theorem sms_rehearsed
    : let dry := (subscribed.rehearsing.sms none "hi").outcome (listing 200) []
      let real := (subscribed.sending.sms none "hi").outcome (listing 200) []
      dry.1 = .ok ()
      ∧ dry.2.requests = []
      ∧ ∃ body request sent,
          dry.2.stdout = previewReport Termii.Sms.name body ++ "\n"
          ∧ real.2.requests = [request]
          ∧ request.body = some sent
          ∧ Shows subscribed.settings.termii.apiKey sent body := by
  intro dry real
  have rehearses := (sending_rehearsed subscribed none).1 "hi"
  have told : dry.1 = .ok () := by decide +kernel
  have one : real.2.exchanges.length = 1 := by decide +kernel
  obtain ⟨⟨request, reply⟩, made⟩ := List.length_eq_one_iff.mp one
  obtain ⟨body, printed, posts⟩ := rehearses.shows (listing 200) [] told
  obtain ⟨sent, content, shows⟩ := posts (listing 200) [] request reply (congrArg List.head? made)
  have requests : real.2.requests = [request] := congrArg (List.map Prod.fst) made
  exact ⟨told, rehearses.silent _ _, body, request, sent, printed, requests, content, shows⟩

end Desk

end Courier
