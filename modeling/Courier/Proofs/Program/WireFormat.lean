import Courier.Program
import Courier.Proofs.Dispatch.Batch
import Courier.Proofs.Dispatch.WireFormat

/-! What the commands send. The first request of every single command is fixed by the settings and
the values of the command, and a batch is its single commands one after another.
-/

namespace Courier

open Courier.Http (Client Network Post Request)
open Courier.Text (dropLeading dropTrailing isBlankText trim trimChars_eq_nil_iff)

variable {α β : Type}

-----------------------------------------------------------------------------------------
-- The recipient
-----------------------------------------------------------------------------------------

namespace Settings

/-- The first of what is asked for and of the settings that is not blank. -/
def chosen? (settings : Settings) (asked : Option String) : Option String :=
  [asked.getD "", settings.defaults.recipient].find? (!isBlankText ·)

/-- A number is the one that a command sends to: its digits, in the form that providers take. -/
def Reaches (settings : Settings) (asked : Option String) (number : String) : Prop :=
  ∃ chosen,
    settings.chosen? asked = some chosen
    ∧ Phone.digits chosen (dropLeading '+' settings.defaults.countryCode) = .ok number

end Settings

theorem Text.trim_eq_empty_iff (s : String) : trim s = "" ↔ isBlankText s = true := by
  rw [trim, String.ofList_eq_empty_iff, trimChars_eq_nil_iff, isBlankText]

namespace Desk

variable (desk : Desk) {asked : Option String}

/-- A command finds the trimmed form of the chosen recipient. -/
theorem chosen_of_recipient {recipient : String} (found : desk.recipient asked = .ok recipient)
    : ∃ chosen, desk.settings.chosen? asked = some chosen ∧ recipient = trim chosen := by
  simp only [Desk.recipient, beq_iff_eq, Text.trim_eq_empty_iff] at found
  cases blank : isBlankText (asked.getD "") with
  | true =>
      simp only [blank, if_true, Text.trim_eq_empty_iff] at found
      split at found
      · cases found
      · next given =>
          cases found
          exact ⟨desk.settings.defaults.recipient, by simp [Settings.chosen?, blank, given], rfl⟩
  | false =>
      simp only [blank, Bool.false_eq_true, if_false, Text.trim_eq_empty_iff] at found
      cases found
      exact ⟨asked.getD "", by simp [Settings.chosen?, blank], rfl⟩

end Desk

-----------------------------------------------------------------------------------------
-- Single commands
-----------------------------------------------------------------------------------------

namespace Command

/-- The single commands that a command comes to. -/
def singles (settings : Settings) : Command → List Command
  | all asked =>
    [sms asked settings.defaults.smsText, otp asked none,
      smarthive asked settings.defaults.smarthiveText false none]
  | command => [command]

theorem singles_isBatch (settings : Settings) (command : Command)
    : ∀ single ∈ command.singles settings, single.isBatch = false := by
  cases command <;> simp [singles, isBatch]

/-- What the first request of a single command is to be, told from the settings and the values of
the command. -/
def Wired (settings : Settings) : Command → Request → Prop
  | sms asked text, request =>
    ∃ number,
      settings.Reaches asked number
      ∧ request.Posts (dropTrailing '/' settings.termii.baseUrl ++ "/api/sms/send") []
          (Termii.Sms.document settings.termii number text)
  | otp asked template, request =>
    ∃ number,
      settings.Reaches asked number
      ∧ request.Posts (dropTrailing '/' settings.termii.baseUrl ++ "/api/sms/otp/send") []
          (Termii.Otp.document settings.termii number
            (template.getD settings.termii.otp.messageText))
  | verifyOtp pinId pin, request =>
    request.Posts (dropTrailing '/' settings.termii.baseUrl ++ "/api/sms/otp/verify") []
      (Termii.Otp.verifyDocument settings.termii pinId pin)
  | smarthive asked text flash route, request =>
    ∃ number,
      settings.Reaches asked number
      ∧ request.Posts (dropTrailing '/' settings.smarthive.baseUrl ++ "/api/sms/send")
          [settings.smarthive.apiKey.secret]
          (.object
            [("msg", .string text), ("recipients", .string number),
              ("route", .string (route.getD settings.smarthive.route).name),
              ("sender", .string settings.smarthive.sender),
              ("type",
                Json.nat (if flash ∨ settings.smarthive.messageType = .flash then 0 else 1))])
  | all _, _ => False

end Command

namespace SmartHive.Account

/-- The account with what a command overrides. -/
def overridden (account : Account) (flash : Bool) (route : Option Route) : Account where
  baseUrl := account.baseUrl
  apiKey := account.apiKey
  sender := account.sender
  messageType := if flash then .flash else account.messageType
  route := route.getD account.route

theorem code_overridden (account : Account) (flash : Bool) (route : Option Route)
    : (account.overridden flash route).messageType.code
      = if flash ∨ account.messageType = .flash then 0 else 1 := by
  rw [overridden]
  cases flash <;> cases account.messageType <;> rfl

end SmartHive.Account

namespace Desk

variable (desk : Desk) {asked : Option String}

theorem dispatch_beginsWith {provider : Provider} {message : Message} {wanted : Request → Prop}
    (begins : (provider.send message).BeginsWith wanted)
    : (desk.dispatch provider message).BeginsWith wanted := by
  rw [dispatch]
  split
  · exact .check fun _ _ => .check fun body _ => .say _ (.finish _)
  · exact begins.bind fun delivery => .say _ (.finish _)

theorem verifyOtp_beginsWith {pinId pin : String} {wanted : Request → Prop}
    (begins
      : (Termii.Otp.verify desk.settings.termii desk.context pinId pin).BeginsWith wanted)
    : (desk.verifyOtp pinId pin).BeginsWith wanted := by
  rw [verifyOtp]
  split
  · exact .check fun _ _ => .say _ (.finish _)
  · exact begins.bind fun verification => .say _ (.finish _)

/-- The number of a message to the recipient of a command is the one that the command reaches. -/
theorem reaches_of_recipient {recipient number : String}
    (code : desk.context.countryCode = dropLeading '+' desk.settings.defaults.countryCode)
    (found : desk.recipient asked = .ok recipient)
    (dials : Phone.digits recipient desk.context.countryCode = .ok number)
    : desk.settings.Reaches asked number := by
  obtain ⟨chosen, first, rfl⟩ := desk.chosen_of_recipient found
  rw [code] at dials
  exact ⟨chosen, first, Phone.digits_of_trim dials⟩

theorem smartHiveProvider_eq (flash : Bool) (route : Option SmartHive.Route)
    : desk.smartHiveProvider flash route
      = SmartHive.Sms.provider (desk.settings.smarthive.overridden flash route) desk.context := by
  cases flash <;> cases route <;> rfl

theorem carryOut_wired {command : Command} (single : command.isBatch = false)
    (code : desk.context.countryCode = dropLeading '+' desk.settings.defaults.countryCode)
    : (desk.carryOut command).BeginsWith (command.Wired desk.settings) := by
  cases command with
  | sms asked text =>
      refine .check fun recipient found => desk.dispatch_beginsWith ?_
      refine (Termii.Sms.send_posts desk.settings.termii desk.context _).mono ?_
      rintro request ⟨number, dials, posts⟩
      exact ⟨number, desk.reaches_of_recipient code found dials, posts⟩
  | otp asked template =>
      refine .check fun recipient found => desk.dispatch_beginsWith ?_
      refine (Termii.Otp.send_posts desk.settings.termii desk.context _).mono ?_
      rintro request ⟨number, dials, posts⟩
      exact ⟨number, desk.reaches_of_recipient code found dials, posts⟩
  | verifyOtp pinId pin =>
      exact desk.verifyOtp_beginsWith (Termii.Otp.verify_posts _ desk.context pinId pin)
  | smarthive asked text flash route =>
      refine .check fun recipient found => desk.dispatch_beginsWith ?_
      rw [smartHiveProvider_eq]
      refine (SmartHive.Sms.send_posts _ desk.context _).mono ?_
      rintro request ⟨number, dials, posts⟩
      rw [SmartHive.Sms.document, SmartHive.Account.code_overridden] at posts
      exact ⟨number, desk.reaches_of_recipient code found dials, posts⟩
  | all asked => cases single

end Desk

-----------------------------------------------------------------------------------------
-- Commands that cannot succeed silently
-----------------------------------------------------------------------------------------

namespace Job

/-- A job that has made a request if it ends with a value. -/
def AsksToSucceed (job : Job α) : Prop :=
  ∀ (network : Network) (past : List Request) (a : α),
    (job.outcome network past).1 = .ok a → (job.outcome network past).2.exchanges ≠ []

theorem AsksToSucceed.check {check : Except Failure β} {next : β → Job α}
    (asks : ∀ b, (next b).AsksToSucceed)
    : (ofExcept check >>= next).AsksToSucceed := by
  cases check with
  | ok b => exact asks b
  | error failure => exact fun network past a ends => nomatch ends

theorem AsksToSucceed.say (note : Note) {rest : Job α} (asks : rest.AsksToSucceed)
    : (say note rest).AsksToSucceed :=
  asks

theorem AsksToSucceed.bind {job : Job α} {later : α → Job β} (asks : job.AsksToSucceed)
    : (job >>= later).AsksToSucceed := by
  intro network past b ends
  rcases ended : job.outcome network past with ⟨result, trace⟩
  cases result with
  | ok a =>
      have made : trace.exchanges ≠ [] := by
        simpa [ended] using asks network past a (by rw [ended])
      rw [outcome_bind_ok network past ended, Trace.exchanges_append]
      exact List.append_ne_nil_of_left_ne_nil made _
  | error failure =>
      rw [outcome_bind_error network past ended] at ends
      cases ends

end Job

theorem Http.Client.post_asksToSucceed (client : Client) (post : Post)
    : (client.post post).AsksToSucceed := by
  intro network past accepted ends
  cases made : client.request? post with
  | none =>
      rw [post_of_none made] at ends
      cases ends
  | some request =>
      obtain ⟨next, asks⟩ := send_eq_ask post.provider redirectLimit request
      rw [post_of_some made, asks, Job.ask_bind]
      exact List.cons_ne_nil _ _

theorem Calls.asksToSucceed {client : Http.Client} {prepared : Except Failure Http.Post}
    {job : Job α} (calls : Calls client prepared job)
    : job.AsksToSucceed := by
  cases calls with
  | refused failure => exact fun network past a ends => nomatch ends
  | @posted post later concludes => exact (client.post_asksToSucceed post).bind

namespace Desk

variable (desk : Desk)

/-- Outside of a dry run no single command succeeds without a request. -/
theorem carryOut_asksToSucceed {command : Command} (single : command.isBatch = false)
    (real : desk.dryRun = false)
    : (desk.carryOut command).AsksToSucceed := by
  have dispatch_asks {provider : Provider} {message : Message}
      (asks : (provider.send message).AsksToSucceed)
      : (desk.dispatch provider message).AsksToSucceed := by
    rw [dispatch, if_neg (by simp [real])]
    exact asks.bind
  cases command with
  | sms asked text =>
      exact .check fun _ => dispatch_asks (Termii.Sms.send_calls _ desk.context _).asksToSucceed
  | otp asked template =>
      exact .check fun _ => dispatch_asks (Termii.Otp.send_calls _ desk.context _).asksToSucceed
  | verifyOtp pinId pin =>
      rw [carryOut, verifyOtp, if_neg (by simp [real])]
      exact (Termii.Otp.verify_calls _ desk.context pinId pin).asksToSucceed.bind
  | smarthive asked text flash route =>
      exact .check fun _ => dispatch_asks (SmartHive.Sms.send_calls _ desk.context _).asksToSucceed
  | all asked => cases single

end Desk

-----------------------------------------------------------------------------------------
-- Runs
-----------------------------------------------------------------------------------------

namespace Program

/-- What single commands come to, one after another: the network has had the requests of those
before. -/
def dispatches (line : CommandLine) (settings : Settings) (network : Network)
    : List Command → List Request → List (Except Failure Unit × Trace)
  | [], _ => []
  | command :: commands, past =>
    let outcome := (execute { line with command := some command } settings).outcome network past
    outcome :: dispatches line settings network commands (past ++ outcome.2.requests)

/-- A single command has sent what it should: its first request is as its values say, and outside of
a dry run it has not succeeded without one. -/
structure Dispatched (settings : Settings) (dryRun : Bool) (command : Command)
    (outcome : Except Failure Unit × Trace) : Prop where
  first (request : Request) (reply : Http.Reply)
    : outcome.2.exchanges.head? = some (request, reply) → command.Wired settings request
  asks : dryRun = false → outcome.1 = .ok () → outcome.2.exchanges ≠ []

/-- The only request of a single command is as its values say. -/
theorem Dispatched.of_length_eq_one {settings : Settings} {dryRun : Bool} {command : Command}
    {outcome : Except Failure Unit × Trace}
    (dispatched : Dispatched settings dryRun command outcome)
    (one : outcome.2.exchanges.length = 1)
    : ∃ request, outcome.2.requests = [request] ∧ command.Wired settings request := by
  obtain ⟨⟨request, reply⟩, made⟩ := List.length_eq_one_iff.mp one
  have wired := dispatched.first request reply (congrArg List.head? made)
  exact ⟨request, congrArg (List.map Prod.fst) made, wired⟩

variable (line : CommandLine) (settings : Settings) (network : Network)

theorem execute_dispatched {command : Command} (single : command.isBatch = false)
    (past : List Request)
    : Dispatched settings line.dryRun command
        ((execute { line with command := some command } settings).outcome network past) := by
  constructor
  · have begins : (execute { line with command := some command } settings).BeginsWith
        (command.Wired settings) := by
      refine .check fun client made => .say _ ?_
      exact Desk.carryOut_wired ⟨settings, Context.make client settings, line.dryRun⟩ single rfl
    exact fun request reply => begins.wanted_of_head?
  · intro real
    have asks : (execute { line with command := some command } settings).AsksToSucceed := by
      refine .check fun client => .say _ ?_
      exact Desk.carryOut_asksToSucceed ⟨settings, Context.make client settings, line.dryRun⟩ single
        real
    exact asks network past ()

/-- Single commands one after another send what they should, by induction on them. -/
theorem dispatches_dispatched {commands : List Command}
    (single : ∀ command ∈ commands, command.isBatch = false) (past : List Request)
    : List.Forall₂ (Dispatched settings line.dryRun) commands
        (dispatches line settings network commands past) := by
  induction commands generalizing past with
  | nil => exact .nil
  | cons command commands ih =>
      have first :=
        execute_dispatched line settings network (single command List.mem_cons_self) past
      exact .cons first (ih (fun later among => single later (List.mem_cons_of_mem _ among)) _)

/-- A batch makes the exchanges of its single commands, also when it finds no recipient: then none
of these does. -/
theorem all_exchanges (desk : Desk) (asked : Option String) (past : List Request)
    : ((desk.all asked).outcome network past).2.exchanges
      = (turns network (desk.singles asked) past).flatMap (·.trace.exchanges) := by
  cases found : desk.recipient asked with
  | error failure =>
      simp [Desk.all, Desk.singles, Desk.sms, Desk.otp, Desk.smarthive, found, turns, Turn.take,
        Job.ofExcept]
  | ok recipient =>
      rw [desk.all_outcome network found past, Trace.exchanges_append, accounts_exchanges]
      exact List.append_nil _

/-- A command makes the exchanges of its single commands. -/
theorem execute_exchanges (past : List Request)
    : ((execute line settings).outcome network past).2.exchanges
      = (dispatches line settings network (line.effective.singles settings) past).flatMap
          (·.2.exchanges) := by
  have itself : execute line settings
      = execute { line with command := some line.effective } settings := rfl
  rw [itself]
  cases line.effective with
  | sms | otp | verifyOtp | smarthive => exact (List.append_nil _).symm
  | all asked =>
      cases made : Http.Client.make settings.http with
      | error failure => simp [execute, made, dispatches, Command.singles, Job.ofExcept]
      | ok client =>
          let desk : Desk := ⟨settings, Context.make client settings, line.dryRun⟩
          have exchanges (command : Command) (past : List Request)
              : ((execute { line with command := some command } settings).outcome network
                  past).2.exchanges
                = ((desk.carryOut command).outcome network past).2.exchanges := by
            rw [execute, made]
            rfl
          have told : desk.settings = settings := rfl
          have batch := all_exchanges network desk asked past
          simp only [turns, Turn.take, Desk.singles, Trace.requests, told, List.flatMap_cons,
            List.flatMap_nil] at batch
          simpa only [Command.singles, dispatches, Trace.requests, exchanges, Desk.carryOut,
            List.flatMap_cons, List.flatMap_nil] using batch

/-- The first request of every dispatch of a command is as the settings and the values of the
command say. -/
theorem execute_wired (line : CommandLine) (settings : Settings) (network : Network)
    (past : List Request)
    : let outcomes := dispatches line settings network (line.effective.singles settings) past
      ((execute line settings).outcome network past).2.exchanges = outcomes.flatMap (·.2.exchanges)
      ∧ List.Forall₂ (Dispatched settings line.dryRun) (line.effective.singles settings)
          outcomes := by
  refine ⟨execute_exchanges line settings network past, ?_⟩
  exact dispatches_dispatched line settings network (line.effective.singles_isBatch settings) past

/-- Without a command every provider has its request. -/
theorem execute_wired_unnamed
    : let line : CommandLine := ⟨none, none, none, false, false, false⟩
      let outcome := (execute line .subscribed).outcome (listing 200) []
      ∃ sms otp smarthive,
        outcome.2.requests = [sms, otp, smarthive]
        ∧ (Command.sms none Settings.sampleText).Wired .subscribed sms
        ∧ (Command.otp none none).Wired .subscribed otp
        ∧ (Command.smarthive none Settings.sampleText false none).Wired .subscribed smarthive := by
  intro line outcome
  let commands := line.effective.singles .subscribed
  have each
      : (dispatches line .subscribed (listing 200) commands []).map (·.2.exchanges.length)
        = [1, 1, 1] := by
    decide +kernel
  obtain ⟨exchanges, dispatched⟩ := execute_wired line .subscribed (listing 200) []
  generalize dispatches line .subscribed (listing 200) commands [] = outcomes
    at each exchanges dispatched
  obtain _ | ⟨sms, _ | ⟨otp, _ | ⟨smarthive, _ | _⟩⟩⟩ := dispatched
  injection each with first each
  injection each with second each
  injection each with third
  obtain ⟨smsRequest, smsOnly, smsWired⟩ := sms.of_length_eq_one first
  obtain ⟨otpRequest, otpOnly, otpWired⟩ := otp.of_length_eq_one second
  obtain ⟨lastRequest, lastOnly, lastWired⟩ := smarthive.of_length_eq_one third
  refine ⟨smsRequest, otpRequest, lastRequest, ?_, smsWired, otpWired, lastWired⟩
  rw [Trace.requests] at smsOnly otpOnly lastOnly ⊢
  simp [outcome, exchanges, smsOnly, otpOnly, lastOnly]

end Program

end Courier
