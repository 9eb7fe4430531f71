import Courier.Proofs.CommandLine.Acceptance
import Courier.Proofs.Dispatch.Texts

/-! The texts that commands send. A text from the command line is never blank. A text of the
settings may be, and a blank one is sent whenever its command makes a request.
-/

namespace Courier

open Courier.Http (Client Network Request)
open Courier.Text (isBlankText)

namespace Command

/-- The single commands that a command comes to with a text of the settings, and these texts. -/
def configured (settings : Settings) : Command → List (Command × String)
  | all asked =>
    [(sms asked settings.defaults.smsText, settings.defaults.smsText),
      (otp asked none, settings.termii.otp.messageText),
      (smarthive asked settings.defaults.smarthiveText false none, settings.defaults.smarthiveText)]
  | otp asked none => [(otp asked none, settings.termii.otp.messageText)]
  | _ => []

/-- Of the single commands of an accepted command, only those with a text of the settings can be
blank. -/
theorem Accepted.forall_singles_iff {command : Command} (accepted : command.Accepted)
    (settings : Settings) (fine : Command → Prop)
    : (∀ single ∈ command.singles settings, single.IsBlank settings → fine single)
      ↔ ∀ entry ∈ command.configured settings, isBlankText entry.2 = true → fine entry.1 := by
  have filled {text : String} (passes : CommandLine.Argument.message text = .ok text)
      : isBlankText text = false :=
    (CommandLine.Argument.message_eq_ok_iff.mp passes).1
  cases command with
  | sms recipient message =>
      simp [singles, configured, IsBlank, text?, filled accepted.2]
  | otp recipient template =>
      cases template with
      | none => simp [singles, configured, IsBlank, text?]
      | some text => simp [singles, configured, IsBlank, text?, filled (accepted.2 text rfl)]
  | verifyOtp pinId pin => simp [singles, configured, IsBlank, text?]
  | smarthive recipient message flash route =>
      simp [singles, configured, IsBlank, text?, filled accepted.2]
  | all recipient => simp [singles, configured, IsBlank, text?]

end Command

namespace Program

/-- The first request of a single command that a line carries out, if it makes one. -/
def request? (line : CommandLine) (settings : Settings) (command : Command) : Option Request :=
  match Client.make settings.http with
  | .ok client => Desk.request? ⟨settings, Context.make client settings, line.dryRun⟩ command
  | .error _ => none

variable (line : CommandLine) (settings : Settings) (network : Network)

theorem single_speaks_iff {command : Command} (single : command.isBatch = false)
    (past : List Request)
    : (∀ request ∈
        ((execute { line with command := some command } settings).outcome network past).2.requests,
        request.speaks = true)
      ↔ (command.IsBlank settings → request? line settings command = none) := by
  rw [request?, execute]
  cases made : Client.make settings.http with
  | error failure => exact iff_of_true (List.forall_mem_nil _) fun _ => rfl
  | ok client =>
      exact Desk.carryOut_speaks_iff ⟨settings, Context.make client settings, line.dryRun⟩ single
        network past

/-- Single commands one after another send nothing blank exactly when each of them does not, by
induction on them. -/
theorem dispatches_speak_iff {commands : List Command}
    (single : ∀ command ∈ commands, command.isBatch = false) (past : List Request)
    : (∀ outcome ∈ dispatches line settings network commands past,
        ∀ request ∈ outcome.2.requests, request.speaks = true)
      ↔ ∀ command ∈ commands,
        command.IsBlank settings → request? line settings command = none := by
  induction commands generalizing past with
  | nil => exact iff_of_true nofun nofun
  | cons command commands ih =>
      have first := single_speaks_iff line settings network (single command List.mem_cons_self) past
      have later := ih (fun other among => single other (List.mem_cons_of_mem _ among))
      rw [dispatches, List.forall_mem_cons, List.forall_mem_cons, first, later]

/-- A command line that is understood sends nothing blank exactly when no request is made with a
blank text of the settings, on any network. -/
theorem execute_speaks_iff {disk : Disk} {args : List String} {line : CommandLine}
    (parsed : CommandLine.parse disk args = .ok line) (settings : Settings) (network : Network)
    (past : List Request)
    : (∀ request ∈ ((execute line settings).outcome network past).2.requests,
        request.speaks = true)
      ↔ ∀ entry ∈ line.effective.configured settings,
        isBlankText entry.2 = true → request? line settings entry.1 = none := by
  have accepted : line.effective.Accepted := by
    rw [CommandLine.effective]
    cases is : line.command with
    | none => exact nofun
    | some command => exact (CommandLine.accepted_of_parse parsed).command command is
  have turns :=
    dispatches_speak_iff line settings network (line.effective.singles_isBatch settings) past
  refine Iff.trans ?_
    (turns.trans (accepted.forall_singles_iff settings (request? line settings · = none)))
  rw [Trace.requests, execute_exchanges line settings network past, List.map_flatMap]
  simp only [List.mem_flatMap, forall_exists_index, and_imp]
  exact ⟨fun all outcome among request asked => all request outcome among asked,
    fun all request outcome among asked => all outcome among request asked⟩

/-- Valid settings of which one text is blank. -/
def halfBlank : Settings where
  defaults := { recipient := "08108394272", smsText := " " }
  termii := { baseUrl := "http://provider", apiKey := ⟨"secret-key"⟩, senderId := "Shop" }

/-- A text from the command line is sent with these settings, and nothing blank. -/
theorem execute_speaks_iff_given
    : ∃ line,
        CommandLine.parse Disk.start ["courier", "sms", "--message=hi"] = .ok line
        ∧ ((execute line halfBlank).outcome (fun _ _ => .dropped) []).2.requests ≠ []
        ∧ ∀ request ∈ ((execute line halfBlank).outcome (fun _ _ => .dropped) []).2.requests,
          request.speaks = true := by
  have parsed : CommandLine.parse Disk.start ["courier", "sms", "--message=hi"]
      = .ok ⟨some (.sms none "hi"), none, none, false, false, false⟩ := by
    rfl
  refine ⟨_, parsed, by decide +kernel, ?_⟩
  exact (execute_speaks_iff parsed halfBlank _ []).mpr nofun

/-- Without a command the blank text is sent. -/
theorem halfBlank_sent
    : halfBlank.validate = .ok ()
      ∧ ∃ line,
        CommandLine.parse Disk.start ["courier"] = .ok line
        ∧ ∃ request ∈ ((execute line halfBlank).outcome (fun _ _ => .dropped) []).2.requests,
          request.speaks = false := by
  refine ⟨by decide +kernel, ⟨none, none, none, false, false, false⟩, rfl, ?_⟩
  have some
      : ((execute ⟨none, none, none, false, false, false⟩ halfBlank).outcome
          (fun _ _ => .dropped) []).2.requests.any (!·.speaks) = true := by
    decide +kernel
  simpa using some

end Program

end Courier
