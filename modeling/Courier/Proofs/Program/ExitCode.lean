import Courier.Program
import Courier.Proofs.Dispatch.Batch
import Courier.Proofs.Dispatch.Calls
import Courier.Proofs.Http.Stranding

/-! What exit code 2 says of the network. A run that blames its input or its configuration has sent
nothing, unless a single command is stranded by a redirect: then a server has received its post. A
batch counts its failed steps and blames nothing once it has begun.
-/

namespace Courier

open Courier.Http (Client Network Post Request Strands)
open Courier.Http.Client (post_blamesOnlyStranded redirectLimit)

variable {α : Type}

/-- A result that blames what was given comes without a received request. -/
def BlamesUnsent (outcome : Except Failure α × Trace) : Prop :=
  Blames outcome.1 → outcome.2.received = []

theorem Job.BlamesOnlyStranded.unsent_iff {job : Job α} (blames : job.BlamesOnlyStranded)
    (network : Network) (past : List Request)
    : BlamesUnsent (job.outcome network past)
      ↔ ¬ Strands redirectLimit (job.outcome network past).2.exchanges := by
  rw [← blames network past, not_and, not_not, BlamesUnsent]

-----------------------------------------------------------------------------------------
-- Commands
-----------------------------------------------------------------------------------------

theorem Job.Abides.blameless {job : Job α} (abides : job.Abides .concluding)
    : job.Abides .blameless :=
  abides.weaken (fun _ _ => trivial) (fun _ => id) fun _ => Failure.exitCode_ne_two

theorem Calls.blamesOnlyStranded {client : Client} {prepared : Except Failure Post} {job : Job α}
    (calls : Calls client prepared job)
    : job.BlamesOnlyStranded := by
  cases calls with
  | refused failure => exact .finish _
  | @posted post later concludes =>
      exact (post_blamesOnlyStranded client post).bind fun accepted =>
        (concludes accepted).blameless

namespace Desk

variable (desk : Desk)

theorem dispatch_blamesOnlyStranded {client : Client} {prepared : Except Failure Post}
    {provider : Provider} {message : Message}
    (calls : Calls client prepared (provider.send message))
    : (desk.dispatch provider message).BlamesOnlyStranded := by
  rw [dispatch]
  split
  · exact .check fun _ => .check fun body => .say _ (.finish _)
  · exact (calls.report Delivery.report).blamesOnlyStranded

theorem verifyOtp_blamesOnlyStranded (pinId pin : String)
    : (desk.verifyOtp pinId pin).BlamesOnlyStranded := by
  rw [verifyOtp]
  split
  · exact .check fun _ => .say _ (.finish _)
  · have calls := Termii.Otp.verify_calls desk.settings.termii desk.context pinId pin
    exact (calls.report Termii.Otp.Verification.report).blamesOnlyStranded

/-- A batch that has its recipient ends with the number of its failures. -/
theorem all_blamesUnsent (asked : Option String) (network : Network) (past : List Request)
    : BlamesUnsent ((desk.all asked).outcome network past) := by
  intro blames
  cases found : desk.recipient asked with
  | error failure =>
      rw [all, found]
      rfl
  | ok recipient =>
      rw [desk.all_outcome network found past, verdict] at blames
      split at blames
      · exact absurd blames (not_blames_ok ())
      · rw [blames_error_iff] at blames
        exact absurd blames (Failure.exitCode_ne_two rfl)

theorem carryOut_blamesOnlyStranded {command : Command} (single : command.isBatch = false)
    : (desk.carryOut command).BlamesOnlyStranded := by
  cases command with
  | sms asked text =>
      refine .check fun recipient => ?_
      exact desk.dispatch_blamesOnlyStranded (Termii.Sms.send_calls _ desk.context _)
  | otp asked template =>
      refine .check fun recipient => ?_
      exact desk.dispatch_blamesOnlyStranded (Termii.Otp.send_calls _ desk.context _)
  | verifyOtp pinId pin => exact desk.verifyOtp_blamesOnlyStranded pinId pin
  | smarthive asked text flash route =>
      refine .check fun recipient => ?_
      exact desk.dispatch_blamesOnlyStranded (SmartHive.Sms.send_calls _ desk.context _)
  | all asked => cases single

/-- A command that blames what was given has sent nothing, unless it is a single command that is
stranded. -/
theorem carryOut_blamesUnsent_iff (command : Command) (network : Network) (past : List Request)
    : BlamesUnsent ((desk.carryOut command).outcome network past)
      ↔ ¬ (command.isBatch = false
        ∧ Strands redirectLimit ((desk.carryOut command).outcome network past).2.exchanges) := by
  cases single : command.isBatch with
  | false =>
      rw [(desk.carryOut_blamesOnlyStranded single).unsent_iff network past]
      simp
  | true =>
      cases command with
      | all asked => exact iff_of_true (desk.all_blamesUnsent asked network past) (by simp)
      | sms | otp | verifyOtp | smarthive => cases single

end Desk

-----------------------------------------------------------------------------------------
-- Runs
-----------------------------------------------------------------------------------------

namespace Program

theorem execute_blamesUnsent_iff (line : CommandLine) (settings : Settings) (network : Network)
    (past : List Request)
    : BlamesUnsent ((execute line settings).outcome network past)
      ↔ ¬ (line.effective.isBatch = false
        ∧ Strands redirectLimit ((execute line settings).outcome network past).2.exchanges) := by
  cases made : Http.Client.make settings.http with
  | error failure =>
      rw [execute, made]
      exact iff_of_true (fun _ => rfl) fun stranded => Http.not_strands_nil _ stranded.2
  | ok client =>
      rw [execute, made]
      exact Desk.carryOut_blamesUnsent_iff ⟨settings, Context.make client settings, line.dryRun⟩
        line.effective network past

theorem leave_exitCode_eq_two_iff (line : CommandLine) (journal : Log.Journal) (stamp : String)
    (outcome : Except Failure Unit × Trace)
    : (leave line journal stamp outcome).exitCode = 2 ↔ Blames outcome.1 := by
  obtain ⟨result, trace⟩ := outcome
  cases result with
  | ok => exact iff_of_false (Nat.zero_ne_add_one 1) (not_blames_ok ())
  | error failure => exact (blames_error_iff failure).symm

theorem leave_trace (line : CommandLine) (journal : Log.Journal) (stamp : String)
    (outcome : Except Failure Unit × Trace)
    : (leave line journal stamp outcome).trace = outcome.2 := by
  obtain ⟨result, trace⟩ := outcome
  cases result with
  | ok => rfl
  | error failure => rfl

/-- A run that blames what it was given has sent nothing. -/
def Result.BlamesUnsent (result : Result) : Prop :=
  result.exitCode = 2 → result.trace.received = []

theorem Result.blamesUnsent_iff_of_idle {result : Result} (idle : result.trace = {}) {single : Prop}
    : result.BlamesUnsent ↔ ¬ (single ∧ Strands redirectLimit result.trace.exchanges) := by
  rw [BlamesUnsent, idle]
  exact iff_of_true (fun _ => rfl) fun stranded => Http.not_strands_nil _ stranded.2

theorem carryOut_blamesUnsent_iff (line : CommandLine) (settings : Settings) (disk : Disk)
    (network : Network) (stamp : String)
    : (carryOut line settings disk network stamp).BlamesUnsent
      ↔ ¬ (line.effective.isBatch = false
        ∧ Strands redirectLimit
            (carryOut line settings disk network stamp).trace.exchanges) := by
  unfold carryOut
  cases settings.logger.setup with
  | error fault => exact Result.blamesUnsent_iff_of_idle rfl
  | ok setup =>
      dsimp only
      cases Log.Journal.start setup disk with
      | error fault => exact Result.blamesUnsent_iff_of_idle rfl
      | ok journal =>
          simp only [Result.BlamesUnsent, leave_exitCode_eq_two_iff, leave_trace]
          exact execute_blamesUnsent_iff line settings network []

/-- A run that ends with exit code 2 has sent nothing, and so has a command that blames what was
given, unless it is a single command that is stranded by a redirect: then a server has received its
post. -/
theorem blamesUnsent_iff (line : CommandLine) (vars : Config.Variables) (disk : Disk)
    (stamp : String) (desk : Desk) (command : Command) (network : Network) (past : List Request)
    : ((run line vars disk network stamp).BlamesUnsent
        ↔ ¬ (line.effective.isBatch = false
          ∧ Strands redirectLimit (run line vars disk network stamp).trace.exchanges))
      ∧ (BlamesUnsent ((desk.carryOut command).outcome network past)
        ↔ ¬ (command.isBatch = false
          ∧ Strands redirectLimit
              ((desk.carryOut command).outcome network past).2.exchanges)) := by
  constructor
  · unfold run
    cases line.settings vars disk with
    | error fault => exact Result.blamesUnsent_iff_of_idle rfl
    | ok settings => exact carryOut_blamesUnsent_iff line settings disk network stamp
  · exact desk.carryOut_blamesUnsent_iff command network past

/-- A server that sends every request on to an address that is not of the web. -/
def stranding : Network := fun _ _ =>
  .answer ⟨302, [("location", "ftp://files.example/x")], some []⟩

/-- What a message leaves that is sent to that server, with the settings in variables. -/
def strandedRun : Result :=
  let set (name value : String) := ("SMS_DISPATCH_" ++ name, value.toUTF8.toList)
  run ⟨some (.sms (some "08108394272") "hi"), none, none, false, false, false⟩
    [set "TERMII__BASE_URL" "http://provider", set "TERMII__API_KEY" "secret-key",
      set "TERMII__SENDER_ID" "Shop"]
    Disk.start stranding "now"

/-- A message that a server has received can end with exit code 2. -/
theorem strandedRun_received
    : strandedRun.exitCode = 2
      ∧ strandedRun.trace.received.map (·.method) = [.post]
      ∧ ¬ strandedRun.BlamesUnsent := by
  have ran : (strandedRun.exitCode, strandedRun.trace.received.map (·.method)) = (2, [.post]) := by
    decide +kernel
  obtain ⟨code, received⟩ := Prod.mk.inj ran
  refine ⟨code, received, fun unsent => ?_⟩
  rw [unsent code] at received
  cases received

end Program

end Courier
