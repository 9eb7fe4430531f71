import Courier.CommandLine.Basic
import Courier.Proofs.Dispatch.Providers

/-! A batch is the sequence of its single commands. Each step has its turn on the network that has
had the requests of the steps before, whatever became of them, and the batch fails with the number
of the turns that failed.
-/

namespace Courier

open Courier.Http (Network Request)

variable {β : Type}

/-- Whether a command sends several messages, each on its own. -/
def Command.isBatch : Command → Bool
  | all _ => true
  | sms .. | otp .. | verifyOtp .. | smarthive .. => false

/-- A command that has had its turn. -/
structure Turn where
  name : String
  result : Except Failure Unit
  trace : Trace

namespace Turn

/-- The turn of a command on a network that has had requests. -/
def take (network : Network) (command : String × Job Unit) (past : List Request) : Turn where
  name := command.1
  result := (command.2.outcome network past).1
  trace := (command.2.outcome network past).2

def failed (turn : Turn) : Bool :=
  match turn.result with
  | .ok () => false
  | .error _ => true

def line? (turn : Turn) : Option String :=
  match turn.result with
  | .ok () => none
  | .error failure => some (failure.line (some turn.name) ++ "\n")

def header (turn : Turn) : String := s!"== {turn.name} ==" ++ "\n"

def opening (turn : Turn) : Trace := ⟨[.note (.print turn.header)]⟩

def ending (turn : Turn) : Trace := ⟨turn.line?.toList.map fun line => .note (.complain line)⟩

/-- What a batch does for a turn: the header, all that the command does, and the line of its
failure. -/
def account (turn : Turn) : Trace := turn.opening ++ (turn.trace ++ turn.ending)

end Turn

/-- Commands one after another on one network: each has its turn whatever became of those before
it, and the network has had all of their requests. -/
def turns (network : Network) : List (String × Job Unit) → List Request → List Turn
  | [], _ => []
  | command :: commands, past =>
    let turn := Turn.take network command past
    turn :: turns network commands (past ++ turn.trace.requests)

def accounts : List Turn → Trace
  | [] => {}
  | turn :: turns => turn.account ++ accounts turns

-----------------------------------------------------------------------------------------
-- The views of a batch
-----------------------------------------------------------------------------------------

namespace Turn

variable (turn : Turn)

/-- What a batch writes about a turn shows in no view but those of the two outputs. -/
theorem filterMap_account {view : Effect → Option β}
    (blind : ∀ text, view (.note (.print text)) = none ∧ view (.note (.complain text)) = none)
    : turn.account.effects.filterMap view = turn.trace.effects.filterMap view := by
  have opening : turn.opening.effects.filterMap view = [] := by
    rw [Turn.opening, List.filterMap_cons, (blind turn.header).1]
    rfl
  have ending : turn.ending.effects.filterMap view = [] := by
    rw [Turn.ending]
    cases turn.line? with
    | none => rfl
    | some line => simp [(blind line).2]
  rw [account, Trace.effects_append, Trace.effects_append, List.filterMap_append,
    List.filterMap_append, opening, ending, List.append_nil, List.nil_append]

theorem account_requests : turn.account.requests = turn.trace.requests :=
  congrArg (List.map Prod.fst) (turn.filterMap_account fun _ => ⟨rfl, rfl⟩)

theorem account_stdout : turn.account.stdout = turn.header ++ turn.trace.stdout := by
  have opening : turn.opening.stdout = turn.header := String.empty_append
  have ending : turn.ending.stdout = "" := by
    rw [Turn.ending]
    cases turn.line? <;> rfl
  rw [account, Trace.stdout_append, Trace.stdout_append, opening, ending, String.append_empty]

theorem account_stderr (quiet : turn.trace.stderr = "")
    : turn.account.stderr = turn.line?.getD "" := by
  have opening : turn.opening.stderr = "" := rfl
  have ending : turn.ending.stderr = turn.line?.getD "" := by
    rw [Turn.ending]
    cases turn.line? with
    | none => rfl
    | some line => exact String.empty_append
  rw [account, Trace.stderr_append, Trace.stderr_append, opening, quiet, ending,
    String.empty_append, String.empty_append]

end Turn

section Accounts

variable (turns : List Turn)

theorem filterMap_accounts {view : Effect → Option β}
    (blind : ∀ text, view (.note (.print text)) = none ∧ view (.note (.complain text)) = none)
    : (accounts turns).effects.filterMap view
      = turns.flatMap (·.trace.effects.filterMap view) := by
  induction turns with
  | nil => rfl
  | cons turn turns ih =>
      rw [accounts, Trace.effects_append, List.filterMap_append, turn.filterMap_account blind, ih,
        List.flatMap_cons]

theorem accounts_exchanges : (accounts turns).exchanges = turns.flatMap (·.trace.exchanges) :=
  filterMap_accounts turns fun _ => ⟨rfl, rfl⟩

theorem accounts_events : (accounts turns).events = turns.flatMap (·.trace.events) :=
  filterMap_accounts turns fun _ => ⟨rfl, rfl⟩

theorem accounts_stdout
    : (accounts turns).stdout
      = String.join (turns.map fun turn => turn.header ++ turn.trace.stdout) := by
  induction turns with
  | nil => rfl
  | cons turn turns ih =>
      rw [accounts, Trace.stdout_append, turn.account_stdout, ih, List.map_cons, String.join_cons]

theorem accounts_stderr (quiet : ∀ turn ∈ turns, turn.trace.stderr = "")
    : (accounts turns).stderr = String.join (turns.filterMap Turn.line?) := by
  induction turns with
  | nil => rfl
  | cons turn turns ih =>
      have first := turn.account_stderr (quiet turn List.mem_cons_self)
      have others := ih fun later among => quiet later (List.mem_cons_of_mem turn among)
      rw [accounts, Trace.stderr_append, first, others, List.filterMap_cons]
      cases turn.line? with
      | none => exact String.empty_append
      | some line => exact String.join_cons.symm

end Accounts

-----------------------------------------------------------------------------------------
-- A batch runs its steps in turn
-----------------------------------------------------------------------------------------

namespace Desk

variable (desk : Desk) (network : Network)

def stepCommand (step : Provider × Message) : String × Job Unit :=
  (step.1.name, desk.dispatch step.1 step.2)

/-- A step of a batch always ends with a value: whether its dispatch failed. -/
theorem batchStep_outcome (step : Provider × Message) (past : List Request)
    : (desk.batchStep step.1 step.2).outcome network past
      = (.ok (Turn.take network (desk.stepCommand step) past).failed.toNat,
        (Turn.take network (desk.stepCommand step) past).account) := by
  have caught := Job.outcome_attempt network past (desk.dispatch step.1 step.2)
  rw [batchStep, Job.print, Job.perform, Job.say_bind, Job.outcome_say, Job.done,
    Job.finish_ok_bind, Job.outcome_bind_ok network past caught]
  simp only [Turn.take, stepCommand, Turn.account, Turn.failed, Turn.ending, Turn.line?]
  cases ((desk.dispatch step.1 step.2).outcome network past).1 with
  | ok => rfl
  | error failure => rfl

/-- A batch gives every step its turn, by induction on the steps. -/
theorem batch_outcome (steps : List (Provider × Message)) (past : List Request)
    : (desk.batch steps).outcome network past
      = (.ok ((turns network (steps.map desk.stepCommand) past).countP Turn.failed),
        accounts (turns network (steps.map desk.stepCommand) past)) := by
  induction steps generalizing past with
  | nil => rfl
  | cons step steps ih =>
      have first := desk.batchStep_outcome network step past
      -- The other steps have their turns on the network that has had this one's requests.
      have later := ih (past ++ (Turn.take network (desk.stepCommand step) past).trace.requests)
      rw [batch, Job.outcome_bind_ok network past first, Turn.account_requests,
        Job.outcome_bind_ok network _ later]
      simp only [List.map_cons, turns, accounts, List.countP_cons, Job.pure_eq_finish,
        Job.outcome_finish, Trace.append_empty]
      rw [Nat.add_comm]
      cases (Turn.take network (desk.stepCommand step) past).failed with
      | false => rfl
      | true => rfl

theorem dispatch_civil {key : ApiKey} {provider : Provider} {message : Message}
    (keeps : Keeps key (provider.rehearse message) (provider.send message))
    : (desk.dispatch provider message).Abides .civil := by
  rw [dispatch]
  split
  · refine (Job.abides_ofExcept fun _ _ => trivial).bind fun _ => ?_
    refine (Job.abides_ofExcept fun _ _ => trivial).bind fun body => ?_
    exact .say rfl (.done ())
  · exact keeps.civil.bind fun delivery => .say rfl (.done ())

theorem steps_civil (recipient : String) {step : Provider × Message}
    (among : step ∈ desk.steps recipient)
    : (desk.dispatch step.1 step.2).Abides .civil := by
  simp only [steps, List.mem_cons, List.not_mem_nil, or_false] at among
  rcases among with rfl | rfl | rfl
  · exact desk.dispatch_civil (Termii.Sms.provider_keeps _ _ _)
  · exact desk.dispatch_civil (Termii.Otp.provider_keeps _ _ _)
  · exact desk.dispatch_civil (SmartHive.Sms.provider_keeps _ _ ⟨""⟩ _)

theorem stderr_of_turns {commands : List (String × Job Unit)} {past : List Request}
    (civil : ∀ command ∈ commands, command.2.Abides .civil)
    : ∀ turn ∈ turns network commands past, turn.trace.stderr = "" := by
  induction commands generalizing past with
  | nil =>
      intro turn among
      cases among
  | cons command commands ih =>
      intro turn among
      rcases List.mem_cons.mp among with rfl | later
      · exact (civil command List.mem_cons_self).stderr_eq_empty
      · exact ih (fun other among => civil other (List.mem_cons_of_mem command among)) turn later

theorem length_turns (commands : List (String × Job Unit)) (past : List Request)
    : (turns network commands past).length = commands.length := by
  induction commands generalizing past with
  | nil => rfl
  | cons command commands ih => exact congrArg Nat.succ (ih _)

/-- The single commands of a batch, with the texts of the settings, under the names of their
providers. -/
def singles (asked : Option String) : List (String × Job Unit) :=
  [(Termii.Sms.name, desk.sms asked desk.settings.defaults.smsText),
    (Termii.Otp.name, desk.otp asked none),
    (SmartHive.Sms.name, desk.smarthive asked desk.settings.defaults.smarthiveText false none)]

/-- The steps of a batch are its single commands, for the recipient that these find. -/
theorem steps_eq_singles {asked : Option String} {recipient : String}
    (found : desk.recipient asked = .ok recipient)
    : (desk.steps recipient).map desk.stepCommand = desk.singles asked := by
  simp only [singles, sms, otp, smarthive, found]
  rfl

def finished (total failed : Nat) : Log.Event :=
  ⟨.info, place, "Batch dispatch finished", [("total", .number total), ("failed", .number failed)]⟩

def verdict (turns : List Turn) : Except Failure Unit :=
  if turns.countP Turn.failed == 0 then .ok ()
  else .error (.batch (turns.countP Turn.failed) turns.length)

/-- A batch that has its recipient does what its turns do, records its end, and ends by their
failures. -/
theorem all_outcome {asked : Option String} {recipient : String}
    (found : desk.recipient asked = .ok recipient) (past : List Request)
    : (desk.all asked).outcome network past
      = (verdict (turns network (desk.singles asked) past),
        accounts (turns network (desk.singles asked) past)
          ++ ⟨[.note (.record (finished (turns network (desk.singles asked) past).length
              ((turns network (desk.singles asked) past).countP Turn.failed)))]⟩) := by
  have ran := desk.batch_outcome network (desk.steps recipient) past
  rw [desk.steps_eq_singles found] at ran
  have total := length_turns network (desk.singles asked) past
  rw [all, found, Job.ofExcept, Job.finish_ok_bind, Job.outcome_bind_ok network past ran, total,
    verdict]
  split
  · rfl
  · rw [total]
    rfl

end Desk

/-- A batch has done what its turns did, on the network and on both outputs, and has reported each
failure; it succeeds when none of them failed, and else it fails with their number. -/
structure Batched (turns : List Turn) (outcome : Except Failure Unit × Trace) : Prop where
  exchanges : outcome.2.exchanges = turns.flatMap (·.trace.exchanges)
  stdout : outcome.2.stdout = String.join (turns.map fun turn => turn.header ++ turn.trace.stdout)
  stderr : outcome.2.stderr = String.join (turns.filterMap Turn.line?)
  events
    : outcome.2.events
      = turns.flatMap (·.trace.events) ++ [Desk.finished turns.length (turns.countP Turn.failed)]
  succeeds_iff : outcome.1 = .ok () ↔ ∀ turn ∈ turns, turn.result = .ok ()
  fails : outcome.1 ≠ .ok () → outcome.1 = .error (.batch (turns.countP Turn.failed) turns.length)

theorem Turn.failed_eq_false_iff (turn : Turn) : turn.failed = false ↔ turn.result = .ok () := by
  rw [Turn.failed]
  cases turn.result with
  | ok => simp
  | error failure => simp

theorem verdict_eq_ok_iff (turns : List Turn)
    : Desk.verdict turns = .ok () ↔ ∀ turn ∈ turns, turn.result = .ok () := by
  have none : turns.countP Turn.failed = 0 ↔ ∀ turn ∈ turns, turn.result = .ok () := by
    simp only [List.countP_eq_zero, Bool.not_eq_true, Turn.failed_eq_false_iff]
  rw [← none, Desk.verdict]
  split <;> simp_all

theorem batched_of_turns {turns : List Turn} (quiet : ∀ turn ∈ turns, turn.trace.stderr = "")
    : Batched turns
        (Desk.verdict turns,
          accounts turns
            ++ ⟨[.note (.record (Desk.finished turns.length (turns.countP Turn.failed)))]⟩) := by
  constructor
  · rw [Trace.exchanges_append, accounts_exchanges]
    exact List.append_nil _
  · rw [Trace.stdout_append, accounts_stdout]
    exact String.append_empty
  · rw [Trace.stderr_append, accounts_stderr turns quiet]
    exact String.append_empty
  · rw [Trace.events_append, accounts_events]
    rfl
  · exact verdict_eq_ok_iff turns
  · intro fails
    simp only [Desk.verdict] at fails ⊢
    split at fails
    · exact absurd rfl fails
    · rw [if_neg ‹_›]

namespace Desk

/-- Without a recipient a batch fails at once; with one it is the sequence of its three single
commands, each of which has its turn. -/
theorem all_batched (desk : Desk) (asked : Option String) (network : Network)
    (past : List Request)
    : match desk.recipient asked with
      | .error failure => (desk.all asked).outcome network past = (.error failure, {})
      | .ok _ =>
        (turns network (desk.singles asked) past).length = 3
        ∧ Batched (turns network (desk.singles asked) past)
            ((desk.all asked).outcome network past) := by
  cases found : desk.recipient asked with
  | error failure =>
      rw [all, found]
      rfl
  | ok recipient =>
      have civil : ∀ command ∈ desk.singles asked, command.2.Abides .civil := by
        rw [← desk.steps_eq_singles found]
        intro command among
        obtain ⟨step, member, rfl⟩ := List.mem_map.mp among
        exact desk.steps_civil recipient member
      have quiet : ∀ turn ∈ turns network (desk.singles asked) past, turn.trace.stderr = "" :=
        stderr_of_turns network civil
      have batched := batched_of_turns quiet
      rw [← desk.all_outcome network found past] at batched
      exact ⟨length_turns network (desk.singles asked) past, batched⟩

/-- A batch goes on when its first message is turned down. -/
theorem all_batched_goesOn
    : let outcome := (subscribed.all none).outcome (listing 500) []
      Batched (turns (listing 500) (subscribed.singles none) []) outcome
      ∧ outcome.1 = .error (.batch 1 3)
      ∧ outcome.2.requests.map (·.url.text)
        = ["http://t/api/sms/send", "http://t/api/sms/otp/send", "http://s/api/sms/send"] := by
  intro outcome
  have found : subscribed.recipient none = .ok "08108394272" := by decide +kernel
  have batched := all_batched subscribed none (listing 500) []
  rw [found] at batched
  have ran
      : (outcome.1, outcome.2.requests.map (·.url.text))
        = (.error (.batch 1 3),
          ["http://t/api/sms/send", "http://t/api/sms/otp/send", "http://s/api/sms/send"]) := by
    decide +kernel
  exact ⟨batched.2, Prod.mk.inj ran⟩

end Desk

end Courier
