import Courier.Program
import Courier.Proofs.ApiKey
import Courier.Proofs.Dispatch.Secrecy

/-! Keys do not show in what the program leaves: the exit code, the two outputs, the disk and the
log events are the same with other keys, against a server whose answers do not depend on the
requests.
-/

namespace Courier

open Courier.Http (Network Request)

-----------------------------------------------------------------------------------------
-- A run with other keys
-----------------------------------------------------------------------------------------

namespace Program

/-- What effects leave on the output for failures and in the journal depends on no request, by
induction on the effects. -/
theorem play_eq_of_alike {Same : Request → Request → Prop} {effects others : List Effect}
    (alike : List.Forall₂ (Effect.Alike Same) effects others) (stamp : String)
    (journal : Log.Journal)
    : play stamp effects journal = play stamp others journal := by
  induction alike generalizing journal with
  | nil => rfl
  | cons first _ ih =>
      cases first with
      | note note =>
          cases note with
          | print text => exact ih journal
          | complain text => simp only [play, ih]
          | record event => simp only [play, ih]
      | exchange same reply => exact ih journal

/-- Results that differ in the requests only, which correspond. -/
structure Result.Indistinct (Same : Request → Request → Prop) (result other : Result) : Prop where
  exitCode : result.exitCode = other.exitCode
  stdout : result.stdout = other.stdout
  stderr : result.stderr = other.stderr
  disk : result.disk = other.disk
  events : result.trace.events = other.trace.events
  exchanges
    : List.Forall₂ (fun done also => Same done.1 also.1 ∧ done.2 = also.2)
        result.trace.exchanges other.trace.exchanges

theorem execute_alike (line : CommandLine) {settings : Settings} {termii smarthive : ApiKey}
    (termiiAgrees : settings.termii.apiKey.Agrees termii)
    (smarthiveAgrees : settings.smarthive.apiKey.Agrees smarthive)
    (mask : line.dryRun = true → settings.termii.apiKey.masked = termii.masked)
    : (execute line settings).Alike (Told line.dryRun)
        (execute line (settings.withKeys termii smarthive)) := by
  refine (Job.Alike.finish _).bind fun client => .say _ ?_
  have hides : Desk.HidesKeys ⟨settings, Context.make client settings, line.dryRun⟩ termii
      smarthive :=
    ⟨termiiAgrees, smarthiveAgrees, mask⟩
  show Job.Alike _ (Desk.carryOut _ _) (Desk.carryOut _ _)
  cases line.effective with
  | sms recipient message => exact Desk.sms_alike hides recipient message
  | otp recipient template => exact Desk.otp_alike hides recipient template
  | verifyOtp pinId pin => exact Desk.verifyOtp_alike hides pinId pin
  | smarthive recipient message flash route =>
      exact Desk.smarthive_alike hides recipient message flash route
  | all recipient => exact Desk.all_alike hides recipient

theorem leave_indistinct {Same : Request → Request → Prop}
    {outcome other : Except Failure Unit × Trace} (ends : outcome.1 = other.1)
    (effects : List.Forall₂ (Effect.Alike Same) outcome.2.effects other.2.effects)
    (line : CommandLine) (journal : Log.Journal) (stamp : String)
    : (leave line journal stamp outcome).Indistinct Same (leave line journal stamp other) := by
  obtain ⟨result, trace⟩ := outcome
  obtain ⟨also, counterpart⟩ := other
  obtain rfl : result = also := ends
  have whole := List.Forall₂.cons (Effect.Alike.note (.record (started line))) effects
  have played := play_eq_of_alike whole stamp journal
  have stdout : trace.stdout = counterpart.stdout :=
    congrArg String.join (filterMap_of_alike (fun _ _ => rfl) effects)
  have events : trace.events = counterpart.events := filterMap_of_alike (fun _ _ => rfl) effects
  have exchanges := exchanges_of_alike effects
  simp only [leave, played]
  cases result with
  | ok => exact ⟨rfl, stdout, rfl, rfl, events, exchanges⟩
  | error failure => exact ⟨rfl, stdout, rfl, rfl, events, exchanges⟩

/-- Commands that go on alike leave results that differ in their requests only. -/
theorem carryOut_indistinct {Same : Request → Request → Prop} {line : CommandLine}
    {settings other : Settings} {network also : Network}
    (alike : (execute line settings).Alike Same (execute line other))
    (log : settings.logger = other.logger) (answers : Job.AnswerAlike Same network also)
    (disk : Disk) (stamp : String)
    : (carryOut line settings disk network stamp).Indistinct Same
        (carryOut line other disk also stamp) := by
  obtain ⟨ends, effects⟩ := alike.outcome answers .nil
  unfold carryOut
  rw [← log]
  cases settings.logger.setup with
  | error fault => exact ⟨rfl, rfl, rfl, rfl, rfl, .nil⟩
  | ok setup =>
      dsimp only
      cases Log.Journal.start setup disk with
      | error fault => exact ⟨rfl, rfl, rfl, rfl, rfl, .nil⟩
      | ok journal => exact leave_indistinct ends effects line journal stamp

/-- With other keys that agree with those of the settings, a real run against a server whose answers
do not depend on the requests leaves the same, and its requests differ in the key only; a dry run
leaves the same, whatever the server, when the masks of the keys are the same. -/
theorem carryOut_withKeys (line : CommandLine) (settings : Settings) (termii smarthive : ApiKey)
    (disk : Disk) (stamp : String) (termiiAgrees : settings.termii.apiKey.Agrees termii)
    (smarthiveAgrees : settings.smarthive.apiKey.Agrees smarthive)
    : (line.dryRun = false
        → ∀ script : Nat → Http.Reply,
            (carryOut line settings disk (fun past _ => script past.length) stamp).Indistinct
              Rekeyed
              (carryOut line (settings.withKeys termii smarthive) disk
                (fun past _ => script past.length) stamp))
      ∧ (line.dryRun = true
        → settings.termii.apiKey.masked = termii.masked
        → ∀ network other,
            (carryOut line settings disk network stamp).Indistinct (fun _ _ => False)
              (carryOut line (settings.withKeys termii smarthive) disk other stamp))
      ∧ ∀ key other : ApiKey, key.masked = other.masked ↔ key.SameEnds other := by
  refine ⟨?_, ?_, ApiKey.masked_eq_iff⟩
  · intro mode script
    have alike : (execute line settings).Alike Rekeyed
        (execute line (settings.withKeys termii smarthive)) := by
      refine (execute_alike line termiiAgrees smarthiveAgrees ?_).weaken fun _ _ told => told.2
      intro dry
      exact absurd (mode.symm.trans dry) Bool.false_ne_true
    refine carryOut_indistinct alike rfl ?_ disk stamp
    intro past also request asked pasts same
    exact congrArg script pasts.length_eq
  · intro mode mask network other
    have alike : (execute line settings).Alike (fun _ _ => False)
        (execute line (settings.withKeys termii smarthive)) := by
      refine (execute_alike line termiiAgrees smarthiveAgrees fun _ => mask).weaken ?_
      intro request asked told
      exact absurd (told.1.symm.trans mode) Bool.false_ne_true
    refine carryOut_indistinct alike rfl ?_ disk stamp
    intro past also request asked pasts same
    exact same.elim

/-- Two keys for each account agree, so a message goes out alike. -/
theorem carryOut_withKeys_two
    : let settings : Settings :=
        { termii := { apiKey := ⟨"one"⟩, senderId := "Shop" }
          smarthive := { apiKey := ⟨"three"⟩ } }
      let line : CommandLine :=
        ⟨some (.sms (some "08108394272") "hi"), none, none, false, false, false⟩
      settings.termii.apiKey.Agrees ⟨"two"⟩
      ∧ settings.smarthive.apiKey.Agrees ⟨"four"⟩
      ∧ (carryOut line settings ⟨[]⟩ (fun _ _ => .dropped) "now").Indistinct Rekeyed
          (carryOut line (settings.withKeys ⟨"two"⟩ ⟨"four"⟩) ⟨[]⟩
            (fun _ _ => .dropped) "now") := by
  intro settings line
  have termii : settings.termii.apiKey.Agrees ⟨"two"⟩ :=
    ⟨by decide +kernel, by decide +kernel⟩
  have smarthive : settings.smarthive.apiKey.Agrees ⟨"four"⟩ :=
    ⟨by decide +kernel, by decide +kernel⟩
  have whole := carryOut_withKeys line settings _ _ ⟨[]⟩ "now" termii smarthive
  exact ⟨termii, smarthive, whole.1 rfl fun _ => .dropped⟩

end Program

end Courier
