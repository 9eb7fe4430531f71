import Courier.Proofs.Dispatch.Rehearsal
import Courier.Proofs.Dispatch.Verification

/-! A dry run of a confirmation tells what the confirmation does, but for what it does not check: it
shows a body even where the pin or its name is blank, and then the confirmation sends nothing.
-/

namespace Courier

open Courier.Http (Network Request)
open Courier.Text (isBlankText)

/-- A dry run that rehearses a real run and shows the very document that the real run posts first,
but for the key, which is masked. -/
structure Foretells (key : ApiKey) (name : String) (dry real : Job Unit) : Prop
    extends Rehearses key name dry real where
  unmasks (dryNetwork : Network) (dryPast : List Request)
    : (dry.outcome dryNetwork dryPast).1 = .ok ()
      → ∃ body,
          (dry.outcome dryNetwork dryPast).2.stdout = previewReport name body ++ "\n"
          ∧ ∀ (network : Network) (past : List Request) (request : Request) (reply : Http.Reply),
              (real.outcome network past).2.exchanges.head? = some (request, reply)
              → ∃ sent,
                request.body = some sent
                ∧ Json.parse sent = .ok (body.replace "api_key" (.string key.secret))

namespace Termii.Otp

variable (account : Account) (context : Context) {pinId pin : String}

/-- The body that a dry run of a confirmation shows once the account is checked. -/
def rehearseVerify (pinId pin : String) : Except Failure Json := do
  check account
  return verifyPreview account pinId pin

/-- The body that a dry run shows is the one that a confirmation posts, but for the key. -/
theorem replace_verifyPreview (pinId pin : String)
    : (verifyPreview account pinId pin).replace "api_key" (.string account.apiKey.secret)
      = verifyDocument account pinId pin := by
  have unmasked : (verifyMembers account.apiKey.masked pinId pin).map
      (Json.replaceMember "api_key" (.string account.apiKey.secret))
      = verifyMembers account.apiKey.secret pinId pin := by
    simp [verifyMembers, Json.replaceMember]
  have read := Json.parse_members (legible_verifyMembers account.apiKey.secret pinId pin)
  have posted := parse_verifyBody account pinId pin
  rw [verifyPreview, Json.replace_ofMembers, unmasked]
  exact Except.ok.inj (read.symm.trans posted)

/-- A confirmation keeps what its dry run says if neither the pin nor its name is blank, or else the
account is refused. -/
theorem verify_keeps
    (named
      : check account = .ok () → isBlankText pinId = false ∧ isBlankText pin = false)
    : Keeps account.apiKey (rehearseVerify account pinId pin)
        (verify account context pinId pin) := by
  cases checked : check account with
  | error failure =>
      rw [rehearseVerify, verify, checked]
      exact .refused (blamesInput_check account failure checked)
  | ok =>
      obtain ⟨named, given⟩ := named checked
      rw [rehearseVerify, checked, verify_eq_conclude context checked named given]
      refine .posted (shows_members (legible_verifyMembers _ pinId pin) ?_) fun accepted => ?_
      · simp [verifyMembers, Json.replaceMember]
      · exact (conclude_abides context pinId accepted).receiving

end Termii.Otp

namespace Desk

variable (desk : Desk) {pinId pin : String}

theorem verifyOtp_rehearsing (pinId pin : String)
    : desk.rehearsing.verifyOtp pinId pin
      = (Job.ofExcept (Termii.Otp.rehearseVerify desk.settings.termii pinId pin) >>= fun body =>
          Job.print (previewReport Termii.Otp.name body)) := by
  simp only [verifyOtp, rehearsing, Termii.Otp.rehearseVerify, if_true]
  cases Termii.Otp.check desk.settings.termii with
  | error failure => rfl
  | ok => rfl

theorem verifyOtp_sending (pinId pin : String)
    : desk.sending.verifyOtp pinId pin
      = (Termii.Otp.verify desk.settings.termii desk.context pinId pin >>= fun verification =>
          Job.print verification.report) :=
  rfl

/-- Where the account is sound, a dry run shows its body, whatever the pin and its name are. -/
theorem outcome_verifyOtp_rehearsing (checked : Termii.Otp.check desk.settings.termii = .ok ())
    (pinId pin : String) (network : Network) (past : List Request)
    : (desk.rehearsing.verifyOtp pinId pin).outcome network past
      = (.ok (),
        ⟨[.note
          (.print
            (previewReport Termii.Otp.name
                (Termii.Otp.verifyPreview desk.settings.termii pinId pin)
              ++ "\n"))]⟩) := by
  rw [verifyOtp_rehearsing, Termii.Otp.rehearseVerify, checked]
  rfl

/-- A confirmation without the name of a pin fails with a failure that blames it. -/
theorem verifyOtp_sending_of_blank_pinId
    (checked : Termii.Otp.check desk.settings.termii = .ok ())
    (blank : isBlankText pinId = true) (pin : String)
    : desk.sending.verifyOtp pinId pin = .fail (.invalid "pin_id" "Pin id cannot be empty") := by
  rw [verifyOtp_sending, Termii.Otp.verify, checked, Termii.Otp.checkGiven, blank]
  rfl

/-- A confirmation with the name of a pin, but without a pin, fails with a failure that blames the
pin. -/
theorem verifyOtp_sending_of_blank_pin
    (checked : Termii.Otp.check desk.settings.termii = .ok ())
    (named : isBlankText pinId = false) (blank : isBlankText pin = true)
    : desk.sending.verifyOtp pinId pin = .fail (.invalid "pin" "Pin cannot be empty") := by
  rw [verifyOtp_sending, Termii.Otp.verify, checked, Termii.Otp.checkGiven, Termii.Otp.checkGiven,
    named, blank]
  rfl

/-- A confirmation of a pin that is blank, or whose name is, blames the input. -/
theorem verifyOtp_sending_of_blank (checked : Termii.Otp.check desk.settings.termii = .ok ())
    (blank : ¬ (isBlankText pinId = false ∧ isBlankText pin = false))
    : ∃ failure,
        failure.isInput = true ∧ desk.sending.verifyOtp pinId pin = .fail failure := by
  cases named : isBlankText pinId with
  | true => exact ⟨_, rfl, desk.verifyOtp_sending_of_blank_pinId checked named pin⟩
  | false =>
      have given : isBlankText pin = true := by simpa [named] using blank
      exact ⟨_, rfl, desk.verifyOtp_sending_of_blank_pin checked named given⟩

/-- A confirmation that makes a request posts the document of the pin first. -/
theorem verifyOtp_sending_beginsWith (pinId pin : String)
    : (desk.sending.verifyOtp pinId pin).BeginsWith fun request =>
        ∃ sent,
          request.body = some sent
          ∧ Json.parse sent
            = .ok (Termii.Otp.verifyDocument desk.settings.termii pinId pin) := by
  have posts := Termii.Otp.verify_posts desk.settings.termii desk.context pinId pin
  rw [verifyOtp_sending]
  refine (posts.mono fun request form => form.body).bind fun verification => ?_
  exact .say _ (.finish _)

/-- A dry run foretells a confirmation if neither the pin nor its name is blank, or else the account
is refused. -/
theorem verifyOtp_foretells
    (given
      : Termii.Otp.check desk.settings.termii = .ok ()
        → isBlankText pinId = false ∧ isBlankText pin = false)
    : Foretells desk.settings.termii.apiKey Termii.Otp.name
        (desk.rehearsing.verifyOtp pinId pin) (desk.sending.verifyOtp pinId pin) := by
  have keeps := Termii.Otp.verify_keeps desk.settings.termii desk.context given
  have rehearses := keeps.rehearses Termii.Otp.name Termii.Otp.Verification.report
  rw [← verifyOtp_rehearsing, ← verifyOtp_sending] at rehearses
  refine ⟨rehearses, fun dryNetwork dryPast ends => ?_⟩
  cases checked : Termii.Otp.check desk.settings.termii with
  | error failure =>
      rw [verifyOtp_rehearsing, Termii.Otp.rehearseVerify, checked] at ends
      cases ends
  | ok =>
      have shown := desk.outcome_verifyOtp_rehearsing checked pinId pin dryNetwork dryPast
      refine ⟨Termii.Otp.verifyPreview desk.settings.termii pinId pin, ?_, ?_⟩
      · rw [shown]
        simp [Trace.stdout, Effect.print?]
      · intro network past request reply first
        rw [Termii.Otp.replace_verifyPreview]
        exact (desk.verifyOtp_sending_beginsWith pinId pin).wanted_of_head? first

/-- A dry run foretells a confirmation exactly when the account is refused or neither the pin nor
its name is blank: that these are given is checked by the confirmation alone. -/
theorem verifyOtp_foretold_iff (desk : Desk) (pinId pin : String)
    : Foretells desk.settings.termii.apiKey Termii.Otp.name
        (desk.rehearsing.verifyOtp pinId pin) (desk.sending.verifyOtp pinId pin)
      ↔ (Termii.Otp.check desk.settings.termii = .ok ()
        → isBlankText pinId = false ∧ isBlankText pin = false) := by
  refine ⟨?_, desk.verifyOtp_foretells⟩
  intro foretells checked
  by_contra blank
  obtain ⟨failure, input, refuses⟩ := desk.verifyOtp_sending_of_blank checked blank
  have fails : ((desk.sending.verifyOtp pinId pin).outcome .unreachable []).1
      = .error failure := by
    rw [refuses]
    rfl
  have dryFails := (foretells.fails_iff .unreachable .unreachable [] [] _).mpr ⟨fails, input⟩
  rw [desk.outcome_verifyOtp_rehearsing checked] at dryFails
  cases dryFails

section Runs

/-- A desk whose account is sound. -/
def soundDesk : Desk :=
  { openDesk with settings := { termii := { spacedAccount with baseUrl := "http://provider" } } }

/-- A confirmation without the name of a pin is refused, and its dry run shows a body. -/
theorem blank_pinId_unforetold
    : let dry := soundDesk.rehearsing.verifyOtp "" "1234"
      let real := soundDesk.sending.verifyOtp "" "1234"
      (dry.run .unreachable).1 = .ok ()
      ∧ (dry.run .unreachable).2.stdout
        = previewReport Termii.Otp.name
            (Termii.Otp.verifyPreview soundDesk.settings.termii "" "1234")
          ++ "\n"
      ∧ (real.run .unreachable).1 = .error (.invalid "pin_id" "Pin id cannot be empty")
      ∧ ¬ Foretells soundDesk.settings.termii.apiKey Termii.Otp.name dry real := by
  intro dry real
  have checked : Termii.Otp.check soundDesk.settings.termii = .ok () := by decide +kernel
  have shown := soundDesk.outcome_verifyOtp_rehearsing checked "" "1234" .unreachable []
  have ends : (dry.run .unreachable).1 = .ok () := congrArg Prod.fst shown
  have fails : (real.run .unreachable).1 = .error (.invalid "pin_id" "Pin id cannot be empty") := by
    simp only [real]
    rw [soundDesk.verifyOtp_sending_of_blank_pinId checked (by decide)]
    rfl
  refine ⟨ends, ?_, fails, fun foretells => ?_⟩
  · rw [Job.run, shown]
    simp [Trace.stdout, Effect.print?]
  · have dryFails := (foretells.fails_iff .unreachable .unreachable [] [] _).mpr ⟨fails, rfl⟩
    cases ends.symm.trans dryFails

end Runs

end Desk

end Courier
