import Courier.Proofs.Checks
import Courier.Proofs.Dispatch.Calls
import Courier.Proofs.Phone
import Mathlib.Tactic.SplitIfs

/-! What the checks of the providers accept. Each check accepts exactly what fulfils a condition
that speaks of the account, the policy or the number alone, and with these conditions a call
prepares its post.
-/

namespace Courier

open Courier.Text (isBlank isBlankText occursIn_iff)

-----------------------------------------------------------------------------------------
-- Accounts
-----------------------------------------------------------------------------------------

/-- What an account needs to send: a key that is given and can stand in a header, a sender, and an
address of the web. -/
structure Fit (key : ApiKey) (sender baseUrl : String) : Prop where
  keyGiven : isBlankText key.secret = false
  keyLegal : Http.isHeaderValue key.secret = true
  senderGiven : isBlankText sender = false
  address : ∃ url, Url.parse? baseUrl = some url ∧ (url.scheme = "http" ∨ url.scheme = "https")

theorem Url.isHttp_iff (url : Url)
    : url.isHttp = true ↔ url.scheme = "http" ∨ url.scheme = "https" := by
  simp [isHttp]

theorem checkBaseUrl_eq_ok_iff (field baseUrl : String)
    : checkBaseUrl field baseUrl = .ok ()
      ↔ ∃ url, Url.parse? baseUrl = some url ∧ (url.scheme = "http" ∨ url.scheme = "https") := by
  rw [checkBaseUrl]
  cases Url.parse? baseUrl with
  | none => simp
  | some url =>
      simp only [Option.some.injEq, exists_eq_left', ← url.isHttp_iff]
      split
      · exact iff_of_true rfl ‹_›
      · exact iff_of_false nofun ‹_›

theorem AccountCheck.run_eq_ok_iff (account : AccountCheck)
    : account.run = .ok () ↔ Fit account.apiKey account.sender account.baseUrl := by
  have given : account.apiKey.isMissing = isBlankText account.apiKey.secret := rfl
  rw [run, given]
  split_ifs with missing illegal unnamed
  · exact iff_of_false nofun fun fit => Bool.false_ne_true (fit.keyGiven.symm.trans missing)
  · exact iff_of_false nofun fun fit => by simp [fit.keyLegal] at illegal
  · exact iff_of_false nofun fun fit => Bool.false_ne_true (fit.senderGiven.symm.trans unnamed)
  · rw [mapError_eq_ok_iff, checkBaseUrl_eq_ok_iff]
    constructor
    · intro address
      exact ⟨by simpa using missing, by simpa using illegal, by simpa using unnamed, address⟩
    · exact Fit.address

theorem Termii.Account.check_eq_ok_iff (account : Termii.Account)
    : account.check = .ok () ↔ Fit account.apiKey account.senderId account.baseUrl :=
  AccountCheck.run_eq_ok_iff _

theorem SmartHive.Account.check_eq_ok_iff (account : SmartHive.Account)
    : account.check = .ok () ↔ Fit account.apiKey account.sender account.baseUrl :=
  AccountCheck.run_eq_ok_iff _

-----------------------------------------------------------------------------------------
-- Policies of one-time passwords
-----------------------------------------------------------------------------------------

namespace Otp.Policy

/-- A template has a place for the pin. -/
def Places (policy : Policy) (template : String) : Prop :=
  policy.pinPlaceholder ≠ "" ∧ policy.pinPlaceholder.toList <:+: template.toList

/-- What a policy needs: every number in its range, and a place for the pin in its own template. -/
structure Sound (policy : Policy) : Prop where
  length : 4 ≤ policy.pinLength.toNat ∧ policy.pinLength.toNat ≤ 8
  attempts : 1 ≤ policy.pinAttempts.toNat
  timeToLive : policy.pinTimeToLive.toNat ≤ 60
  places : policy.Places policy.messageText

variable (policy : Policy)

theorem hasPlaceholder_iff (template : String)
    : policy.hasPlaceholder template = true ↔ policy.Places template := by
  simp [hasPlaceholder, Places, occursIn_iff]

/-- No field is at fault exactly when each field's own rule holds. -/
theorem fieldErrors_eq_nil_iff
    : policy.fieldErrors = []
      ↔ 1 ≤ policy.pinAttempts.toNat
        ∧ policy.pinTimeToLive.toNat ≤ 60
        ∧ (4 ≤ policy.pinLength.toNat ∧ policy.pinLength.toNat ≤ 8)
        ∧ policy.pinPlaceholder ≠ "" := by
  simp [fieldErrors, fieldRules, List.filter_eq_nil_iff, UInt32.le_iff_toNat_le]

/-- Nothing is wrong with a policy exactly when it is sound. -/
theorem errors_eq_nil_iff : policy.errors = [] ↔ policy.Sound := by
  have fields := policy.fieldErrors_eq_nil_iff
  rw [errors]
  cases found : policy.fieldErrors with
  | cons entry others =>
      refine iff_of_false (List.cons_ne_nil _ _) fun sound => ?_
      have none := fields.mpr
        ⟨sound.attempts, sound.timeToLive, sound.length, sound.places.1⟩
      exact List.cons_ne_nil entry others (found.symm.trans none)
  | nil =>
      obtain ⟨attempts, timeToLive, length, _⟩ := fields.mp found
      have placed_iff := policy.hasPlaceholder_iff policy.messageText
      cases placed : policy.hasPlaceholder policy.messageText with
      | true => exact iff_of_true rfl ⟨length, attempts, timeToLive, placed_iff.mp placed⟩
      | false =>
          refine iff_of_false nofun fun sound => ?_
          exact Bool.false_ne_true (placed.symm.trans (placed_iff.mpr sound.places))

/-- A policy is accepted, or rejected with what is wrong with it. -/
theorem validate_eq_error_iff {policy : Policy} {errors : ErrorMap}
    : policy.validate = .error errors ↔ policy.errors = errors ∧ errors ≠ [] := by
  rw [validate]
  cases found : policy.errors with
  | nil => exact iff_of_false nofun fun is => is.2 is.1.symm
  | cons entry others =>
      constructor
      · intro is
        cases is
        exact ⟨rfl, List.cons_ne_nil _ _⟩
      · intro is
        exact congrArg _ is.1

theorem validate_eq_ok_iff : policy.validate = .ok () ↔ policy.Sound := by
  rw [← policy.errors_eq_nil_iff, validate]
  cases policy.errors with
  | nil => exact iff_of_true rfl rfl
  | cons entry others => exact iff_of_false nofun nofun

end Otp.Policy

theorem Termii.Account.validateSettings_eq_ok_iff {account : Termii.Account}
    : account.validateSettings = .ok ()
      ↔ checkBaseUrl "termii.base_url" account.baseUrl = .ok () ∧ account.otp.Sound := by
  rw [validateSettings, then_eq_ok_iff, mapError_eq_ok_iff, account.otp.validate_eq_ok_iff]

namespace Termii.Otp

variable (account : Termii.Account)

theorem check_eq_ok_iff
    : check account = .ok ()
      ↔ Fit account.apiKey account.senderId account.baseUrl ∧ account.otp.Sound := by
  rw [check, then_eq_ok_iff, account.check_eq_ok_iff, mapError_eq_ok_iff,
    account.otp.validate_eq_ok_iff]

theorem checkTemplate_eq_ok_iff (template : String)
    : checkTemplate account template = .ok () ↔ account.otp.Places template := by
  rw [← account.otp.hasPlaceholder_iff, checkTemplate]
  split
  · exact iff_of_true rfl ‹_›
  · exact iff_of_false nofun ‹_›

theorem checkGiven_eq_ok_iff (field message value : String)
    : checkGiven field message value = .ok () ↔ isBlankText value = false := by
  rw [checkGiven]
  cases isBlankText value <;> simp

end Termii.Otp

-----------------------------------------------------------------------------------------
-- Recipients
-----------------------------------------------------------------------------------------

theorem Context.recipient_eq_ok_iff (context : Context) (raw number : String)
    : context.recipient raw = .ok number ↔ Phone.digits raw context.countryCode = .ok number :=
  mapError_eq_ok_iff

-----------------------------------------------------------------------------------------
-- The posts that are prepared
-----------------------------------------------------------------------------------------

section Prepared

variable {context : Context} {message : Message} {prepared : Http.Post}

theorem Termii.Sms.prepare_eq_ok_iff {account : Termii.Account}
    : prepare account context message = .ok prepared
      ↔ Fit account.apiKey account.senderId account.baseUrl
        ∧ ∃ recipient,
          Phone.digits message.recipient context.countryCode = .ok recipient
          ∧ post account recipient message.text = prepared := by
  rw [prepare, then_eq_ok_iff, account.check_eq_ok_iff, bind_eq_ok_iff]
  simp only [context.recipient_eq_ok_iff, pure, Except.pure, Except.ok.injEq]

theorem Termii.Otp.prepare_eq_ok_iff {account : Termii.Account}
    : prepare account context message = .ok prepared
      ↔ (Fit account.apiKey account.senderId account.baseUrl ∧ account.otp.Sound)
        ∧ account.otp.Places message.text
        ∧ ∃ recipient,
          Phone.digits message.recipient context.countryCode = .ok recipient
          ∧ post account recipient message.text = prepared := by
  rw [prepare, then_eq_ok_iff, check_eq_ok_iff, then_eq_ok_iff, checkTemplate_eq_ok_iff,
    bind_eq_ok_iff]
  simp only [context.recipient_eq_ok_iff, pure, Except.pure, Except.ok.injEq]

theorem Termii.Otp.prepareVerify_eq_ok_iff {account : Termii.Account} {pinId pin : String}
    : prepareVerify account pinId pin = .ok prepared
      ↔ (Fit account.apiKey account.senderId account.baseUrl ∧ account.otp.Sound)
        ∧ isBlankText pinId = false
        ∧ isBlankText pin = false
        ∧ verifyPost account pinId pin = prepared := by
  rw [prepareVerify, then_eq_ok_iff, check_eq_ok_iff, then_eq_ok_iff, checkGiven_eq_ok_iff,
    then_eq_ok_iff, checkGiven_eq_ok_iff]
  simp only [pure, Except.pure, Except.ok.injEq]

theorem SmartHive.Sms.prepare_eq_ok_iff {account : SmartHive.Account}
    : prepare account context message = .ok prepared
      ↔ Fit account.apiKey account.sender account.baseUrl
        ∧ ∃ recipient,
          Phone.digits message.recipient context.countryCode = .ok recipient
          ∧ post account recipient message.text = prepared := by
  rw [prepare, then_eq_ok_iff, account.check_eq_ok_iff, bind_eq_ok_iff]
  simp only [context.recipient_eq_ok_iff, pure, Except.pure, Except.ok.injEq]

end Prepared

end Courier
