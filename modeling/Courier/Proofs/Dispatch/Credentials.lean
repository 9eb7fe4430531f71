import Courier.Proofs.Settings.Rules

/-! What valid settings leave to ask. The addresses and the policy have been checked with the
settings, so the checks of the providers ask for a key and a sender and for nothing else.
-/

namespace Courier

open Courier.Text (isBlankText)

/-- A key that can be sent: it is given, and it can stand in a header. -/
structure ApiKey.Usable (key : ApiKey) : Prop where
  given : isBlankText key.secret = false
  legal : Http.isHeaderValue key.secret = true

/-- A check asks for a key and a sender and for nothing else. It blames the key as long as that
cannot be used, and then the sender. -/
structure AsksCredentials (keyField senderField : String) (key : ApiKey) (sender : String)
    (check : Except Failure Unit) : Prop where
  accepts : check = .ok () ↔ key.Usable ∧ isBlankText sender = false
  blamesKey : ¬ key.Usable → ∃ reason, check = .error (.invalid keyField reason)
  blamesSender
    : key.Usable
      → isBlankText sender = true
      → ∃ reason, check = .error (.invalid senderField reason)

/-- An account with an address of the web is only asked for its credentials. -/
theorem AccountCheck.run_asks (account : AccountCheck) (address : IsWebAddress account.baseUrl)
    : AsksCredentials (account.area ++ ".api_key") (account.area ++ "." ++ account.senderField)
        account.apiKey account.sender account.run := by
  have given : account.apiKey.isMissing = isBlankText account.apiKey.secret := rfl
  constructor
  · rw [account.run_eq_ok_iff]
    constructor
    · intro fit
      exact ⟨⟨fit.keyGiven, fit.keyLegal⟩, fit.senderGiven⟩
    · rintro ⟨usable, named⟩
      exact ⟨usable.given, usable.legal, named, address⟩
  · intro unusable
    rw [run, given]
    cases blank : isBlankText account.apiKey.secret with
    | true => exact ⟨_, rfl⟩
    | false =>
        cases legal : Http.isHeaderValue account.apiKey.secret with
        | false => exact ⟨_, rfl⟩
        | true => exact absurd ⟨blank, legal⟩ unusable
  · intro usable unnamed
    rw [run, given, usable.given, usable.legal, unnamed]
    exact ⟨_, rfl⟩

theorem Termii.Account.check_asks (account : Account) (address : IsWebAddress account.baseUrl)
    : AsksCredentials "termii.api_key" "termii.sender_id" account.apiKey account.senderId
        account.check := by
  have asks := AccountCheck.run_asks
    ⟨"termii", account.apiKey, "sender_id", account.senderId, account.baseUrl⟩ address
  simp only [String.reduceAppend] at asks
  exact asks

theorem SmartHive.Account.check_asks (account : Account) (address : IsWebAddress account.baseUrl)
    : AsksCredentials "smarthive.api_key" "smarthive.sender" account.apiKey account.sender
        account.check := by
  have asks := AccountCheck.run_asks
    ⟨"smarthive", account.apiKey, "sender", account.sender, account.baseUrl⟩ address
  simp only [String.reduceAppend] at asks
  exact asks

/-- A sound policy adds nothing to the check of an account. -/
theorem Termii.Otp.check_of_sound {account : Termii.Account} (sound : account.otp.Sound)
    : check account = account.check := by
  rw [check, account.otp.validate_eq_ok_iff.mpr sound]
  cases account.check <;> rfl

namespace Desk

/-- Where the settings are valid, the providers ask for the credentials of their accounts and for
nothing else: not for an address, and not for a policy. The configured template has a place for the
pin, and numbers are completed with a country code. -/
theorem checks_ask_credentials (desk : Desk) (valid : desk.settings.validate = .ok ())
    (client : Http.Client)
    : let termii := desk.settings.termii
      let smarthive := desk.settings.smarthive
      AsksCredentials "termii.api_key" "termii.sender_id" termii.apiKey termii.senderId
        desk.smsProvider.check
      ∧ AsksCredentials "termii.api_key" "termii.sender_id" termii.apiKey termii.senderId
          desk.otpProvider.check
      ∧ (∀ flash route,
        AsksCredentials "smarthive.api_key" "smarthive.sender" smarthive.apiKey smarthive.sender
          (desk.smartHiveProvider flash route).check)
      ∧ Termii.Otp.checkTemplate termii termii.otp.messageText = .ok ()
      ∧ Phone.IsCountryCode (Context.make client desk.settings).countryCode := by
  intro termii smarthive
  obtain ⟨-, -, defaultsValid, termiiValid, smarthiveValid⟩ := Settings.validate_eq_ok_iff.mp valid
  obtain ⟨reached, sound⟩ := Termii.Account.validateSettings_eq_ok_iff.mp termiiValid
  have termiiAsks := termii.check_asks ((checkBaseUrl_eq_ok_iff _ _).mp reached)
  have smarthiveAsks := smarthive.check_asks ((checkBaseUrl_eq_ok_iff _ _).mp smarthiveValid)
  refine ⟨termiiAsks, ?_, ?_, ?_, ?_⟩
  · have passwords : desk.otpProvider.check = termii.check := Termii.Otp.check_of_sound sound
    rwa [passwords]
  · intro flash route
    have same : (desk.smartHiveProvider flash route).check = smarthive.check := by
      cases flash <;> cases route <;> rfl
    rwa [same]
  · exact (Termii.Otp.checkTemplate_eq_ok_iff termii _).mpr sound.places
  · exact (Settings.isCountryCode_iff _).mp (require_eq_ok_iff.mp defaultsValid)

/-- A desk with a key for each provider and no sender for the second one. -/
def halfNamed : Desk where
  settings :=
    { defaults := { countryCode := "+44" }
      termii := { apiKey := ⟨"secret-key"⟩, senderId := "Shop", baseUrl := "http://provider" }
      smarthive := { apiKey := ⟨"second-key"⟩, sender := " " } }
  context := ⟨⟨"agent"⟩, "44", .short⟩
  dryRun := false

/-- The settings are valid, and only the sender that is missing keeps the second provider from
sending. -/
theorem checks_ask_credentials_halfNamed
    : halfNamed.settings.validate = .ok ()
      ∧ halfNamed.smsProvider.check = .ok ()
      ∧ halfNamed.otpProvider.check = .ok ()
      ∧ (∃ reason,
        (halfNamed.smartHiveProvider true none).check = .error (.invalid "smarthive.sender" reason))
      ∧ Phone.IsCountryCode (Context.make ⟨"agent"⟩ halfNamed.settings).countryCode := by
  have valid : halfNamed.settings.validate = .ok () := by decide +kernel
  obtain ⟨sms, otp, smarthive, -, code⟩ := checks_ask_credentials halfNamed valid ⟨"agent"⟩
  have first : halfNamed.settings.termii.apiKey.Usable := ⟨by decide, by decide⟩
  have second : halfNamed.settings.smarthive.apiKey.Usable := ⟨by decide, by decide⟩
  refine ⟨valid, ?_, ?_, ?_, code⟩
  · exact sms.accepts.mpr ⟨first, by decide⟩
  · exact otp.accepts.mpr ⟨first, by decide⟩
  · exact (smarthive true none).blamesSender second (by decide)

end Desk

end Courier
