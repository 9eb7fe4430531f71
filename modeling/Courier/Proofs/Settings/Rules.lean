import Courier.Proofs.Dispatch.Checks
import Courier.Proofs.Rules
import Courier.Proofs.Settings.Validation

/-! The rules of the settings. Settings are valid exactly when they keep every rule, and otherwise
the field that is reported is that of the first rule that is broken, in the order of the list.
-/

namespace Courier

open Courier.Config (Fault)
open Courier.Text (dropLeading isBlankText isDigit lowerAsciiText trim)

/-- An address of the web: it can be read, and its scheme is one of the two. -/
def IsWebAddress (address : String) : Prop :=
  ∃ url, Url.parse? address = some url ∧ (url.scheme = "http" ∨ url.scheme = "https")

-----------------------------------------------------------------------------------------
-- The rules
-----------------------------------------------------------------------------------------

namespace Settings

/-- A format must be known even where no file is written. -/
def LogFile.rules (file : LogFile) : List Rule :=
  [⟨"logger.file.format", lowerAsciiText (trim file.format) ∈ ["full", "compact", "json"]⟩,
    ⟨"logger.file.path", file.enabled = true → isBlankText file.path = false⟩]

def Logger.rules (logger : Logger) : List Rule :=
  ⟨"logger.level",
    lowerAsciiText (trim logger.level) ∈ ["trace", "debug", "info", "warn", "error"]⟩
  :: (logger.file.rules
    ++ [⟨"logger", logger.console.enabled = true ∨ logger.file.enabled = true⟩])

def Http.rules (http : Http) : List Rule :=
  [⟨"http.timeout_seconds", 0 < http.timeoutSeconds.toNat⟩,
    ⟨"http.connect_timeout_seconds", 0 < http.connectTimeoutSeconds.toNat⟩,
    ⟨"http.connect_timeout_seconds",
      http.connectTimeoutSeconds.toNat ≤ http.timeoutSeconds.toNat⟩,
    ⟨"http.user_agent", isBlankText http.userAgent = false⟩]

def Defaults.rules (defaults : Defaults) : List Rule :=
  [⟨"defaults.country_code", Phone.IsCountryCode (dropLeading '+' defaults.countryCode)⟩]

end Settings

/-- The rules of a policy, each of which is reported with the policy as a whole. -/
def Otp.Policy.rules (policy : Policy) : List Rule :=
  [4 ≤ policy.pinLength.toNat ∧ policy.pinLength.toNat ≤ 8, 1 ≤ policy.pinAttempts.toNat,
    policy.pinTimeToLive.toNat ≤ 60, policy.pinPlaceholder ≠ "",
    policy.pinPlaceholder.toList <:+: policy.messageText.toList].map (⟨"termii.otp", ·⟩)

def Termii.Account.rules (account : Account) : List Rule :=
  ⟨"termii.base_url", IsWebAddress account.baseUrl⟩ :: account.otp.rules

def SmartHive.Account.rules (account : Account) : List Rule :=
  [⟨"smarthive.base_url", IsWebAddress account.baseUrl⟩]

/-- The rules of the settings, in the order in which breaches are reported. -/
def Settings.rules (settings : Settings) : List Rule :=
  settings.logger.rules ++ settings.http.rules ++ settings.defaults.rules
    ++ settings.termii.rules ++ settings.smarthive.rules

-----------------------------------------------------------------------------------------
-- The checks
-----------------------------------------------------------------------------------------

theorem require_enforces {holds : Bool} {kept : Prop} {field message : String}
    (holds_iff : holds = true ↔ kept)
    : Enforces Fault.invalid [⟨field, kept⟩] (require holds field message) := by
  rw [← holds_iff]
  cases holds with
  | true => exact .of_rule (iff_of_true ⟨(), rfl⟩ rfl) nofun
  | false =>
      refine .of_rule (iff_of_false nofun nofun) fun fault fails => ?_
      exact ⟨message, (Except.error.inj fails).symm⟩

theorem checkBaseUrl_enforces (field address : String)
    : Enforces Fault.invalid [⟨field, IsWebAddress address⟩] (checkBaseUrl field address) := by
  refine .of_rule ?_ fun fault fails => ?_
  · rw [IsWebAddress, ← checkBaseUrl_eq_ok_iff field]
    exact ⟨fun ⟨_, passes⟩ => passes, fun passes => ⟨(), passes⟩⟩
  · rw [checkBaseUrl] at fails
    split at fails
    · exact ⟨_, (Except.error.inj fails).symm⟩
    · split at fails
      · cases fails
      · exact ⟨_, (Except.error.inj fails).symm⟩

namespace Settings

/-- A setting of the log that is parsed is accepted where the parser takes it, and else its own
field is blamed. -/
theorem parsed_enforces {α : Type} {parsed : Except Log.Fault α} {field : String} {kept : Prop}
    (parses : (∃ a, parsed = .ok a) ↔ kept)
    : Enforces Fault.invalid [⟨field, kept⟩] (parsed.mapError (logFault field)) := by
  rw [← parses]
  cases parsed with
  | ok a => exact .of_rule (iff_of_true ⟨a, rfl⟩ ⟨a, rfl⟩) nofun
  | error fault =>
      refine .of_rule (iff_of_false nofun nofun) fun other fails => ?_
      exact ⟨fault.message, (Except.error.inj fails).symm⟩

/-- A choice is found where the name is that of one of them. -/
theorem isSome_find?_named {α : Type} (all : List α) (nameOf : α → String) (name : String)
    : (all.find? (nameOf · == name)).isSome = true ↔ name ∈ all.map nameOf := by
  simp [List.find?_isSome, List.mem_map]

theorem level_parses_iff (raw : String)
    : (∃ level, Log.Level.parse raw = .ok level)
      ↔ lowerAsciiText (trim raw) ∈ ["trace", "debug", "info", "warn", "error"] := by
  refine Iff.trans ?_ (isSome_find?_named Log.Level.all Log.Level.name _)
  rw [Log.Level.parse]
  cases Log.Level.all.find? (·.name == lowerAsciiText (trim raw)) with
  | some level => exact iff_of_true ⟨level, rfl⟩ rfl
  | none => exact iff_of_false nofun nofun

theorem format_parses_iff (raw : String)
    : (∃ format, Log.Format.parse raw = .ok format)
      ↔ lowerAsciiText (trim raw) ∈ ["full", "compact", "json"] := by
  refine Iff.trans ?_ (isSome_find?_named Log.Format.all Log.Format.name _)
  rw [Log.Format.parse]
  cases Log.Format.all.find? (·.name == lowerAsciiText (trim raw)) with
  | some format => exact iff_of_true ⟨format, rfl⟩ rfl
  | none => exact iff_of_false nofun nofun

theorem LogFile.target_enforces (file : LogFile)
    : Enforces Fault.invalid file.rules file.target := by
  refine (parsed_enforces (format_parses_iff file.format)).bind fun format _ => ?_
  cases enabled : file.enabled with
  | false => exact .of_rule (iff_of_true ⟨none, rfl⟩ nofun) nofun
  | true =>
      simp only [Bool.not_true, Bool.false_eq_true, if_false, forall_const]
      refine Enforces.bind (require_enforces (by simp)) fun _ _ => ?_
      exact .ok _

/-- A log has a file as its output exactly where one is asked for. -/
theorem LogFile.isNone_of_target {file : LogFile} {target : Option Log.Target}
    (made : file.target = .ok target)
    : target.isNone = !file.enabled := by
  obtain ⟨format, _, made⟩ := bind_eq_ok_iff.mp made
  cases enabled : file.enabled with
  | false =>
      simp only [enabled, Bool.not_false, if_true, pure, Except.pure, Except.ok.injEq] at made
      rw [← made]
      rfl
  | true =>
      simp only [enabled, Bool.not_true, Bool.false_eq_true, if_false] at made
      obtain ⟨_, made⟩ := then_eq_ok_iff.mp made
      rw [← Except.ok.inj made]
      rfl

theorem Logger.setup_enforces (logger : Logger)
    : Enforces Fault.invalid logger.rules logger.setup := by
  refine (parsed_enforces (level_parses_iff logger.level)).bind fun level _ => ?_
  refine logger.file.target_enforces.bind fun target made => ?_
  refine parsed_enforces ?_
  have written := LogFile.isNone_of_target made
  rw [Log.Setup.make, written]
  cases logger.console.enabled <;> cases logger.file.enabled <;> simp

theorem Http.validate_enforces (http : Http)
    : Enforces Fault.invalid http.rules http.validate := by
  have pos (w : UInt64) : (w != 0) = true ↔ 0 < w.toNat := by
    rw [bne_iff_ne, Ne, ← UInt64.toNat_inj]
    exact Nat.pos_iff_ne_zero.symm
  refine (require_enforces (pos http.timeoutSeconds)).bind fun _ _ => ?_
  refine (require_enforces (pos http.connectTimeoutSeconds)).bind fun _ _ => ?_
  refine (require_enforces (by simp)).bind fun _ _ => ?_
  exact require_enforces (by simp)

/-- Whether a code with plus signs before it is a country code. -/
theorem isCountryCode_iff (code : String)
    : isCountryCode code = true ↔ Phone.IsCountryCode (dropLeading '+' code) := by
  have filled_iff (cs : List Char) : (!cs.isEmpty) = true ↔ 1 ≤ cs.length := by
    cases cs <;> simp
  rw [isCountryCode, Bool.and_eq_true, Bool.and_eq_true, filled_iff, decide_eq_true_eq,
    List.all_eq_true]
  constructor
  · rintro ⟨⟨filled, short⟩, digits⟩
    exact ⟨by simpa [dropLeading] using filled, by simpa [dropLeading] using short,
      by simpa [dropLeading] using digits⟩
  · intro is
    have filled := is.filled
    have short := is.short
    have digits := is.digits
    simp only [dropLeading, String.length_ofList, String.toList_ofList] at filled short digits
    exact ⟨⟨filled, short⟩, digits⟩

theorem Defaults.validate_enforces (defaults : Defaults)
    : Enforces Fault.invalid defaults.rules defaults.validate :=
  require_enforces (isCountryCode_iff defaults.countryCode)

end Settings

theorem Otp.Policy.rules_iff (policy : Policy)
    : (∀ rule ∈ policy.rules, rule.Holds) ↔ policy.Sound := by
  simp only [rules, List.forall_mem_map, List.forall_mem_cons]
  constructor
  · rintro ⟨length, attempts, timeToLive, given, occurs, -⟩
    exact ⟨length, attempts, timeToLive, given, occurs⟩
  · rintro ⟨length, attempts, timeToLive, given, occurs⟩
    exact ⟨length, attempts, timeToLive, given, occurs, nofun⟩

theorem Termii.Account.validateSettings_enforces (account : Account)
    : Enforces Fault.invalid account.rules account.validateSettings := by
  refine (checkBaseUrl_enforces _ account.baseUrl).bind fun _ _ => ?_
  have named : ∀ rule ∈ account.otp.rules, rule.field = "termii.otp" := by
    simp [Otp.Policy.rules]
  refine .of_field named ?_ ?_
  · have accepts := account.otp.validate_eq_ok_iff.trans account.otp.rules_iff.symm
    constructor
    · rintro ⟨_, passes⟩
      exact accepts.mp (mapError_eq_ok_iff.mp passes)
    · intro all
      exact ⟨(), mapError_eq_ok_iff.mpr (accepts.mpr all)⟩
  · intro fault fails
    cases checked : account.otp.validate with
    | ok _ =>
        rw [checked] at fails
        cases fails
    | error errors =>
        rw [checked] at fails
        exact ⟨_, (Except.error.inj fails).symm⟩

theorem SmartHive.Account.validateSettings_enforces (account : Account)
    : Enforces Fault.invalid account.rules account.validateSettings :=
  checkBaseUrl_enforces _ account.baseUrl

namespace Settings

theorem validate_enforces (settings : Settings)
    : Enforces Fault.invalid settings.rules settings.validate := by
  have logger : Enforces Fault.invalid settings.logger.rules settings.logger.validate :=
    settings.logger.setup_enforces.map fun _ => ()
  have whole :=
    logger.bind fun _ _ =>
      settings.http.validate_enforces.bind fun _ _ =>
        settings.defaults.validate_enforces.bind fun _ _ =>
          settings.termii.validateSettings_enforces.bind fun _ _ =>
            settings.smarthive.validateSettings_enforces
  simp only [← List.append_assoc] at whole
  exact whole

/-- Settings are valid exactly when they keep all rules. If they do not, the field that is reported
is that of the first rule that is broken. -/
theorem validate_ruled (settings : Settings)
    : (settings.validate = .ok () ↔ ∀ rule ∈ settings.rules, rule.Holds)
      ∧ ((¬ ∀ rule ∈ settings.rules, rule.Holds)
        → ∃ broken message,
          Rule.FirstBroken settings.rules broken
          ∧ settings.validate = .error (.invalid broken.field message)) := by
  obtain ⟨accepts, blames⟩ := settings.validate_enforces
  have valid_iff : settings.validate = .ok () ↔ ∀ rule ∈ settings.rules, rule.Holds :=
    ⟨fun valid => accepts.mp ⟨(), valid⟩, fun all => (accepts.mpr all).elim fun _ valid => valid⟩
  refine ⟨valid_iff, fun some => ?_⟩
  cases checked : settings.validate with
  | ok => exact absurd (valid_iff.mp checked) some
  | error fault =>
      obtain ⟨broken, message, first, rfl⟩ := blames fault checked
      exact ⟨broken, message, first, rfl⟩

/-- Of several breaches the first is reported, and what comes later does not matter. -/
example
    : ({ http := { timeoutSeconds := 0, userAgent := " " }, defaults := { countryCode := "NG" } }
        : Settings).validate
      = .error
          (.invalid "http.timeout_seconds" "Request timeout must be greater than 0 seconds.") := by
  rfl

end Settings

end Courier
