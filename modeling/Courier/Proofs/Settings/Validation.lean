import Courier.Proofs.Checks
import Courier.Settings.Validation

/-! What valid settings are, section by section.
-/

namespace Courier

theorem require_eq_ok_iff {holds : Bool} {field message : String}
    : require holds field message = .ok () ↔ holds = true := by
  cases holds with
  | true => exact iff_of_true rfl rfl
  | false => exact iff_of_false nofun nofun

namespace Settings

theorem validate_eq_ok_iff {settings : Settings}
    : settings.validate = .ok ()
      ↔ settings.logger.validate = .ok () ∧ settings.http.validate = .ok ()
        ∧ settings.defaults.validate = .ok () ∧ settings.termii.validateSettings = .ok ()
        ∧ settings.smarthive.validateSettings = .ok () := by
  simp only [validate, then_eq_ok_iff]

/-- The defaults pass their own checks. -/
theorem validate_default : ({} : Settings).validate = .ok () := by
  decide +kernel

/-- Valid timeouts are positive. -/
theorem Http.timeouts_pos_of_validate {http : Http} (valid : http.validate = .ok ())
    : 1 ≤ http.timeoutSeconds.toNat ∧ 1 ≤ http.connectTimeoutSeconds.toNat := by
  have pos_of_ne_zero {w : UInt64} (given : (w != 0) = true) : 1 ≤ w.toNat :=
    Nat.one_le_iff_ne_zero.mpr fun zero => bne_iff_ne.mp given (UInt64.toNat_inj.mp zero)
  simp only [Http.validate, then_eq_ok_iff, require_eq_ok_iff] at valid
  exact ⟨pos_of_ne_zero valid.1, pos_of_ne_zero valid.2.1⟩

end Settings

end Courier
