import Courier.Proofs.Dispatch.Checks
import Courier.Proofs.Failure
import Mathlib.Data.List.Infix

/-! What is said of a policy. Where the account is fit and the address is one of the web, the check
before a one-time password is sent and the check of the settings reject the same policies. The first
one lists each field whose own rule is broken, or else the template, in the order of the fields and
in whatever order the error map is walked.
-/

namespace Courier

-----------------------------------------------------------------------------------------
-- What a policy is blamed for
-----------------------------------------------------------------------------------------

namespace Otp.Policy

/-- A field is to be blamed where its own rule is broken. -/
inductive BlamesField (policy : Policy) : FieldFault → Prop
  | attempts (none : policy.pinAttempts.toNat < 1)
    : policy.BlamesField ⟨"pin_attempts", "pin_attempts must be at least 1"⟩
  | timeToLive (long : 60 < policy.pinTimeToLive.toNat)
    : policy.BlamesField
        ⟨"pin_time_to_live", "pin_time_to_live must be between 0 and 60 minutes"⟩
  | length (outside : policy.pinLength.toNat < 4 ∨ 8 < policy.pinLength.toNat)
    : policy.BlamesField ⟨"pin_length", "pin_length must be between 4 and 8"⟩
  | placeholder (empty : policy.pinPlaceholder = "")
    : policy.BlamesField ⟨"pin_placeholder", "pin_placeholder cannot be empty"⟩

/-- What a policy is to be blamed for: fields, or where none of them is, a template without a place
for the pin. -/
inductive Blames (policy : Policy) : FieldFault → Prop
  | field {fault : FieldFault} (blamed : policy.BlamesField fault) : policy.Blames fault
  | template (unblamed : ∀ fault, ¬ policy.BlamesField fault)
    (missing : ¬ policy.pinPlaceholder.toList <:+: policy.messageText.toList)
    : policy.Blames ⟨"__all__", "message_text must contain pin_placeholder"⟩

variable {policy : Policy}

theorem mem_fieldErrors_iff {entry : String × FieldError}
    : entry ∈ policy.fieldErrors
      ↔ ∃ rule ∈ policy.fieldRules, rule.2 = false ∧ (rule.1.1, .rules [rule.1.2]) = entry := by
  simp [fieldErrors, and_assoc]

theorem mem_faults_of_rule {rule : (String × Breach) × Bool} (among : rule ∈ policy.fieldRules)
    (broken : rule.2 = false)
    : ⟨rule.1.1, rule.1.2.message⟩ ∈ policy.fieldErrors.faults := by
  have entry : (rule.1.1, [rule.1.2]) ∈ policy.fieldErrors.fieldEntries :=
    ErrorMap.mem_fieldEntries_iff.mpr (mem_fieldErrors_iff.mpr ⟨rule, among, broken, rfl⟩)
  exact List.mem_flatMap.mpr ⟨_, entry, List.mem_singleton_self _⟩

/-- The entries of fields hold what the fields are to be blamed for, one rule after another. -/
theorem mem_faults_fieldErrors_iff {fault : FieldFault}
    : fault ∈ policy.fieldErrors.faults ↔ policy.BlamesField fault := by
  constructor
  · intro listed
    obtain ⟨⟨field, breaches⟩, among, named⟩ := List.mem_flatMap.mp listed
    obtain ⟨rule, isRule, broken, same⟩ :=
      mem_fieldErrors_iff.mp (ErrorMap.mem_fieldEntries_iff.mp among)
    cases same
    obtain rfl := List.mem_singleton.mp named
    simp only [fieldRules, List.mem_cons, List.not_mem_nil, or_false] at isRule
    rcases isRule with rfl | rfl | rfl | rfl
    · exact .attempts (by simpa [UInt32.le_iff_toNat_le] using broken)
    · exact .timeToLive (by simpa [UInt32.le_iff_toNat_le] using broken)
    · exact .length (by simpa [UInt32.le_iff_toNat_le, Decidable.imp_iff_not_or] using broken)
    · exact .placeholder (by simpa using broken)
  · intro blamed
    cases blamed with
    | attempts none =>
        apply mem_faults_of_rule (.head _)
        simpa [UInt32.le_iff_toNat_le] using none
    | timeToLive long =>
        apply mem_faults_of_rule (.tail _ (.head _))
        simpa [UInt32.le_iff_toNat_le] using long
    | length outside =>
        apply mem_faults_of_rule (.tail _ (.tail _ (.head _)))
        simpa [UInt32.le_iff_toNat_le, Decidable.imp_iff_not_or] using outside
    | placeholder empty =>
        apply mem_faults_of_rule (.tail _ (.tail _ (.tail _ (.head _))))
        simp [empty]

/-- No field is blamed where no rule of a field is broken. -/
theorem unblamed_iff : (∀ fault, ¬ policy.BlamesField fault) ↔ policy.fieldErrors = [] := by
  simp only [← mem_faults_fieldErrors_iff]
  constructor
  · intro none
    apply List.eq_nil_iff_forall_not_mem.mpr
    intro entry among
    obtain ⟨rule, isRule, broken, -⟩ := mem_fieldErrors_iff.mp among
    exact none _ (mem_faults_of_rule isRule broken)
  · intro empty fault
    rw [empty]
    exact List.not_mem_nil

theorem errors_of_fields (broken : policy.fieldErrors ≠ [])
    : policy.errors = policy.fieldErrors := by
  rw [errors]
  cases found : policy.fieldErrors with
  | nil => exact absurd found broken
  | cons entry others => rfl

/-- Where no rule of a field is broken, the template counts. -/
theorem errors_of_template (fine : policy.fieldErrors = [])
    : policy.errors
      = if policy.pinPlaceholder.toList <:+: policy.messageText.toList then []
        else [templateError] := by
  obtain ⟨-, -, -, given⟩ := policy.fieldErrors_eq_nil_iff.mp fine
  have placed_iff := policy.hasPlaceholder_iff policy.messageText
  simp only [Places, given, ne_eq, not_false_eq_true, true_and] at placed_iff
  simp only [errors, fine, placed_iff]

/-- The error map of a policy holds what the policy is to be blamed for. -/
theorem mem_faults_iff {fault : FieldFault}
    : fault ∈ policy.errors.faults ↔ policy.Blames fault := by
  by_cases fine : policy.fieldErrors = []
  · have unblamed := unblamed_iff.mpr fine
    rw [errors_of_template fine]
    split
    · rename_i placed
      refine iff_of_false List.not_mem_nil fun blamed => ?_
      cases blamed with
      | field blamed => exact unblamed _ blamed
      | template _ missing => exact missing placed
    · rename_i missing
      constructor
      · intro only
        obtain rfl := List.mem_singleton.mp only
        exact .template unblamed missing
      · intro blamed
        cases blamed with
        | field blamed => exact absurd blamed (unblamed _)
        | template => exact List.mem_singleton_self _
  · rw [errors_of_fields fine, mem_faults_fieldErrors_iff]
    constructor
    · exact .field
    · intro blamed
      cases blamed with
      | field blamed => exact blamed
      | template unblamed => exact absurd (unblamed_iff.mp unblamed) fine

/-- No field has two entries. -/
theorem distinct_errors (policy : Policy) : policy.errors.Distinct := by
  by_cases fine : policy.fieldErrors = []
  · rw [errors_of_template fine]
    split
    · exact List.nodup_nil
    · exact List.pairwise_singleton _ _
  · rw [errors_of_fields fine]
    have among : (policy.fieldErrors.map Prod.fst).Sublist (policy.fieldRules.map (·.1.1)) := by
      rw [fieldErrors, List.map_map]
      exact List.filter_sublist.map _
    exact among.nodup (by simp [fieldRules])

/-- Each entry is of a field itself and says one thing of it. -/
theorem single_errors (policy : Policy)
    : ∀ entry ∈ policy.errors, ∃ breach, entry.2 = .rules [breach] := by
  by_cases fine : policy.fieldErrors = []
  · rw [errors_of_template fine]
    split
    · exact nofun
    · intro entry only
      obtain rfl := List.mem_singleton.mp only
      exact ⟨_, rfl⟩
  · rw [errors_of_fields fine]
    intro entry among
    obtain ⟨rule, -, -, rfl⟩ := mem_fieldErrors_iff.mp among
    exact ⟨_, rfl⟩

/-- Sorted, the faults of a policy have fields that increase. -/
theorem increasing_faults (policy : Policy)
    : (Failure.sortFaults policy.errors.faults).Pairwise (·.field < ·.field) :=
  policy.distinct_errors.fieldEntries.increasing fun (field, breaches) among => by
    obtain ⟨breach, only⟩ := policy.single_errors _ (ErrorMap.mem_fieldEntries_iff.mp among)
    exact ⟨breach, FieldError.rules.inj only⟩

end Otp.Policy

-----------------------------------------------------------------------------------------
-- The checks of a policy
-----------------------------------------------------------------------------------------

namespace Termii

variable {account other : Account}

theorem Otp.check_of_fit (fit : account.check = .ok ())
    : check account = account.otp.validate.mapError Failure.ofErrors := by
  rw [check, fit]
  rfl

theorem Account.validateSettings_of_reached
    (reached : checkBaseUrl "termii.base_url" account.baseUrl = .ok ())
    : account.validateSettings
      = account.otp.validate.mapError fun errors =>
        .invalid "termii.otp" (Otp.Policy.faultLines errors) := by
  rw [validateSettings, reached]
  rfl

/-- With a fit account and an address of the web, a policy is rejected before a one-time password is
sent exactly when the settings reject it, and the failure is the same in whatever order the error
map is walked. The fields that it lists increase, and they are those whose own rule is broken, or
the template's where no field's rule is. Any other error map, too, becomes one list for all orders
of the map and of the entries of its fields. No rule that a field breaks itself is lost or doubled
there, and of records and lists nothing is told. -/
theorem Otp.check_lists {order : ErrorMap → ErrorMap} (fit : account.check = .ok ())
    (reached : checkBaseUrl "termii.base_url" other.baseUrl = .ok ())
    (shared : other.otp = account.otp) (reorders : ∀ errors, (order errors).Perm errors)
    : ((∃ faults, check account = .error (.invalidFields faults))
        ↔ ∃ message, other.validateSettings = .error (.invalid "termii.otp" message))
      ∧ check account = account.otp.validate.mapError (fun errors => .ofErrors (order errors))
      ∧ (∀ failure, check account = .error failure →
        ∃ faults, failure = .invalidFields faults
          ∧ faults.Pairwise (·.field < ·.field)
          ∧ ∀ fault, fault ∈ faults ↔ account.otp.Blames fault)
      ∧ ∀ errors : ErrorMap, errors.Distinct →
        ∃ faults, Failure.ofErrors errors = .invalidFields faults
          ∧ Failure.ofErrors (order errors) = .invalidFields faults
          ∧ (∀ walked,
            walked.Perm errors.fieldEntries
            → Failure.ofFieldEntries walked = .invalidFields faults)
          ∧ errors.Lists faults := by
  rw [check_of_fit fit, Account.validateSettings_of_reached reached, shared]
  refine ⟨?_, ?_, ?_, fun errors distinct => ?_⟩
  · cases account.otp.validate with
    | ok _ => exact iff_of_false nofun nofun
    | error errors => exact iff_of_true ⟨_, rfl⟩ ⟨_, rfl⟩
  · cases checked : account.otp.validate with
    | ok _ => rfl
    | error errors =>
        obtain ⟨rfl, -⟩ := Otp.Policy.validate_eq_error_iff.mp checked
        exact congrArg _ (account.otp.distinct_errors.ofErrors_eq (reorders _)).symm
  · intro failure fails
    cases checked : account.otp.validate with
    | ok _ =>
        rw [checked] at fails
        cases fails
    | error errors =>
        rw [checked] at fails
        obtain ⟨rfl, -⟩ := Otp.Policy.validate_eq_error_iff.mp checked
        refine ⟨_, (Except.error.inj fails).symm, account.otp.increasing_faults, fun fault => ?_⟩
        exact (Failure.perm_sortFaults _).mem_iff.trans Otp.Policy.mem_faults_iff
  · refine ⟨_, rfl, distinct.ofErrors_eq (reorders errors), fun walked reordered => ?_,
      distinct.lists⟩
    exact congrArg Failure.invalidFields (distinct.fieldEntries.sortFaults_eq reordered)

/-- A policy of which two rules of fields are broken, and whose template has no place for the
pin. -/
def unruly : Account where
  apiKey := ⟨"secret-key"⟩
  senderId := "Shop"
  otp := { pinAttempts := 0, pinLength := 9, messageText := "Your code" }

/-- The two fields are listed whether the error map is walked forwards or backwards, and the
settings reject the policy as well. -/
theorem Otp.check_lists_unruly
    : unruly.check = .ok ()
      ∧ checkBaseUrl "termii.base_url" unruly.baseUrl = .ok ()
      ∧ (∃ message, unruly.validateSettings = .error (.invalid "termii.otp" message))
      ∧ check unruly = unruly.otp.validate.mapError (fun errors => .ofErrors errors.reverse)
      ∧ check unruly
        = .error (.invalidFields
          [⟨"pin_attempts", "pin_attempts must be at least 1"⟩,
            ⟨"pin_length", "pin_length must be between 4 and 8"⟩]) := by
  have fit : unruly.check = .ok () := by decide +kernel
  have reached : checkBaseUrl "termii.base_url" unruly.baseUrl = .ok () := by decide +kernel
  obtain ⟨alike, walked, -, -⟩ := check_lists fit reached rfl fun errors => errors.reverse_perm
  have fails
      : check unruly
        = .error (.invalidFields
          [⟨"pin_attempts", "pin_attempts must be at least 1"⟩,
            ⟨"pin_length", "pin_length must be between 4 and 8"⟩]) :=
    (check_of_fit fit).trans rfl
  exact ⟨fit, reached, alike.mp ⟨_, fails⟩, walked, fails⟩

end Termii

end Courier
