/-! Steps that can fail. What a sequence of steps returns tells what each of them returned.
-/

namespace Courier

variable {α β ε : Type}

/-- Whether steps return a value can be told without comparing faults. -/
instance decidableEqOk [DecidableEq α] : (check : Except ε α) → (a : α) → Decidable (check = .ok a)
  | .ok b, a => decidable_of_iff (b = a) ⟨congrArg _, Except.ok.inj⟩
  | .error _, _ => isFalse nofun

theorem isOk_iff_exists {check : Except ε α} : check.isOk = true ↔ ∃ a, check = .ok a := by
  cases check with
  | ok a => exact iff_of_true rfl ⟨a, rfl⟩
  | error fault => exact iff_of_false nofun nofun

theorem toOption_eq_some_iff {check : Except ε α} {a : α}
    : check.toOption = some a ↔ check = .ok a := by
  cases check with
  | ok b => simp [Except.toOption]
  | error fault => exact iff_of_false nofun nofun

theorem bind_eq_ok_iff {check : Except ε α} {next : α → Except ε β} {b : β}
    : (check >>= next) = .ok b ↔ ∃ a, check = .ok a ∧ next a = .ok b := by
  cases check with
  | ok a => simp [bind, Except.bind]
  | error fault => simp [bind, Except.bind]

theorem then_eq_ok_iff {check : Except ε Unit} {next : Except ε β} {b : β}
    : (check >>= fun _ => next) = .ok b ↔ check = .ok () ∧ next = .ok b :=
  bind_eq_ok_iff.trans ⟨fun ⟨_, ends⟩ => ends, fun ends => ⟨(), ends⟩⟩

theorem map_eq_ok_iff {check : Except ε α} {change : α → β} {b : β}
    : check.map change = .ok b ↔ ∃ a, check = .ok a ∧ change a = b := by
  cases check with
  | ok a => simp [Except.map]
  | error fault => simp [Except.map]

/-- Steps whose results a change makes the same fail alike or return what is changed alike. -/
theorem error_or_ok_of_map_eq {check other : Except ε α} {change : α → β}
    (same : check.map change = other.map change)
    : (∃ fault, check = .error fault ∧ other = .error fault)
      ∨ ∃ a b, check = .ok a ∧ other = .ok b ∧ change a = change b := by
  cases check with
  | error fault =>
      cases other with
      | error fault' => exact .inl ⟨fault, rfl, congrArg _ (Except.error.inj same).symm⟩
      | ok b => cases same
  | ok a =>
      cases other with
      | error fault => cases same
      | ok b => exact .inr ⟨a, b, rfl, rfl, Except.ok.inj same⟩

theorem mapError_eq_ok_iff {check : Except α β} {blame : α → ε} {b : β}
    : check.mapError blame = .ok b ↔ check = .ok b := by
  cases check with
  | ok a =>
      exact
        ⟨fun same => congrArg _ (Except.ok.inj same), fun same => congrArg _ (Except.ok.inj same)⟩
  | error fault => exact iff_of_false nofun nofun

end Courier
