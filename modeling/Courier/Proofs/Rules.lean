import Courier.Proofs.Checks

/-! Rules in an order. A check that goes through rules one after another accepts exactly what keeps
all of them, and otherwise it blames the field of the first one that is broken.
-/

namespace Courier

variable {α β ε : Type}

/-- A rule: the field that is to blame for a breach of it, and whether it holds. -/
structure Rule where
  field : String
  Holds : Prop

namespace Rule

/-- A rule is the first of several that is broken. -/
def FirstBroken (rules : List Rule) (broken : Rule) : Prop :=
  ∃ before after,
    rules = before ++ broken :: after ∧ (∀ rule ∈ before, rule.Holds) ∧ ¬ broken.Holds

variable {rules later : List Rule} {broken : Rule}

theorem FirstBroken.append (first : FirstBroken rules broken) (later : List Rule)
    : FirstBroken (rules ++ later) broken := by
  obtain ⟨before, after, rfl, kept, breaks⟩ := first
  exact ⟨before, after ++ later, by simp, kept, breaks⟩

theorem FirstBroken.after (first : FirstBroken later broken) (all : ∀ rule ∈ rules, rule.Holds)
    : FirstBroken (rules ++ later) broken := by
  obtain ⟨before, after, rfl, kept, breaks⟩ := first
  refine ⟨rules ++ before, after, by simp, fun rule among => ?_, breaks⟩
  rcases List.mem_append.mp among with early | late
  · exact all rule early
  · exact kept rule late

theorem FirstBroken.mem (first : FirstBroken rules broken) : broken ∈ rules := by
  obtain ⟨before, after, rfl, _, _⟩ := first
  simp

theorem FirstBroken.not_all (first : FirstBroken rules broken) : ¬ ∀ rule ∈ rules, rule.Holds := by
  obtain ⟨before, after, rfl, _, breaks⟩ := first
  exact fun all => breaks (all broken (by simp))

/-- Rules that do not all hold have a first one that is broken, by induction on the rules. -/
theorem exists_firstBroken (some : ¬ ∀ rule ∈ rules, rule.Holds)
    : ∃ broken, FirstBroken rules broken := by
  induction rules with
  | nil => exact absurd nofun some
  | cons rule rules ih =>
      by_cases holds : rule.Holds
      · have others : ¬ ∀ rule ∈ rules, rule.Holds :=
          fun all => some (List.forall_mem_cons.mpr ⟨holds, all⟩)
        obtain ⟨broken, first⟩ := ih others
        have here : ∀ first ∈ [rule], first.Holds := by simpa using holds
        exact ⟨broken, first.after here⟩
      · exact ⟨rule, [], rules, rfl, nofun, holds⟩

end Rule

open Rule (FirstBroken)

/-- A check enforces rules in their order: it accepts exactly when all of them hold, and what it
reports blames the field of the first one that is broken. -/
structure Enforces (blame : String → String → ε) (rules : List Rule) (check : Except ε α)
    : Prop where
  accepts : (∃ a, check = .ok a) ↔ ∀ rule ∈ rules, rule.Holds
  blames (fault : ε)
    : check = .error fault
      → ∃ broken message, FirstBroken rules broken ∧ fault = blame broken.field message

namespace Enforces

variable {blame : String → String → ε} {rules later : List Rule} {check : Except ε α}

/-- A check that accepts nothing but what keeps the rules, and blames one field for all breaches. -/
theorem of_field {field : String} (same : ∀ rule ∈ rules, rule.field = field)
    (accepts : (∃ a, check = .ok a) ↔ ∀ rule ∈ rules, rule.Holds)
    (blames : ∀ fault, check = .error fault → ∃ message, fault = blame field message)
    : Enforces blame rules check := by
  refine ⟨accepts, fun fault fails => ?_⟩
  obtain ⟨message, rfl⟩ := blames fault fails
  have some : ¬ ∀ rule ∈ rules, rule.Holds := by
    intro all
    obtain ⟨a, passes⟩ := accepts.mpr all
    exact nomatch fails.symm.trans passes
  obtain ⟨broken, first⟩ := Rule.exists_firstBroken some
  exact ⟨broken, message, first, by rw [same broken first.mem]⟩

theorem of_rule {field : String} {kept : Prop} (accepts : (∃ a, check = .ok a) ↔ kept)
    (blames : ∀ fault, check = .error fault → ∃ message, fault = blame field message)
    : Enforces blame [⟨field, kept⟩] check :=
  .of_field (by simp) (by simpa using accepts) blames

/-- Checks one after another enforce their rules one after another. -/
theorem bind {next : α → Except ε β} (enforces : Enforces blame rules check)
    (onward : ∀ a, check = .ok a → Enforces blame later (next a))
    : Enforces blame (rules ++ later) (check >>= next) := by
  cases checked : check with
  | error fault =>
      subst checked
      obtain ⟨broken, message, first, rfl⟩ := enforces.blames fault rfl
      refine ⟨iff_of_false nofun (first.append later).not_all, fun fault fails => ?_⟩
      obtain rfl := Except.error.inj fails
      exact ⟨broken, message, first.append later, rfl⟩
  | ok a =>
      have all := enforces.accepts.mp ⟨a, checked⟩
      obtain ⟨accepts, blames⟩ := onward a checked
      refine ⟨accepts.trans ?_, fun fault fails => ?_⟩
      · simp only [List.forall_mem_append, and_iff_right all]
      · obtain ⟨broken, message, first, blamed⟩ := blames fault fails
        exact ⟨broken, message, first.after all, blamed⟩

/-- What is made of an accepted value does not matter. -/
theorem map (enforces : Enforces blame rules check) (change : α → β)
    : Enforces blame rules (check.map change) := by
  cases check with
  | error fault =>
      refine ⟨iff_of_false nofun (mt enforces.accepts.mpr nofun), fun other fails => ?_⟩
      exact enforces.blames other (congrArg _ (Except.error.inj fails))
  | ok a => exact ⟨iff_of_true ⟨change a, rfl⟩ (enforces.accepts.mp ⟨a, rfl⟩), nofun⟩

/-- A check without a rule. -/
theorem ok (a : α) : Enforces blame [] (.ok a : Except ε α) :=
  ⟨iff_of_true ⟨a, rfl⟩ nofun, nofun⟩

end Enforces

end Courier
