import Courier.Proofs.Job.Conduct
import Mathlib.Data.List.Forall2

/-! Jobs that go on alike: they say the same, end the same, and their requests correspond. Where
corresponding requests are answered alike, nothing but the requests themselves tells the two apart.
-/

namespace Courier

open Courier.Http (Network Request)

/-- Effects that are alike: the same note, or corresponding requests with the same reply. -/
inductive Effect.Alike (Same : Request → Request → Prop) : Effect → Effect → Prop
  | note (note : Note) : Alike Same (.note note) (.note note)
  | exchange {request other : Request} (same : Same request other) (reply : Http.Reply)
    : Alike Same (.exchange request reply) (.exchange other reply)

variable {Same : Request → Request → Prop}

-----------------------------------------------------------------------------------------
-- The views of effects that are alike
-----------------------------------------------------------------------------------------

/-- A view that no request shows in is the same of effects that are alike, by induction on them. -/
theorem filterMap_of_alike {β : Type} {view : Effect → Option β} {effects others : List Effect}
    (blind : ∀ request reply, view (.exchange request reply) = none)
    (alike : List.Forall₂ (Effect.Alike Same) effects others)
    : effects.filterMap view = others.filterMap view := by
  induction alike with
  | nil => rfl
  | cons first _ ih =>
      cases first with
      | note note => rw [List.filterMap_cons, List.filterMap_cons, ih]
      | exchange same reply => rw [List.filterMap_cons, List.filterMap_cons, blind, blind, ih]

/-- The exchanges of effects that are alike correspond, by induction on the effects. -/
theorem exchanges_of_alike {effects others : List Effect}
    (alike : List.Forall₂ (Effect.Alike Same) effects others)
    : List.Forall₂ (fun done also => Same done.1 also.1 ∧ done.2 = also.2)
        (Trace.mk effects).exchanges (Trace.mk others).exchanges := by
  induction alike with
  | nil => exact .nil
  | cons first _ ih =>
      cases first with
      | note note => exact ih
      | exchange same reply => exact .cons ⟨same, rfl⟩ ih

-----------------------------------------------------------------------------------------
-- Jobs
-----------------------------------------------------------------------------------------

namespace Job

variable {α β : Type}

/-- Jobs that go on alike, whatever they are answered. -/
inductive Alike (Same : Request → Request → Prop) : Job α → Job α → Prop
  | finish (result : Except Failure α) : Alike Same (finish result) (finish result)
  | say (note : Note) {rest other : Job α} (alike : Alike Same rest other)
    : Alike Same (say note rest) (say note other)
  | ask {request other : Request} (same : Same request other) {next also : Http.Reply → Job α}
    (alike : ∀ reply, Alike Same (next reply) (also reply))
    : Alike Same (ask request next) (ask other also)

theorem Abides.alike {rules : Rules} {job : Job α} (abides : Abides rules job)
    (none : ∀ request, ¬ rules.request request)
    : Alike Same job job := by
  induction abides with
  | done a => exact .finish _
  | fail allowed => exact .finish _
  | say allowed _ ih => exact .say _ ih
  | ask allowed _ ih => exact absurd allowed (none _)

/-- Jobs whose requests correspond in one way go on alike in a wider one, by induction on them. -/
theorem Alike.weaken {Wider : Request → Request → Prop} {job other : Job α}
    (alike : Alike Same job other)
    (wider : ∀ request asked, Same request asked → Wider request asked)
    : Alike Wider job other := by
  induction alike with
  | finish result => exact .finish _
  | say note _ ih => exact .say note ih
  | ask same _ ih => exact .ask (wider _ _ same) ih

theorem Alike.bind {job other : Job α} {later also : α → Job β} (alike : Alike Same job other)
    (alikeLater : ∀ a, Alike Same (later a) (also a))
    : Alike Same (job >>= later) (other >>= also) := by
  induction alike with
  | finish result =>
      cases result with
      | ok a => exact alikeLater a
      | error failure => exact .finish _
  | say note _ ih => exact .say note ih
  | ask same _ ih => exact .ask same ih

theorem Alike.attempt {job other : Job α} (alike : Alike Same job other)
    : Alike Same job.attempt other.attempt := by
  induction alike with
  | finish result => exact .finish _
  | say note _ ih => exact .say note ih
  | ask same _ ih => exact .ask same ih

/-- Networks that answer corresponding requests alike after corresponding ones. -/
def AnswerAlike (Same : Request → Request → Prop) (network other : Network) : Prop :=
  ∀ past also request asked,
    List.Forall₂ Same past also → Same request asked → network past request = other also asked

/-- Jobs that go on alike end the same and have done the same, by induction on the jobs. -/
theorem Alike.outcome {job other : Job α} {network also : Network}
    (alike : Alike Same job other) (answers : AnswerAlike Same network also)
    {past before : List Request} (pasts : List.Forall₂ Same past before)
    : (job.outcome network past).1 = (other.outcome also before).1
      ∧ List.Forall₂ (Effect.Alike Same) (job.outcome network past).2.effects
          (other.outcome also before).2.effects := by
  induction alike generalizing past before with
  | finish result => exact ⟨rfl, .nil⟩
  | say note _ ih =>
      obtain ⟨ends, effects⟩ := ih pasts
      exact ⟨ends, .cons (.note note) effects⟩
  | @ask request asked same next nextAlso _ ih =>
      have reply := answers past before request asked pasts same
      have longer : List.Forall₂ Same (past ++ [request]) (before ++ [asked]) :=
        List.rel_append pasts (.cons same .nil)
      obtain ⟨ends, effects⟩ := ih (network past request) longer
      rw [outcome_ask, outcome_ask, ← reply]
      exact ⟨ends, .cons (.exchange same _) effects⟩

end Job

end Courier
