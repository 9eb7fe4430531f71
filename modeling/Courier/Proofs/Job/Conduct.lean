import Courier.Proofs.Job.Outcome

/-! The conduct of a job, whatever becomes of its requests: what it may say and ask, how it may
fail, and which request it begins with. All of this is read off the job and holds on every network.
-/

namespace Courier

def Note.isComplaint : Note → Bool
  | complain _ => true
  | print _ | record _ => false

namespace Job

variable {α β : Type}

-----------------------------------------------------------------------------------------
-- Rules
-----------------------------------------------------------------------------------------

/-- What a job may say, which requests it may make, and how it may fail. -/
structure Rules where
  note : Note → Prop
  request : Http.Request → Prop
  failure : Failure → Prop

/-- The rules of a job that makes no request, whatever else it does. -/
def Rules.silent : Rules := ⟨fun _ => True, fun _ => False, fun _ => True⟩

/-- The rules of a job that leaves complaints to others, whatever else it does. -/
def Rules.civil : Rules := ⟨fun note => note.isComplaint = false, fun _ => True, fun _ => True⟩

/-- A job keeps the rules, whatever it is answered. -/
inductive Abides (rules : Rules) : Job α → Prop
  | done (a : α) : Abides rules (finish (.ok a))
  | fail {failure : Failure} (allowed : rules.failure failure)
    : Abides rules (finish (.error failure))
  | say {note : Note} (allowed : rules.note note) {rest : Job α} (abides : Abides rules rest)
    : Abides rules (say note rest)
  | ask {request : Http.Request} (allowed : rules.request request) {next : Http.Reply → Job α}
    (abides : ∀ reply, Abides rules (next reply))
    : Abides rules (ask request next)

variable {rules : Rules}

theorem abides_ofExcept {result : Except Failure α}
    (allowed : ∀ failure, result = .error failure → rules.failure failure)
    : Abides rules (ofExcept result) := by
  cases result with
  | ok a => exact .done a
  | error failure => exact .fail (allowed failure rfl)

theorem Abides.bind {job : Job α} {later : α → Job β} (abides : Abides rules job)
    (abidesLater : ∀ a, Abides rules (later a))
    : Abides rules (job >>= later) := by
  induction abides with
  | done a => exact abidesLater a
  | fail allowed => exact .fail allowed
  | say allowed _ ih => exact .say allowed ih
  | ask allowed _ ih => exact .ask allowed ih

/-- A job that keeps rules keeps all that allow as much, by induction on the job. -/
theorem Abides.weaken {wider : Rules} {job : Job α} (abides : Abides rules job)
    (notes : ∀ note, rules.note note → wider.note note)
    (requests : ∀ request, rules.request request → wider.request request)
    (failures : ∀ failure, rules.failure failure → wider.failure failure)
    : Abides wider job := by
  induction abides with
  | done a => exact .done a
  | fail allowed => exact .fail (failures _ allowed)
  | say allowed _ ih => exact .say (notes _ allowed) ih
  | ask allowed _ ih => exact .ask (requests _ allowed) ih

theorem Abides.attempt {job : Job α} (abides : Abides rules job) : Abides rules job.attempt := by
  induction abides with
  | done a => exact .done _
  | fail allowed => exact .done _
  | say allowed _ ih => exact .say allowed ih
  | ask allowed _ ih => exact .ask allowed ih

section Outcomes

variable {job : Job α} {network : Http.Network} {past : List Http.Request}

/-- A civil job writes nothing to the output for failures, by induction on the job. -/
theorem Abides.stderr_eq_empty (abides : Abides .civil job)
    : (job.outcome network past).2.stderr = "" := by
  induction abides generalizing past with
  | done a => rfl
  | fail allowed => rfl
  | @say note allowed rest _ ih =>
      cases note with
      | print text => exact ih
      | complain text => cases allowed
      | record event => exact ih
  | ask allowed _ ih => exact ih _

/-- A job without requests has none in its trace, by induction on the job. -/
theorem Abides.requests_eq_nil (abides : Abides rules job)
    (none : ∀ request, ¬ rules.request request)
    : (job.outcome network past).2.requests = [] := by
  induction abides generalizing past with
  | done a => rfl
  | fail allowed => rfl
  | say allowed _ ih => exact ih
  | ask allowed _ ih => exact absurd allowed (none _)

/-- Every request in the trace of a job is an allowed one, by induction on the job. -/
theorem Abides.request_of_mem (abides : Abides rules job) {request : Http.Request}
    (made : request ∈ (job.outcome network past).2.requests)
    : rules.request request := by
  induction abides generalizing past with
  | done a => cases made
  | fail allowed => cases made
  | say allowed _ ih => exact ih made
  | ask allowed _ ih =>
      rcases List.mem_cons.mp made with rfl | later
      · exact allowed
      · exact ih _ later

/-- What comes after a job and makes no requests adds no exchanges, and it undoes no failure. -/
theorem exchanges_bind {later : α → Job β} (abides : ∀ a, Abides rules (later a))
    (none : ∀ request, ¬ rules.request request)
    : ((job >>= later).outcome network past).2.exchanges
      = (job.outcome network past).2.exchanges := by
  rcases ended : job.outcome network past with ⟨result, trace⟩
  cases result with
  | ok a =>
      have silent : ((later a).outcome network (past ++ trace.requests)).2.requests = [] :=
        (abides a).requests_eq_nil none
      rw [Trace.requests_eq_nil_iff] at silent
      rw [outcome_bind_ok network past ended, Trace.exchanges_append, silent, List.append_nil]
  | error failure => rw [outcome_bind_error network past ended]

/-- A job that ends with a failure ends with an allowed one, by induction on the job. -/
theorem Abides.failure_of_ends (abides : Abides rules job) {failure : Failure}
    (ends : (job.outcome network past).1 = .error failure)
    : rules.failure failure := by
  induction abides generalizing past with
  | done a => cases ends
  | fail allowed =>
      cases ends
      exact allowed
  | say allowed _ ih => exact ih ends
  | ask allowed _ ih => exact ih _ ends

end Outcomes

-----------------------------------------------------------------------------------------
-- The first request of a job
-----------------------------------------------------------------------------------------

/-- A job whose first request, if it makes one, is a wanted one. -/
inductive BeginsWith (wanted : Http.Request → Prop) : Job α → Prop
  | finish (result : Except Failure α) : BeginsWith wanted (finish result)
  | say (note : Note) {rest : Job α} (begins : BeginsWith wanted rest)
    : BeginsWith wanted (say note rest)
  | ask {request : Http.Request} (first : wanted request) (next : Http.Reply → Job α)
    : BeginsWith wanted (ask request next)

variable {wanted : Http.Request → Prop}

theorem Abides.beginsWith {job : Job α} (abides : Abides rules job)
    (none : ∀ request, ¬ rules.request request)
    : BeginsWith wanted job := by
  induction abides with
  | done a => exact .finish _
  | fail allowed => exact .finish _
  | say allowed _ ih => exact .say _ ih
  | ask allowed _ ih => exact absurd allowed (none _)

theorem BeginsWith.mono {wider : Http.Request → Prop} {job : Job α}
    (begins : BeginsWith wanted job) (wanted_wider : ∀ request, wanted request → wider request)
    : BeginsWith wider job := by
  induction begins with
  | finish result => exact .finish result
  | say note _ ih => exact .say note ih
  | ask first next => exact .ask (wanted_wider _ first) next

theorem BeginsWith.bind {job : Job α} {later : α → Job β} (begins : BeginsWith wanted job)
    (beginsLater : ∀ a, BeginsWith wanted (later a))
    : BeginsWith wanted (job >>= later) := by
  induction begins with
  | finish result =>
      cases result with
      | ok a => exact beginsLater a
      | error failure => exact .finish _
  | say note _ ih => exact .say note ih
  | ask first next => exact .ask first _

/-- A check that comes first makes no request. -/
theorem BeginsWith.check {check : Except Failure β} {next : β → Job α}
    (begins : ∀ b, check = .ok b → BeginsWith wanted (next b))
    : BeginsWith wanted (ofExcept check >>= next) := by
  cases check with
  | ok b => exact begins b rfl
  | error failure => exact .finish _

/-- The first exchange in the trace is that of a wanted request, by induction on the job. -/
theorem BeginsWith.wanted_of_head? {job : Job α} (begins : BeginsWith wanted job)
    {network : Http.Network} {past : List Http.Request} {request : Http.Request}
    {reply : Http.Reply}
    (first : (job.outcome network past).2.exchanges.head? = some (request, reply))
    : wanted request := by
  induction begins with
  | finish result => cases first
  | say note _ ih => exact ih first
  | ask asked next =>
      cases first
      exact asked

end Job

end Courier
