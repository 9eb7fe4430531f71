import Courier.Job

/-! Laws of outcomes. What a job does after another one it does on a network that has also had the
requests of the first, and its trace comes behind the first one's.
-/

namespace Courier

namespace Trace

@[simp] theorem empty_append (trace : Trace) : ({} : Trace) ++ trace = trace := rfl

@[simp] theorem append_empty (trace : Trace) : trace ++ ({} : Trace) = trace :=
  congrArg Trace.mk (List.append_nil trace.effects)

@[simp] theorem cons_append (effect : Effect) (trace later : Trace)
    : trace.cons effect ++ later = (trace ++ later).cons effect := rfl

@[simp] theorem effects_cons (effect : Effect) (trace : Trace)
    : (trace.cons effect).effects = effect :: trace.effects := rfl

@[simp] theorem effects_append (trace later : Trace)
    : (trace ++ later).effects = trace.effects ++ later.effects := rfl

@[simp] theorem exchanges_empty : ({} : Trace).exchanges = [] := rfl

@[simp] theorem exchanges_cons_note (note : Note) (trace : Trace)
    : (trace.cons (.note note)).exchanges = trace.exchanges := rfl

@[simp] theorem exchanges_cons_exchange (request : Http.Request) (reply : Http.Reply)
    (trace : Trace)
    : (trace.cons (.exchange request reply)).exchanges = (request, reply) :: trace.exchanges := rfl

@[simp] theorem exchanges_append (trace later : Trace)
    : (trace ++ later).exchanges = trace.exchanges ++ later.exchanges :=
  List.filterMap_append

@[simp] theorem requests_empty : ({} : Trace).requests = [] := rfl

@[simp] theorem requests_cons_note (note : Note) (trace : Trace)
    : (trace.cons (.note note)).requests = trace.requests := rfl

@[simp] theorem requests_cons_exchange (request : Http.Request) (reply : Http.Reply) (trace : Trace)
    : (trace.cons (.exchange request reply)).requests = request :: trace.requests := rfl

@[simp] theorem events_append (trace later : Trace)
    : (trace ++ later).events = trace.events ++ later.events :=
  List.filterMap_append

@[simp] theorem stdout_append (trace later : Trace)
    : (trace ++ later).stdout = trace.stdout ++ later.stdout := by
  simp only [stdout, effects_append, List.filterMap_append, String.join_append]

@[simp] theorem stderr_append (trace later : Trace)
    : (trace ++ later).stderr = trace.stderr ++ later.stderr := by
  simp only [stderr, effects_append, List.filterMap_append, String.join_append]

/-- A trace makes no requests exactly when it has no exchanges. -/
theorem requests_eq_nil_iff (trace : Trace) : trace.requests = [] ↔ trace.exchanges = [] :=
  List.map_eq_nil_iff

end Trace

namespace Job

variable {α β γ : Type}

@[simp] theorem finish_ok_bind (a : α) (later : α → Job β)
    : (finish (.ok a) >>= later) = later a := rfl

@[simp] theorem finish_error_bind (failure : Failure) (later : α → Job β)
    : (finish (.error failure) >>= later) = finish (.error failure) := rfl

@[simp] theorem say_bind (note : Note) (rest : Job α) (later : α → Job β)
    : (say note rest >>= later) = say note (rest >>= later) := rfl

@[simp] theorem ask_bind (request : Http.Request) (next : Http.Reply → Job α) (later : α → Job β)
    : (ask request next >>= later) = ask request fun reply => next reply >>= later := rfl

/-- What comes after two jobs comes after the second one, by induction on the first. -/
theorem bind_assoc (job : Job α) (next : α → Job β) (last : β → Job γ)
    : (job >>= next >>= last) = (job >>= fun a => next a >>= last) := by
  induction job with
  | finish result =>
      cases result with
      | ok a => rfl
      | error failure => rfl
  | say note rest ih => exact congrArg (say note) ih
  | ask request next ih => exact congrArg (ask request) (funext ih)

theorem pure_eq_finish (a : α) : (pure a : Job α) = finish (.ok a) := rfl

variable (network : Http.Network) (past : List Http.Request)

@[simp] theorem outcome_finish (result : Except Failure α)
    : (finish result).outcome network past = (result, {}) := rfl

@[simp] theorem outcome_say (note : Note) (rest : Job α)
    : (say note rest).outcome network past
      = ((rest.outcome network past).1, (rest.outcome network past).2.cons (.note note)) := rfl

@[simp] theorem outcome_ask (request : Http.Request) (next : Http.Reply → Job α)
    : (ask request next).outcome network past
      = (((next (network past request)).outcome network (past ++ [request])).1,
        ((next (network past request)).outcome network (past ++ [request])).2.cons
          (.exchange request (network past request))) := rfl

/-- A job that ends with a value hands it on, together with the network that has had its requests,
by induction on the job. -/
theorem outcome_bind_ok {job : Job α} {a : α} {trace : Trace}
    (ends : job.outcome network past = (.ok a, trace)) (later : α → Job β)
    : (job >>= later).outcome network past
      = (((later a).outcome network (past ++ trace.requests)).1,
        trace ++ ((later a).outcome network (past ++ trace.requests)).2) := by
  induction job generalizing past trace with
  | finish result =>
      cases ends
      simp
  | say note rest ih =>
      obtain ⟨result, rfl⟩ := Prod.mk.inj ends
      simp [ih past (Prod.ext result rfl)]
  | ask request next ih =>
      obtain ⟨result, rfl⟩ := Prod.mk.inj ends
      simp [ih _ (past ++ [request]) (Prod.ext result rfl)]

/-- A job that fails ends all that would come after it, by induction on the job. -/
theorem outcome_bind_error {job : Job α} {failure : Failure} {trace : Trace}
    (ends : job.outcome network past = (.error failure, trace)) (later : α → Job β)
    : (job >>= later).outcome network past = (.error failure, trace) := by
  induction job generalizing past trace with
  | finish result =>
      cases ends
      rfl
  | say note rest ih =>
      obtain ⟨result, rfl⟩ := Prod.mk.inj ends
      simp [ih past (Prod.ext result rfl)]
  | ask request next ih =>
      obtain ⟨result, rfl⟩ := Prod.mk.inj ends
      simp [ih _ (past ++ [request]) (Prod.ext result rfl)]

/-- A job that comes to the same result whatever was asked before adds nothing to a failure, and
takes a value on. -/
theorem result_bind {job : Job α} {later : α → Job β} {decide : α → Except Failure β}
    (decides : ∀ a past, ((later a).outcome network past).1 = decide a)
    : ((job >>= later).outcome network past).1 = (job.outcome network past).1 >>= decide := by
  rcases ended : job.outcome network past with ⟨result, trace⟩
  cases result with
  | ok a =>
      rw [outcome_bind_ok network past ended]
      exact decides a _
  | error failure =>
      rw [outcome_bind_error network past ended]
      rfl

/-- A job whose failure is caught does the same and always ends with a value, by induction on the
job. -/
theorem outcome_attempt (job : Job α)
    : job.attempt.outcome network past
      = (.ok (job.outcome network past).1, (job.outcome network past).2) := by
  induction job generalizing past with
  | finish result => rfl
  | say note rest ih => simp [attempt, ih]
  | ask request next ih => simp [attempt, ih]

end Job

end Courier
