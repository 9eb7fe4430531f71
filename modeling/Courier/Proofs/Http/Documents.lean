import Courier.Proofs.Http.Posting

/-! The document of a post in its requests. The first request carries it, and a request that follows
a redirect carries the same document or none.
-/

namespace Courier

open Courier.Http (Network Request Response)

variable {α : Type}

/-- Requests that carry one text: the first of them does, and no other one carries another text. -/
structure Http.Carry (text : String) (requests : List Request) : Prop where
  first : ∃ request, requests.head? = some request ∧ request.body = some text
  others (request : Request) : request ∈ requests → request.body = none ∨ request.body = some text

/-- The rules of a job whose requests carry a text, if they carry any. -/
def Job.Rules.carrying (text : String) : Job.Rules where
  note _ := True
  request request := request.body = none ∨ request.body = some text
  failure _ := True

namespace Http.Client

variable {provider text : String} {left : Nat} {request next : Request} {response : Response}

theorem body_of_follow (follows : redirect request response = .follow next)
    : next.body = none ∨ next.body = request.body := by
  obtain ⟨url, rfl⟩ := moved_of_follow follows
  rw [moved]
  split
  · exact .inr rfl
  · exact .inl rfl

/-- A request and those that it is redirected to carry one text, by induction on the redirects that
are left. -/
theorem send_carrying (carries : request.body = none ∨ request.body = some text)
    : (send provider left request).Abides (.carrying text) := by
  induction left using Nat.strongRecOn generalizing request with
  | ind left ih =>
      rw [send, Job.exchange, Job.ask_bind]
      refine .ask carries fun reply => ?_
      rcases reply with causes | _ | response
      · exact .fail trivial
      · exact .fail trivial
      · simp only [Job.done, Job.finish_ok_bind]
        cases leads : redirect request response with
        | none => exact .done response
        | refuse => exact .fail trivial
        | follow next =>
            cases left with
            | zero => exact .fail trivial
            | succ left =>
                refine ih left (Nat.lt_succ_self left) ?_
                rcases body_of_follow leads with bare | same
                · exact .inl bare
                · exact same ▸ carries

theorem post_carrying (client : Client) (post : Post)
    : (client.post post).Abides (.carrying post.body.compact) := by
  cases made : client.request? post with
  | none =>
      rw [post_of_none made]
      exact .say trivial (.fail trivial)
  | some request =>
      obtain ⟨url, rfl⟩ := form_of_request? made
      rw [post_of_some made]
      refine .say trivial (.bind (send_carrying (.inr rfl)) fun response => ?_)
      exact (accept_abides post.provider response).weaken (fun _ _ => trivial)
        (fun _ => False.elim) (fun _ _ => trivial)

end Http.Client

-----------------------------------------------------------------------------------------
-- Jobs that make fine requests only
-----------------------------------------------------------------------------------------

namespace Job

/-- A job whose requests, if it makes any, are as a condition says. -/
def AsksOnly (fine : List Request → Prop) (job : Job α) : Prop :=
  ∀ (network : Network) (past : List Request),
    (job.outcome network past).2.requests ≠ [] → fine (job.outcome network past).2.requests

variable {fine : List Request → Prop}

theorem AsksOnly.mono {stricter : List Request → Prop} {job : Job α}
    (asks : job.AsksOnly stricter) (wider : ∀ requests, stricter requests → fine requests)
    : job.AsksOnly fine :=
  fun network past some => wider _ (asks network past some)

end Job

/-- A post makes requests that carry its document, and what asks nothing more adds none. -/
theorem Http.Client.post_asksOnly (client : Client) (post : Post) {later : Accepted → Job α}
    {rules : Job.Rules} (abides : ∀ accepted, (later accepted).Abides rules)
    (none : ∀ request, ¬ rules.request request)
    : (client.post post >>= later).AsksOnly (Carry post.body.compact) := by
  intro network past some
  have begins : (client.post post >>= later).BeginsWith (client.request? post = Option.some ·) :=
    (post_beginsWith client post).bind fun accepted => (abides accepted).beginsWith none
  have carrying : (client.post post >>= later).Abides (.carrying post.body.compact) :=
    (post_carrying client post).bind fun accepted =>
      (abides accepted).weaken (fun _ _ => trivial)
        (fun request asked => absurd asked (none request)) (fun _ _ => trivial)
  constructor
  · cases ran : ((client.post post >>= later).outcome network past).2.exchanges with
    | nil => exact absurd ((Trace.requests_eq_nil_iff _).mpr ran) some
    | cons done rest =>
        obtain ⟨url, asked⟩ := form_of_request? (begins.wanted_of_head? (congrArg List.head? ran))
        refine ⟨done.1, ?_, ?_⟩
        · rw [Trace.requests, ran]
          rfl
        · rw [asked]
  · exact fun request => carrying.request_of_mem

end Courier
