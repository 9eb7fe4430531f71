import Courier.Proofs.Http.Posting

/-! When a post is accepted. A call is to make one request, and to succeed only when that request,
the post of its document, is answered with success. It does so exactly when the answer to the post
is not a redirect, for a redirect is followed with another request, whose answer then decides.
-/

namespace Courier.Http

variable {α : Type} {network : Network} {past : List Request}

/-- The outcome of a call that is decided by the answer to its one post: success needs an answer
with success, and each other answer is the failure of its status, with its text. -/
structure DecidedByPost (provider : String) (outcome : Except Failure α × Trace) : Prop where
  once : outcome.2.requests.length ≤ 1
  accepted (a : α)
    : outcome.1 = .ok a
      → ∃ request response document,
          outcome.2.exchanges = [(request, .answer response)]
          ∧ request.method = .post
          ∧ request.body = some (Json.compact document)
          ∧ isSuccess response.status = true
  refused (request : Request) (response : Response) (octets : List UInt8)
    : outcome.2.exchanges.head? = some (request, .answer response)
      → response.body = some octets
      → isSuccess response.status = false
      → outcome.1 = .error (.status provider response.status (textOf response.headers octets))

/-- The answer to a post ends it: it leads nowhere else, or to an address of which no request can be
made and breaks off before its end. -/
def Settles (client : Client) (post : Post) (network : Network) (past : List Request) : Prop :=
  ∀ request response,
    client.request? post = some request
    → network past request = .answer response
    → Client.redirect request response = .none
      ∨ Client.redirect request response = .refuse ∧ response.body = none

namespace Client

variable {client : Client} {post : Post} {request : Request} {response : Response}

/-- An answer that leads elsewhere does not say that the request was accepted. -/
theorem isSuccess_of_redirect (leads : redirect request response ≠ .none)
    : isSuccess response.status = false := by
  rw [redirect] at leads
  split at leads
  · exact absurd rfl leads
  · next listed =>
      have among : response.status ∈ redirectStatuses := by simpa using listed
      simp only [redirectStatuses, List.mem_cons, List.not_mem_nil, or_false] at among
      rcases among with status | status | status | status | status <;> rw [status] <;> rfl

theorem decidedByPost_of_error {provider : String} {failure : Failure} {trace : Trace}
    (once : trace.requests.length ≤ 1)
    (incomplete
      : ∀ request response, trace.exchanges.head? = some (request, .answer response)
        → response.body = none)
    : DecidedByPost (α := α) provider (.error failure, trace) := by
  refine ⟨once, ?_, ?_⟩
  · intro a ends
    cases ends
  · intro request response octets first complete
    rw [incomplete request response first] at complete
    cases complete

theorem decidedByPost_of_whole {provider : String} {octets : List UInt8} {trace : Trace}
    (made : client.request? post = some request)
    (once : trace.exchanges = [(request, .answer response)])
    (whole : response.body = some octets)
    : DecidedByPost provider
        (if isSuccess response.status
          then .ok (⟨response.status, textOf response.headers octets⟩ : Accepted)
          else .error (.status provider response.status (textOf response.headers octets)),
          trace) := by
  obtain ⟨url, rfl⟩ := form_of_request? made
  constructor
  · rw [Trace.requests, once]
    exact Nat.le_refl 1
  · intro a ends
    cases success : isSuccess response.status with
    | true => exact ⟨_, response, post.body, once, rfl, rfl, success⟩
    | false =>
        rw [success] at ends
        cases ends
  · intro request response octets first complete unsuccessful
    rw [once] at first
    cases first
    obtain rfl := Option.some.inj (whole.symm.trans complete)
    rw [unsuccessful]
    rfl

/-- A post whose answer settles it is decided by that answer. -/
theorem post_decided (settles : Settles client post network past)
    : DecidedByPost post.provider ((client.post post).outcome network past) := by
  cases made : client.request? post with
  | none =>
      rw [post_of_none made]
      refine decidedByPost_of_error (Nat.zero_le 1) ?_
      intro request response first
      cases first
  | some request =>
      rw [post_of_some made, Job.outcome_say]
      cases reply : network past request with
      | refused causes =>
          rw [Job.outcome_bind_error network past (send_refused reply)]
          refine decidedByPost_of_error (Nat.le_refl 1) ?_
          intro request response first
          cases first
      | dropped =>
          obtain ⟨causes, sent⟩ := send_dropped reply
          rw [Job.outcome_bind_error network past sent]
          refine decidedByPost_of_error (Nat.le_refl 1) ?_
          intro request response first
          cases first
      | answer response =>
          rcases settles request response made reply with stays | ⟨refuses, broken⟩
          · have sent : (send post.provider redirectLimit request).outcome network past = _ :=
              send_settled reply stays
            rw [Job.outcome_bind_ok network past sent]
            cases whole : response.body with
            | none =>
                rw [accept, whole]
                refine decidedByPost_of_error (Nat.le_refl 1) ?_
                intro request response first
                cases first
                exact whole
            | some octets =>
                obtain ⟨note, taken⟩ := accept_whole whole
                rw [taken]
                exact decidedByPost_of_whole made rfl whole
          · have sent : (send post.provider redirectLimit request).outcome network past = _ :=
              send_refusing reply refuses
            rw [Job.outcome_bind_error network past sent]
            refine decidedByPost_of_error (Nat.le_refl 1) ?_
            intro request response first
            cases first
            exact broken

theorem decidedByPost_bind {provider : String} {job : Job Accepted} {later : Accepted → Job α}
    (decided : DecidedByPost provider (job.outcome network past))
    (abides : ∀ accepted, (later accepted).Abides .receiving)
    : DecidedByPost provider ((job >>= later).outcome network past) := by
  have same : ((job >>= later).outcome network past).2.exchanges
      = (job.outcome network past).2.exchanges :=
    Job.exchanges_bind abides fun _ => id
  constructor
  · rw [Trace.requests, same]
    exact decided.once
  · intro a ends
    rw [same]
    rcases ended : job.outcome network past with ⟨result, trace⟩
    cases result with
    | ok accepted =>
        have first := decided.accepted accepted (by rw [ended])
        rw [ended] at first
        exact first
    | error failure =>
        rw [Job.outcome_bind_error network past ended] at ends
        cases ends
  · intro request response octets first complete unsuccessful
    rw [same] at first
    have fails := decided.refused request response octets first complete unsuccessful
    have ended : job.outcome network past = (.error _, (job.outcome network past).2) :=
      Prod.ext fails rfl
    rw [Job.outcome_bind_error network past ended]

section Redirected

variable (made : client.request? post = some request)
  (reply : network past request = .answer response)

include made reply

theorem exchanges_of_following {next : Request} (follows : redirect request response = .follow next)
    : ∃ further rest,
        ((client.post post).outcome network past).2.exchanges
        = (request, .answer response) :: (next, further) :: rest := by
  have sent : (send post.provider redirectLimit request).outcome network past = _ :=
    send_following reply follows
  obtain ⟨goes, asks⟩ := send_eq_ask post.provider 9 next
  rw [exchanges_of_post made, sent, asks]
  exact ⟨_, _, rfl⟩

theorem post_refusing (refuses : redirect request response = .refuse)
    : ∃ note,
        (client.post post).outcome network past
        = (.error (unmakeable post.provider (refusalCauses request response)),
          ⟨[.note note, .exchange request (.answer response)]⟩) := by
  have sent : (send post.provider redirectLimit request).outcome network past = _ :=
    send_refusing reply refuses
  rw [post_of_some made, Job.outcome_say, Job.outcome_bind_error network past sent]
  exact ⟨_, rfl⟩

end Redirected

/-- A call that posts and then asks nothing more is decided by its post exactly when the answer to
the post settles it: else the call goes on to another request, or fails for want of one. -/
theorem decidedByPost_iff_settles {provider : String} {later : Accepted → Job α}
    (named : post.provider = provider) (abides : ∀ accepted, (later accepted).Abides .receiving)
    : DecidedByPost provider ((client.post post >>= later).outcome network past)
      ↔ Settles client post network past := by
  subst named
  constructor
  · intro decided request response made reply
    cases leads : redirect request response with
    | none => exact .inl rfl
    | follow next =>
        -- The request that is followed is a second one.
        obtain ⟨further, rest, twice⟩ := exchanges_of_following made reply leads
        have once := decided.once
        rw [Trace.requests, Job.exchanges_bind abides fun _ => id, twice] at once
        simp at once
    | refuse =>
        -- The call fails for want of a request, not with the status of a complete answer.
        refine .inr ⟨rfl, ?_⟩
        obtain ⟨note, ended⟩ := post_refusing made reply leads
        have whole := Job.outcome_bind_error network past ended later
        cases complete : response.body with
        | none => rfl
        | some octets =>
            have leads : redirect request response ≠ .none := by simp [leads]
            have fails := decided.refused request response octets (by rw [whole]; rfl) complete
              (isSuccess_of_redirect leads)
            rw [whole] at fails
            cases fails
  · intro settles
    exact decidedByPost_bind (post_decided settles) abides

end Client

end Courier.Http
