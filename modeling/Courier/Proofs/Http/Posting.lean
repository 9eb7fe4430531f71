import Courier.Http.Client
import Courier.Proofs.Job.Conduct

/-! What a post does on a network. The reply to its request decides: no connection, an answer that
is taken, or an answer that leads to another request. A post begins with the request that carries
its document, and no failure of it blames what was given.
-/

namespace Courier

/-- A failure that blames what was given: one field, or the fields of a policy. -/
def Failure.isInput : Failure → Bool
  | invalid .. | invalidFields .. => true
  | transport .. | status .. | malformed .. | batch .. | rejected .. | configuration ..
  | internal .. => false

/-- The rules of all that is done once the input is found good: complaints are left to others, and
no failure blames the input. -/
def Job.Rules.sending : Job.Rules where
  note note := note.isComplaint = false
  request _ := True
  failure failure := failure.isInput = false

/-- The rules of requests alone: nothing is said, and no failure blames the input. -/
def Job.Rules.mute : Job.Rules := { Job.Rules.sending with note := fun _ => False }

/-- The rules of what follows a post: no other request is made. -/
def Job.Rules.receiving : Job.Rules := { Job.Rules.sending with request := fun _ => False }

theorem Job.Abides.sending {job : Job α} (abides : job.Abides .receiving) : job.Abides .sending :=
  abides.weaken (fun _ => id) (fun _ => False.elim) (fun _ => id)

namespace Http.Client

variable {network : Network} {past : List Request} {provider : String} {request : Request}
  {left : Nat}

theorem send_eq_ask (provider : String) (left : Nat) (request : Request)
    : ∃ next, send provider left request = Job.ask request next := by
  rw [send]
  exact ⟨_, rfl⟩

-----------------------------------------------------------------------------------------
-- The replies to a request
-----------------------------------------------------------------------------------------

/-- A request that is followed is the redirected one, moved to another address. -/
theorem moved_of_follow {response : Response} {next : Request}
    (follows : redirect request response = .follow next)
    : ∃ url, next = moved request response.status url := by
  simp only [redirect] at follows
  split at follows
  · cases follows
  · split at follows
    · cases follows
    · next url _ =>
        split at follows
        · cases follows
          exact ⟨url, rfl⟩
        · cases follows

theorem send_refused {causes : List String} (reply : network past request = .refused causes)
    : (send provider left request).outcome network past
      = (.error (unanswered provider request causes),
        ⟨[.exchange request (.refused causes)]⟩) := by
  rw [send, Job.exchange, Job.ask_bind, Job.outcome_ask, reply]
  rfl

theorem send_dropped (reply : network past request = .dropped)
    : ∃ causes,
        (send provider left request).outcome network past
        = (.error (unanswered provider request causes), ⟨[.exchange request .dropped]⟩) := by
  rw [send, Job.exchange, Job.ask_bind, Job.outcome_ask, reply]
  exact ⟨_, rfl⟩

theorem send_settled {response : Response} (reply : network past request = .answer response)
    (stays : redirect request response = .none)
    : (send provider left request).outcome network past
      = (.ok response, ⟨[.exchange request (.answer response)]⟩) := by
  rw [send, Job.exchange, Job.ask_bind, Job.outcome_ask, reply]
  simp only [Job.done, Job.finish_ok_bind, stays]
  rfl

theorem send_refusing {response : Response} (reply : network past request = .answer response)
    (refuses : redirect request response = .refuse)
    : (send provider (left + 1) request).outcome network past
      = (.error (unmakeable provider (refusalCauses request response)),
        ⟨[.exchange request (.answer response)]⟩) := by
  rw [send, Job.exchange, Job.ask_bind, Job.outcome_ask, reply]
  simp only [Job.done, Job.finish_ok_bind, refuses]
  rfl

theorem send_following {response : Response} {next : Request}
    (reply : network past request = .answer response)
    (follows : redirect request response = .follow next)
    : (send provider (left + 1) request).outcome network past
      = (((send provider left next).outcome network (past ++ [request])).1,
        ((send provider left next).outcome network (past ++ [request])).2.cons
          (.exchange request (.answer response))) := by
  rw [send, Job.exchange, Job.ask_bind, Job.outcome_ask, reply]
  simp only [Job.done, Job.finish_ok_bind, follows]

theorem send_strayed {response : Response} (reply : network past request = .answer response)
    (leads : redirect request response ≠ .none)
    : (send provider 0 request).outcome network past
      = (.error (strayed provider request), ⟨[.exchange request (.answer response)]⟩) := by
  rw [send, Job.exchange, Job.ask_bind, Job.outcome_ask, reply]
  simp only [Job.done, Job.finish_ok_bind]
  cases answered : redirect request response with
  | none => exact absurd answered leads
  | refuse => rfl
  | follow next => rfl

/-- The outcomes of a request with so many redirects left: it gets no answer, or an answer that ends
it, or one that leads to an address of which no request can be made, or one redirect too many, or a
redirect to the next request, which goes on from there. -/
inductive Sends (provider : String) (network : Network) (past : List Request) (request : Request)
    : Nat → Except Failure Response × Trace → Prop
  | unanswered {left : Nat} {reply : Reply} (silent : ∀ response, reply ≠ .answer response)
    (causes : List String)
    : Sends provider network past request left
        (.error (unanswered provider request causes), ⟨[.exchange request reply]⟩)
  | settled {left : Nat} {response : Response} (stays : redirect request response = .none)
    : Sends provider network past request left
        (.ok response, ⟨[.exchange request (.answer response)]⟩)
  | refused {left : Nat} {response : Response} (refuses : redirect request response = .refuse)
    : Sends provider network past request (left + 1)
        (.error (unmakeable provider (refusalCauses request response)),
          ⟨[.exchange request (.answer response)]⟩)
  | strayed {response : Response} (leads : redirect request response ≠ .none)
    : Sends provider network past request 0
        (.error (strayed provider request), ⟨[.exchange request (.answer response)]⟩)
  | followed {left : Nat} {response : Response} {next : Request}
    (follows : redirect request response = .follow next)
    : Sends provider network past request (left + 1)
        (((send provider left next).outcome network (past ++ [request])).1,
          ((send provider left next).outcome network (past ++ [request])).2.cons
            (.exchange request (.answer response)))

theorem send_sends (provider : String) (left : Nat) (request : Request) (network : Network)
    (past : List Request)
    : Sends provider network past request left
        ((send provider left request).outcome network past) := by
  rcases reply : network past request with causes | _ | response
  · rw [send_refused reply]
    exact .unanswered (fun _ => Reply.noConfusion) causes
  · obtain ⟨causes, sent⟩ := send_dropped reply
    rw [sent]
    exact .unanswered (fun _ => Reply.noConfusion) causes
  · cases leads : redirect request response with
    | none =>
        rw [send_settled reply leads]
        exact .settled leads
    | refuse =>
        cases left with
        | zero =>
            rw [send_strayed reply (by simp [leads])]
            exact .strayed (by simp [leads])
        | succ left =>
            rw [send_refusing reply leads]
            exact .refused leads
    | follow next =>
        cases left with
        | zero =>
            rw [send_strayed reply (by simp [leads])]
            exact .strayed (by simp [leads])
        | succ left =>
            rw [send_following reply leads]
            exact .followed leads

-----------------------------------------------------------------------------------------
-- A post
-----------------------------------------------------------------------------------------

def announcement (post : Post) : Note :=
  .record (event "Sending request" [("provider", .text post.provider), ("url", .text post.url)])

theorem post_of_none {client : Client} {post : Post} (unmade : client.request? post = none)
    : client.post post
      = .say (announcement post) (.fail (unmakeable post.provider (buildCauses post))) := by
  rw [Client.post, unmade]
  rfl

theorem post_of_some {client : Client} {post : Post} (made : client.request? post = some request)
    : client.post post
      = .say (announcement post)
          (send post.provider redirectLimit request >>= accept post.provider) := by
  rw [Client.post, made]
  rfl

theorem post_beginsWith (client : Client) (post : Post)
    : (client.post post).BeginsWith (client.request? post = some ·) := by
  cases made : client.request? post with
  | none =>
      rw [post_of_none made]
      exact .say _ (.finish _)
  | some request =>
      obtain ⟨next, asks⟩ := send_eq_ask post.provider redirectLimit request
      rw [post_of_some made, asks, Job.ask_bind]
      refine .say _ (.ask ?_ _)
      rfl

/-- A request that is made of a post goes to the address that its text spells. -/
theorem address_of_request? {client : Client} {post : Post}
    (made : client.request? post = some request)
    : ∃ url,
        Url.parse? post.url = some url
        ∧ request = ⟨.post, requestUrl url, client.headersOf post, some post.body.compact⟩ := by
  rw [request?] at made
  split at made
  · cases made
  · next url parsed =>
      split at made
      · cases made
        exact ⟨url, parsed, rfl⟩
      · cases made

/-- A request that is made of a post is the post of its document to its address. -/
theorem form_of_request? {client : Client} {post : Post}
    (made : client.request? post = some request)
    : ∃ url,
        request = ⟨.post, requestUrl url, client.headersOf post, some post.body.compact⟩ := by
  obtain ⟨url, _, form⟩ := address_of_request? made
  exact ⟨url, form⟩

theorem accept_whole {response : Response} {octets : List UInt8}
    (whole : response.body = some octets)
    : ∃ note,
        (accept provider response).outcome network past
        = (if isSuccess response.status
            then .ok ⟨response.status, textOf response.headers octets⟩
            else .error (.status provider response.status (textOf response.headers octets)),
          ⟨[.note note]⟩) := by
  rw [accept, whole]
  dsimp only
  split
  · exact ⟨_, rfl⟩
  · exact ⟨_, rfl⟩

-----------------------------------------------------------------------------------------
-- The rules that a post keeps
-----------------------------------------------------------------------------------------

/-- Requests are made without a word, and none fails for what was given, by induction on the
redirects that are left. -/
theorem send_mute (provider : String) (left : Nat) (request : Request)
    : (send provider left request).Abides .mute := by
  induction left using Nat.strongRecOn generalizing request with
  | ind left ih =>
      rw [send, Job.exchange, Job.ask_bind]
      refine .ask trivial fun reply => ?_
      rcases reply with causes | _ | response
      · exact .fail rfl
      · exact .fail rfl
      · simp only [Job.done, Job.finish_ok_bind]
        cases redirect request response with
        | none => exact .done response
        | refuse =>
            refine .fail ?_
            split <;> rfl
        | follow next =>
            cases left with
            | zero => exact .fail rfl
            | succ left => exact ih left (Nat.lt_succ_self left) next

theorem send_abides (provider : String) (left : Nat) (request : Request)
    : (send provider left request).Abides .sending :=
  (send_mute provider left request).weaken (fun _ => False.elim) (fun _ => id) (fun _ => id)

theorem accept_abides (provider : String) (response : Response)
    : (accept provider response).Abides .receiving := by
  rw [accept]
  cases response.body with
  | none => exact .fail rfl
  | some octets =>
      refine .say rfl ?_
      split
      · exact .done _
      · exact .fail rfl

theorem post_abides (client : Client) (post : Post) : (client.post post).Abides .sending := by
  cases made : client.request? post with
  | none =>
      rw [post_of_none made]
      exact .say rfl (.fail rfl)
  | some request =>
      rw [post_of_some made]
      exact .say rfl
        ((send_abides post.provider redirectLimit request).bind fun response =>
          (accept_abides post.provider response).sending)

/-- The exchanges of a post are those of its request. -/
theorem exchanges_of_post {client : Client} {post : Post}
    (made : client.request? post = some request)
    : ((client.post post).outcome network past).2.exchanges
      = ((send post.provider redirectLimit request).outcome network past).2.exchanges := by
  rw [post_of_some made, Job.outcome_say, Trace.exchanges_cons_note]
  exact Job.exchanges_bind (accept_abides post.provider) fun _ => id

end Http.Client

end Courier
