import Courier.Proofs.Http.Posting

/-! Posts that are stranded. A redirect to an address of which no request can be made ends a post
with the failure of a request that cannot be made, although a server has received the post. Nothing
else that follows a request blames what was given.
-/

namespace Courier

open Courier.Http (Network Request Reply Response)

variable {α β : Type}

/-- A result that blames bad input or a bad configuration: a failure with exit code 2. -/
def Blames (result : Except Failure α) : Prop :=
  ∃ failure, result = .error failure ∧ failure.exitCode = 2

/-- Exchanges that end, with redirects left, at an answer that leads to an address of which no
request can be made. -/
def Http.Strands (left : Nat) (exchanges : List (Request × Reply)) : Prop :=
  ∃ before request response,
    exchanges = before ++ [(request, .answer response)]
    ∧ before.length < left
    ∧ Client.redirect request response = .refuse

/-- The rules of what follows a post: no request is made, and no failure blames what was given. -/
def Job.Rules.blameless : Job.Rules where
  note _ := True
  request _ := False
  failure failure := failure.exitCode ≠ 2

/-- A failed dispatch blames nothing that was given. -/
theorem Failure.exitCode_ne_two {failure : Failure} (dispatch : failure.isDispatchFailure = true)
    : failure.exitCode ≠ 2 := by
  cases failure with
  | transport | status | malformed | batch | rejected => exact Nat.ne_of_lt Nat.one_lt_two
  | invalid | invalidFields | configuration | internal => cases dispatch

theorem not_blames_ok (a : α) : ¬ Blames (.ok a : Except Failure α) := by
  rintro ⟨failure, ends, _⟩
  cases ends

theorem blames_error_iff (failure : Failure)
    : Blames (.error failure : Except Failure α) ↔ failure.exitCode = 2 := by
  constructor
  · rintro ⟨failure, ends, code⟩
    cases ends
    exact code
  · exact fun code => ⟨failure, rfl, code⟩

theorem Trace.received_eq_nil {trace : Trace} (none : trace.exchanges = [])
    : trace.received = [] := by
  rw [received, none]
  rfl

namespace Http

variable {left : Nat} {request : Request} {reply : Reply} {response : Response}
  {exchanges : List (Request × Reply)}

theorem not_strands_nil (left : Nat) : ¬ Strands left [] := by
  rintro ⟨before, request, response, whole, _, _⟩
  cases before <;> cases whole

theorem strands_answer_iff
    : Strands left [(request, .answer response)]
      ↔ 0 < left ∧ Client.redirect request response = .refuse := by
  constructor
  · rintro ⟨before, asked, answer, whole, room, refuses⟩
    obtain ⟨rfl, last⟩ := List.singleton_eq_append_iff.mp whole |>.resolve_right (by simp)
    cases last
    exact ⟨room, refuses⟩
  · rintro ⟨room, refuses⟩
    exact ⟨[], request, response, rfl, room, refuses⟩

theorem not_strands_unanswered (unanswered : ∀ response, reply ≠ .answer response)
    : ¬ Strands left [(request, reply)] := by
  rintro ⟨before, asked, answer, whole, _, _⟩
  obtain ⟨rfl, last⟩ := List.singleton_eq_append_iff.mp whole |>.resolve_right (by simp)
  cases last
  exact unanswered answer rfl

/-- An exchange that ends at an address of which no request can be made. -/
def refuses : Request × Reply → Bool
  | (request, .answer response) => Client.redirect request response == .refuse
  | _ => false

/-- Whether exchanges are stranded is told by their number and the last of them. -/
theorem strands_iff
    : Strands left exchanges
      ↔ exchanges.length ≤ left ∧ exchanges.getLast?.any refuses = true := by
  constructor
  · rintro ⟨before, request, response, rfl, room, leads⟩
    simp only [List.length_append, List.length_singleton, List.getLast?_concat, Option.any_some]
    exact ⟨room, by simp [refuses, leads]⟩
  · rintro ⟨room, leads⟩
    cases last : exchanges.getLast? with
    | none => simp [last] at leads
    | some exchange =>
        obtain ⟨before, rfl⟩ := List.getLast?_eq_some_iff.mp last
        rw [last, Option.any_some] at leads
        rw [List.length_append, List.length_singleton] at room
        obtain ⟨request, causes | _ | response⟩ := exchange
        · cases leads
        · cases leads
        · exact ⟨before, request, response, rfl, room, by simpa [refuses] using leads⟩

instance decidableStrands (left : Nat) (exchanges : List (Request × Reply))
    : Decidable (Strands left exchanges) :=
  decidable_of_iff' _ strands_iff

/-- The first of several exchanges takes one redirect. -/
theorem strands_cons_iff (first second : Request × Reply)
    : Strands (left + 1) (first :: second :: exchanges) ↔ Strands left (second :: exchanges) := by
  constructor
  · rintro ⟨before, request, response, whole, room, refuses⟩
    cases before with
    | nil => cases whole
    | cons earlier before =>
        have later := (List.cons.inj whole).2
        exact ⟨before, request, response, later, Nat.lt_of_succ_lt_succ room, refuses⟩
  · rintro ⟨before, request, response, whole, room, refuses⟩
    exact ⟨first :: before, request, response, congrArg (first :: ·) whole,
      Nat.succ_lt_succ room, refuses⟩

/-- Where exchanges are stranded, a server has received the last request. -/
theorem Strands.received_ne_nil {trace : Trace} (strands : Strands left trace.exchanges)
    : trace.received ≠ [] := by
  obtain ⟨before, request, response, whole, _, _⟩ := strands
  rw [Trace.received, whole]
  simp [Reply.isReceived]

namespace Client

variable {network : Network} {past : List Request} {provider : String}

/-- A request and those that it is redirected to blame what was given exactly when they are
stranded, by induction on the redirects that are left. -/
theorem send_blames_iff (provider : String) (left : Nat) (request : Request) (network : Network)
    (past : List Request)
    : Blames ((send provider left request).outcome network past).1
      ↔ Strands left ((send provider left request).outcome network past).2.exchanges := by
  have transport (causes : List String)
      : ¬ Blames (.error (.transport provider causes) : Except Failure Response) := by
    rw [blames_error_iff]
    exact Failure.exitCode_ne_two rfl
  induction left using Nat.strongRecOn generalizing request past with
  | ind left ih =>
      have sends := send_sends provider left request network past
      generalize (send provider left request).outcome network past = outcome at sends ⊢
      cases sends with
      | unanswered silent causes =>
          exact iff_of_false (transport _) (not_strands_unanswered silent)
      | settled stays =>
          refine iff_of_false (not_blames_ok _) fun strands => ?_
          have refuses := (strands_answer_iff.mp strands).2
          simp [stays] at refuses
      | @refused left response refuses =>
          exact iff_of_true ⟨_, rfl, rfl⟩ (strands_answer_iff.mpr ⟨Nat.succ_pos left, refuses⟩)
      | strayed leads =>
          exact iff_of_false (transport _) fun strands =>
            Nat.lt_irrefl 0 (strands_answer_iff.mp strands).1
      | @followed left response next follows =>
          have onward := ih left (Nat.lt_succ_self left) next (past ++ [request])
          -- The request that is followed is made at once, so it is the second exchange.
          obtain ⟨goes, asks⟩ := send_eq_ask provider left next
          rw [asks] at onward ⊢
          exact onward.trans (strands_cons_iff _ _).symm

theorem accept_blameless (provider : String) (response : Response)
    : (accept provider response).Abides .blameless := by
  rw [accept]
  cases response.body with
  | none => exact .fail (Failure.exitCode_ne_two rfl)
  | some octets =>
      refine .say trivial ?_
      split
      · exact .done _
      · exact .fail (Failure.exitCode_ne_two rfl)

end Client

end Http

-----------------------------------------------------------------------------------------
-- Jobs that blame what was given
-----------------------------------------------------------------------------------------

namespace Job

/-- A job that blames what was given, after a server has received a request, exactly when it is
stranded. -/
def BlamesOnlyStranded (job : Job α) : Prop :=
  ∀ (network : Network) (past : List Request),
    Blames (job.outcome network past).1 ∧ (job.outcome network past).2.received ≠ []
    ↔ Http.Strands Http.Client.redirectLimit (job.outcome network past).2.exchanges

theorem BlamesOnlyStranded.of_unsent {job : Job α}
    (unsent : ∀ network past, (job.outcome network past).2.exchanges = [])
    : job.BlamesOnlyStranded := by
  intro network past
  rw [unsent network past]
  exact iff_of_false (fun blamed => blamed.2 (Trace.received_eq_nil (unsent network past)))
    (Http.not_strands_nil _)

theorem BlamesOnlyStranded.finish (result : Except Failure α)
    : (finish result).BlamesOnlyStranded :=
  .of_unsent fun _ _ => rfl

theorem BlamesOnlyStranded.say (note : Note) {rest : Job α} (blames : rest.BlamesOnlyStranded)
    : (say note rest).BlamesOnlyStranded :=
  blames

/-- A check that comes first asks nothing of a server. -/
theorem BlamesOnlyStranded.check {check : Except Failure β} {next : β → Job α}
    (blames : ∀ b, (next b).BlamesOnlyStranded)
    : (ofExcept check >>= next).BlamesOnlyStranded := by
  cases check with
  | ok b => exact blames b
  | error failure => exact .finish _

/-- What follows a job and blames nothing that was given changes nothing about it. -/
theorem BlamesOnlyStranded.bind {job : Job α} {later : α → Job β}
    (blames : job.BlamesOnlyStranded) (blameless : ∀ a, (later a).Abides .blameless)
    : (job >>= later).BlamesOnlyStranded := by
  intro network past
  have exchanges : ((job >>= later).outcome network past).2.exchanges
      = (job.outcome network past).2.exchanges :=
    exchanges_bind blameless fun _ => id
  have received : ((job >>= later).outcome network past).2.received
      = (job.outcome network past).2.received := by
    rw [Trace.received, Trace.received, exchanges]
  rw [exchanges, received, ← blames network past]
  rcases ended : job.outcome network past with ⟨result, trace⟩
  cases result with
  | ok a =>
      rw [outcome_bind_ok network past ended]
      refine iff_of_false ?_ fun blamed => not_blames_ok a blamed.1
      rintro ⟨⟨failure, ends, code⟩, _⟩
      exact (blameless a).failure_of_ends ends code
  | error failure =>
      rw [outcome_bind_error network past ended]
      simp only [blames_error_iff]

end Job

namespace Http.Client

/-- A post blames what was given after a server has received it exactly when it is stranded. -/
theorem post_blamesOnlyStranded (client : Client) (post : Post)
    : (client.post post).BlamesOnlyStranded := by
  cases made : client.request? post with
  | none =>
      rw [post_of_none made]
      exact .say _ (.finish _)
  | some request =>
      rw [post_of_some made]
      refine .say _ (.bind ?_ (accept_blameless post.provider))
      intro network past
      rw [← send_blames_iff]
      refine and_iff_left_of_imp fun blamed => ?_
      exact ((send_blames_iff ..).mp blamed).received_ne_nil

end Http.Client

end Courier
