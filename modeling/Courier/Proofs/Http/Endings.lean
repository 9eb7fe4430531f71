import Courier.Proofs.Http.Stranding

/-! How posts end. After the redirects that are followed a post has an answer that is whole, or none
that is, and its result tells which. Until then it says nothing but what helps to find faults.
-/

namespace Courier

open Courier.Http (Network Request Response Reply)

variable {α : Type}

-----------------------------------------------------------------------------------------
-- Jobs that only record
-----------------------------------------------------------------------------------------

/-- The events that an operator is to see. -/
def Trace.infos (trace : Trace) : List Log.Event :=
  trace.events.filter (·.level == .info)

@[simp] theorem Trace.infos_append (trace later : Trace)
    : (trace ++ later).infos = trace.infos ++ later.infos := by
  simp only [infos, events_append, List.filter_append]

namespace Job

/-- The rules of a job that only records, and only such events. -/
def Rules.recording (fine : Log.Event → Prop) : Rules where
  note note := ∃ event, note = .record event ∧ fine event
  request _ := True
  failure _ := True

variable {job : Job α} {fine : Log.Event → Prop} {network : Network} {past : List Request}

/-- A job that only records writes nothing to the output, by induction on the job. -/
theorem Abides.stdout_eq_empty (abides : job.Abides (.recording fine))
    : (job.outcome network past).2.stdout = "" := by
  induction abides generalizing past with
  | done a => rfl
  | fail allowed => rfl
  | say allowed _ ih =>
      obtain ⟨event, rfl, _⟩ := allowed
      exact ih
  | ask allowed _ ih => exact ih _

/-- A job that records nothing for the operator leaves no such event, by induction on the job. -/
theorem Abides.infos_eq_nil (abides : job.Abides (.recording (·.level ≠ .info)))
    : (job.outcome network past).2.infos = [] := by
  induction abides generalizing past with
  | done a => rfl
  | fail allowed => rfl
  | @say note allowed rest _ ih =>
      obtain ⟨event, rfl, level⟩ := allowed
      have first : ((rest.outcome network past).2.cons (.note (.record event))).infos
          = (rest.outcome network past).2.infos :=
        List.filter_cons_of_neg (by simpa using level)
      exact first.trans ih
  | ask allowed _ ih => exact ih _

end Job

namespace Http

/-- How a post ends: with an answer that is whole, as its status and its text, or without. -/
inductive Ending
  | whole (status : Nat) (text : String)
  | lost
  deriving DecidableEq

/-- The ending that the last of several exchanges makes: an answer that leads nowhere else and has
not broken off. -/
def ending (exchanges : List (Request × Reply)) : Ending :=
  match exchanges.getLast? with
  | some (request, .answer response) =>
    match Client.redirect request response, response.body with
    | .none, some octets => .whole response.status (textOf response.headers octets)
    | _, _ => .lost
  | _ => .lost

/-- What an ending makes of a post. -/
inductive Settled (provider : String) : Ending → Except Failure Accepted → Prop
  | accepted {status : Nat} {text : String} (success : isSuccess status = true)
    : Settled provider (.whole status text) (.ok ⟨status, text⟩)
  | refused {status : Nat} {text : String} (unsuccessful : isSuccess status = false)
    : Settled provider (.whole status text) (.error (.status provider status text))
  | lost (causes : List String) : Settled provider .lost (.error (.transport provider causes))

/-- Where a request and those that it is redirected to arrive. -/
inductive Arrives (provider : String)
    : List (Request × Reply) → Except Failure Response → Prop
  | settled {exchanges : List (Request × Reply)} {request : Request} {response : Response}
    (last : exchanges.getLast? = some (request, .answer response))
    (stays : Client.redirect request response = .none)
    : Arrives provider exchanges (.ok response)
  | lost {exchanges : List (Request × Reply)} (nowhere : ending exchanges = .lost)
    (causes : List String)
    : Arrives provider exchanges (.error (.transport provider causes))

namespace Client

variable {client : Client} {post : Post} {request : Request} {response : Response}
  {provider : String} {left : Nat} {network : Network} {past : List Request}

theorem ending_of_redirect (leads : redirect request response ≠ .none)
    : ending [(request, .answer response)] = .lost := by
  simp only [ending, List.getLast?_singleton]
  split
  · next stays _ => exact absurd stays leads
  · rfl

theorem ending_of_silent {reply : Reply} (silent : ∀ response, reply ≠ .answer response)
    : ending [(request, reply)] = .lost := by
  cases reply with
  | refused | dropped => rfl
  | answer response => exact absurd rfl (silent response)

/-- Exchanges that end with a whole answer are not stranded. -/
theorem not_strands_of_whole {exchanges : List (Request × Reply)} {status : Nat} {text : String}
    (whole : ending exchanges = .whole status text)
    : ¬ Strands left exchanges := by
  rintro ⟨before, request, response, rfl, _, refuses⟩
  have lost : ending [(request, .answer response)] = .lost :=
    ending_of_redirect (by simp [refuses])
  rw [ending, List.getLast?_concat] at whole
  exact nomatch whole.symm.trans lost

/-- One more exchange before others changes nothing about where they arrive. -/
theorem arrives_cons {first second : Request × Reply} {rest : List (Request × Reply)}
    {result : Except Failure Response} (arrives : Arrives provider (second :: rest) result)
    : Arrives provider (first :: second :: rest) result := by
  cases arrives with
  | settled last stays => exact .settled (by rw [List.getLast?_cons_cons, last]) stays
  | lost nowhere causes =>
      refine .lost ?_ causes
      rw [ending, List.getLast?_cons_cons]
      exact nowhere

/-- Requests that are not stranded arrive at an answer that leads nowhere else, or at none, by
induction on the redirects that are left. -/
theorem send_arrives
    (afloat : ¬ Strands left ((send provider left request).outcome network past).2.exchanges)
    : Arrives provider ((send provider left request).outcome network past).2.exchanges
        ((send provider left request).outcome network past).1 := by
  induction left using Nat.strongRecOn generalizing request past with
  | ind left ih =>
      have sends := send_sends provider left request network past
      generalize (send provider left request).outcome network past = outcome at sends afloat ⊢
      cases sends with
      | unanswered silent causes => exact .lost (ending_of_silent silent) _
      | settled stays => exact .settled rfl stays
      | @refused left response refuses =>
          exact absurd (strands_answer_iff.mpr ⟨Nat.succ_pos left, refuses⟩) afloat
      | strayed leads => exact .lost (ending_of_redirect leads) _
      | @followed left response next follows =>
          have onward := @ih left (Nat.lt_succ_self left) next (past ++ [request])
          obtain ⟨goes, asks⟩ := send_eq_ask provider left next
          rw [asks] at afloat onward ⊢
          refine arrives_cons (onward fun strands => afloat ?_)
          exact (strands_cons_iff _ _).mpr strands

/-- What is taken of an answer that leads nowhere else is settled by it. -/
theorem accept_settled {exchanges : List (Request × Reply)}
    (last : exchanges.getLast? = some (request, .answer response))
    (stays : redirect request response = .none)
    : Settled provider (ending exchanges) ((accept provider response).outcome network past).1 := by
  rw [ending, last]
  simp only [stays]
  cases whole : response.body with
  | none =>
      rw [accept, whole]
      exact .lost _
  | some octets =>
      obtain ⟨note, taken⟩
          : ∃ note, (accept provider response).outcome network past = (_, ⟨[.note note]⟩) :=
        accept_whole whole
      rw [taken]
      cases success : isSuccess response.status with
      | true => exact .accepted success
      | false => exact .refused success

/-- A post of which a request is made and which is not stranded is settled by its ending. -/
theorem post_settled (made : client.request? post = some request)
    (afloat : ¬ Strands redirectLimit ((client.post post).outcome network past).2.exchanges)
    : Settled post.provider (ending ((client.post post).outcome network past).2.exchanges)
        ((client.post post).outcome network past).1 := by
  rw [exchanges_of_post made] at afloat ⊢
  have arrives := send_arrives afloat
  rw [post_of_some made, Job.outcome_say]
  rcases sent : (send post.provider redirectLimit request).outcome network past with
    ⟨result, trace⟩
  rw [sent] at arrives
  cases arrives with
  | settled last stays =>
      rw [Job.outcome_bind_ok network past sent]
      exact accept_settled last stays
  | lost nowhere causes =>
      rw [Job.outcome_bind_error network past sent]
      dsimp only at nowhere ⊢
      rw [nowhere]
      exact .lost causes

/-- A post whose requests end with an accepted answer returns it. -/
theorem post_accepted {status : Nat} {text : String}
    (whole
      : ending ((client.post post).outcome network past).2.exchanges = .whole status text)
    (success : isSuccess status = true)
    : ((client.post post).outcome network past).1 = .ok ⟨status, text⟩ := by
  cases made : client.request? post with
  | none =>
      rw [post_of_none made] at whole
      cases whole
  | some request =>
      have settled := post_settled made (not_strands_of_whole whole)
      rw [whole] at settled
      generalize ((client.post post).outcome network past).1 = result at settled ⊢
      cases settled with
      | accepted => rfl
      | refused unsuccessful => cases success.symm.trans unsuccessful

/-- A post says nothing but what helps to find faults. -/
theorem post_recording (client : Client) (post : Post)
    : (client.post post).Abides (.recording (·.level ≠ .info)) := by
  have quiet : Log.Level.debug ≠ .info := by decide
  have announces : Job.Rules.note (.recording (·.level ≠ .info)) (announcement post) :=
    ⟨_, rfl, quiet⟩
  cases made : client.request? post with
  | none =>
      rw [post_of_none made]
      exact .say announces (.fail trivial)
  | some request =>
      rw [post_of_some made]
      have sends
          : (send post.provider redirectLimit request).Abides (.recording (·.level ≠ .info)) :=
        (send_mute post.provider redirectLimit request).weaken (fun _ => False.elim) (fun _ => id)
          fun _ _ => trivial
      refine .say announces (sends.bind fun response => ?_)
      rw [accept]
      cases response.body with
      | none => exact .fail trivial
      | some octets =>
          refine .say ?_ ?_
          · exact ⟨_, rfl, quiet⟩
          · split
            · exact .done _
            · exact .fail trivial

end Client

end Http

end Courier
