import Courier.Proofs.Http.Stranding
import Courier.Proofs.Http.WireFormat
import Mathlib.Data.List.Chain

/-! The custody of keys. A request can carry a key in its document or in a header, and a redirect
that is followed passes the header on in any case and the document with some statuses only. So the
keys stay where the first requests take them exactly when no answer leads a request that passes its
key on to another server.
-/

namespace Courier

open Courier.Http (Network Request Reply Response)

variable {α β : Type}

-----------------------------------------------------------------------------------------
-- The places of keys
-----------------------------------------------------------------------------------------

/-- The key that a document carries. -/
def Json.key? (document : Json) : Option String :=
  match document.get? "api_key" with
  | some (.string key) => some key
  | _ => none

/-- The places of a request that hold keys. -/
inductive KeyPlace
  | member
  | header
  deriving DecidableEq, Repr

namespace KeyPlace

/-- The keys that a request carries in a place. -/
def keys : KeyPlace → Request → List String
  | member, request =>
    ((request.body.bind fun sent => (Json.parse sent).toOption).bind Json.key?).toList
  | header, request => request.headers.values "x-api-key"

/-- Whether a redirect with a status passes on what a request carries in a place. -/
def passes : KeyPlace → Nat → Bool
  | member, status => status == 307 || status == 308
  | header, _ => true

end KeyPlace

/-- Who a key belongs to: the key, and the server at the address beside it. -/
structure KeyOwner where
  key : String
  server : Option (String × Option Url.Host × Option Nat)
  deriving DecidableEq, Repr

namespace Http

/-- Every key that a request carries is its owner's, and the request goes to the owner's server. -/
def Request.AtHome (owners : KeyPlace → KeyOwner) (request : Request) : Prop :=
  ∀ place, ∀ key ∈ place.keys request,
    key = (owners place).key ∧ some request.url.origin = (owners place).server

instance decidableAtHome (owners : KeyPlace → KeyOwner) (request : Request)
    : Decidable (request.AtHome owners) :=
  decidable_of_iff
    (∀ place ∈ [KeyPlace.member, KeyPlace.header], ∀ key ∈ place.keys request,
      key = (owners place).key ∧ some request.url.origin = (owners place).server)
    ⟨fun home place => home place (by cases place <;> simp), fun home place _ => home place⟩

variable {owners : KeyPlace → KeyOwner} {request next : Request} {response : Response}

/-- A post is at home if it goes to the server of all the keys that it carries. -/
theorem Request.Posts.atHome {address : String} {keys : List String} {document : Json} {url : Url}
    (posts : request.Posts address keys document) (parsed : Url.parse? address = some url)
    (member : ∀ key ∈ document.key?, owners .member = ⟨key, some url.origin⟩)
    (header : ∀ key ∈ keys, owners .header = ⟨key, some url.origin⟩)
    : request.AtHome owners := by
  obtain ⟨sent, body, read⟩ := posts.body
  obtain ⟨_, parsed', goes⟩ := posts.url
  obtain rfl := Option.some.inj (parsed.symm.trans parsed')
  have origin : request.url.origin = url.origin := by
    rw [goes, Client.requestUrl]
    split <;> rfl
  intro place key carried
  cases place with
  | member =>
      have found : key ∈ document.key? := by
        simpa [KeyPlace.keys, body, read, Except.toOption] using carried
      rw [member key found, origin]
      exact ⟨rfl, rfl⟩
  | header =>
      rw [KeyPlace.keys, posts.keys] at carried
      rw [header key carried, origin]
      exact ⟨rfl, rfl⟩

-----------------------------------------------------------------------------------------
-- Redirects
-----------------------------------------------------------------------------------------

namespace Client

/-- The headers that say something of a body hold no keys. -/
theorem values_filter_isBodyHeader (headers : Headers)
    : Headers.values (headers.filter (!isBodyHeader ·.1)) "x-api-key"
      = headers.values "x-api-key" := by
  have apart {header : String × String} (named : lowerName header.1 = lowerName "x-api-key")
      : isBodyHeader header.1 = false := by
    rw [isBodyHeader, named]
    decide
  rw [Headers.values, Headers.values, List.filter_filter]
  refine congrArg _ (List.filter_congr fun header _ => ?_)
  cases named : lowerName header.1 == lowerName "x-api-key" with
  | false => rfl
  | true => simp [apart (beq_iff_eq.mp named)]

/-- A request at another address carries what the status passes on. -/
theorem keys_moved (place : KeyPlace) (request : Request) (status : Nat) (url : Url)
    : place.keys (moved request status url)
      = if place.passes status then place.keys request else [] := by
  cases place with
  | member =>
      rw [moved, KeyPlace.passes]
      split <;> rfl
  | header =>
      rw [moved, KeyPlace.passes, if_pos rfl]
      split
      · rfl
      · exact values_filter_isBodyHeader request.headers

theorem keys_follow (follows : redirect request response = .follow next) (place : KeyPlace)
    : place.keys next = if place.passes response.status then place.keys request else [] := by
  obtain ⟨url, rfl⟩ := moved_of_follow follows
  exact keys_moved place request response.status url

end Client

/-- An exchange follows the one before it: its request is the one that the answer leads to. -/
def Follows (before next : Request × Reply) : Prop :=
  ∃ response, before.2 = .answer response ∧ Client.redirect before.1 response = .follow next.1

/-- An answer leads a request to another server, and passes on a key that the request carries. -/
def Exports (before next : Request × Reply) : Prop :=
  ∃ response place key,
    before.2 = .answer response
    ∧ Client.redirect before.1 response = .follow next.1
    ∧ key ∈ KeyPlace.keys place before.1
    ∧ place.passes response.status = true
    ∧ next.1.url.origin ≠ before.1.url.origin

/-- Exchanges in which a key is led to another server. -/
def Strays (exchanges : List (Request × Reply)) : Prop :=
  ∃ before next, [before, next] <:+: exchanges ∧ Exports before next

/-- Exchanges of which each makes a wanted request or follows the one before it, and the first one
makes a wanted request. -/
structure Chained (wanted : Request → Prop) (exchanges : List (Request × Reply)) : Prop where
  first : ∀ exchange ∈ exchanges.head?, wanted exchange.1
  links : exchanges.IsChain fun before next => wanted next.1 ∨ Follows before next

variable {wanted : Request → Prop} {exchanges later : List (Request × Reply)}

theorem chained_nil : Chained wanted [] := ⟨by simp, .nil⟩

theorem Chained.append (chained : Chained wanted exchanges) (chainedLater : Chained wanted later)
    : Chained wanted (exchanges ++ later) := by
  constructor
  · rw [List.head?_append]
    intro exchange first
    cases exchanges with
    | nil => exact chainedLater.first exchange first
    | cons _ _ => exact chained.first exchange first
  · refine List.isChain_append.mpr ⟨chained.links, chainedLater.links, ?_⟩
    exact fun _ _ next first => .inl (chainedLater.first next first)

theorem Strays.cons (strays : Strays exchanges) (exchange : Request × Reply)
    : Strays (exchange :: exchanges) := by
  obtain ⟨before, next, within, exports⟩ := strays
  exact ⟨before, next, List.infix_cons within, exports⟩

/-- What follows a request at home is at home, unless a key is led to another server. -/
theorem atHome_of_follows {before next : Request × Reply} (home : before.1.AtHome owners)
    (follows : Follows before next) (stays : ¬ Exports before next)
    : next.1.AtHome owners := by
  obtain ⟨response, answered, leads⟩ := follows
  intro place key carried
  rw [Client.keys_follow leads place] at carried
  split at carried
  · next passes =>
      have same : next.1.url.origin = before.1.url.origin := by
        by_contra other
        exact stays ⟨response, place, key, answered, leads, carried, passes, other⟩
      rw [same]
      exact home place key carried
  · cases carried

/-- An exchange that leads a key to another server leads it away from its owner's. -/
theorem not_atHome_of_exports {before next : Request × Reply} (exports : Exports before next)
    (home : before.1.AtHome owners)
    : ¬ next.1.AtHome owners := by
  obtain ⟨response, place, key, _, leads, carried, passes, other⟩ := exports
  intro homeNext
  have carriedNext : key ∈ place.keys next.1 := by
    rw [Client.keys_follow leads place, if_pos passes]
    exact carried
  have same := (homeNext place key carriedNext).2.trans (home place key carried).2.symm
  exact other (Option.some.inj same)

/-- From a request at home on, all are at home unless a key is led to another server, by induction
on the exchanges. -/
theorem atHome_of_links {exchange : Request × Reply} (home : exchange.1.AtHome owners)
    (links
      : (exchange :: exchanges).IsChain fun before next =>
          next.1.AtHome owners ∨ Follows before next)
    (stays : ¬ Strays (exchange :: exchanges))
    : ∀ other ∈ exchange :: exchanges, other.1.AtHome owners := by
  induction exchanges generalizing exchange with
  | nil => simpa using home
  | cons next exchanges ih =>
      obtain ⟨link, links⟩ := List.isChain_cons_cons.mp links
      have homeNext : next.1.AtHome owners := by
        rcases link with wanted | follows
        · exact wanted
        · refine atHome_of_follows home follows fun exports => ?_
          exact stays ⟨exchange, next, ⟨[], exchanges, rfl⟩, exports⟩
      have others := ih homeNext links fun strays => stays (strays.cons exchange)
      exact List.forall_mem_cons.mpr ⟨home, others⟩

/-- Where the first requests are at home, all of them are exactly when no key is led to another
server. -/
theorem Chained.atHome_iff (chained : Chained (Request.AtHome owners) exchanges)
    : (∀ exchange ∈ exchanges, exchange.1.AtHome owners) ↔ ¬ Strays exchanges := by
  constructor
  · rintro home ⟨before, next, within, exports⟩
    have among (exchange : Request × Reply) (member : exchange ∈ [before, next])
        : exchange.1.AtHome owners :=
      home exchange (within.subset member)
    exact not_atHome_of_exports exports (among before (by simp)) (among next (by simp))
  · intro stays
    cases exchanges with
    | nil => simp
    | cons exchange exchanges =>
        exact atHome_of_links (chained.first exchange rfl) chained.links stays

end Http

-----------------------------------------------------------------------------------------
-- Jobs
-----------------------------------------------------------------------------------------

namespace Job

/-- A job whose requests are wanted ones and those that these are redirected to. -/
def Chained (wanted : Request → Prop) (job : Job α) : Prop :=
  ∀ (network : Network) (past : List Request),
    Http.Chained wanted (job.outcome network past).2.exchanges

variable {wanted : Request → Prop}

theorem Chained.finish (result : Except Failure α) : (finish result).Chained wanted :=
  fun _ _ => Http.chained_nil

theorem Chained.say (note : Note) {rest : Job α} (chained : rest.Chained wanted)
    : (say note rest).Chained wanted :=
  chained

theorem Abides.chained {rules : Rules} {job : Job α} (abides : job.Abides rules)
    (none : ∀ request, ¬ rules.request request)
    : job.Chained wanted := by
  intro network past
  rw [(Trace.requests_eq_nil_iff _).mp (abides.requests_eq_nil none)]
  exact Http.chained_nil

/-- A check that comes first makes no request. -/
theorem Chained.check {check : Except Failure β} {next : β → Job α}
    (chained : ∀ b, check = .ok b → (next b).Chained wanted)
    : (ofExcept check >>= next).Chained wanted := by
  cases check with
  | ok b => exact chained b rfl
  | error failure => exact .finish _

theorem Chained.bind {job : Job α} {later : α → Job β} (chained : job.Chained wanted)
    (chainedLater : ∀ a, (later a).Chained wanted)
    : (job >>= later).Chained wanted := by
  intro network past
  have first := chained network past
  rcases ended : job.outcome network past with ⟨result, trace⟩
  rw [ended] at first
  cases result with
  | ok a =>
      rw [outcome_bind_ok network past ended, Trace.exchanges_append]
      exact first.append (chainedLater a network _)
  | error failure =>
      rw [outcome_bind_error network past ended]
      exact first

theorem Chained.attempt {job : Job α} (chained : job.Chained wanted)
    : job.attempt.Chained wanted := by
  intro network past
  rw [outcome_attempt]
  exact chained network past

end Job

namespace Http.Client

variable {network : Network} {past : List Request} {wanted : Request → Prop}

/-- Of a request and those that it is redirected to, each follows the one before it, by induction on
the redirects that are left. -/
theorem send_follows (provider : String) (left : Nat) (request : Request) (network : Network)
    (past : List Request)
    : ((send provider left request).outcome network past).2.exchanges.IsChain Follows := by
  induction left using Nat.strongRecOn generalizing request past with
  | ind left ih =>
      have sends := send_sends provider left request network past
      generalize (send provider left request).outcome network past = outcome at sends ⊢
      cases sends with
      | unanswered | settled | refused | strayed => exact .singleton _
      | @followed left response next follows =>
          have onward := ih left (Nat.lt_succ_self left) next (past ++ [request])
          obtain ⟨goes, asks⟩ := send_eq_ask provider left next
          rw [asks] at onward ⊢
          exact List.isChain_cons_cons.mpr ⟨⟨response, rfl, follows⟩, onward⟩

/-- A post makes the request that is made of it, and those that this one is redirected to. -/
theorem post_chained {client : Client} {post : Post}
    (each : ∀ request, client.request? post = some request → wanted request)
    : (client.post post).Chained wanted := by
  intro network past
  constructor
  · intro exchange first
    exact ((post_beginsWith client post).mono each).wanted_of_head? first
  · cases made : client.request? post with
    | none =>
        rw [post_of_none made]
        exact .nil
    | some request =>
        rw [exchanges_of_post made]
        exact (send_follows post.provider redirectLimit request network past).imp
          fun _ _ => .inr

end Http.Client

end Courier
