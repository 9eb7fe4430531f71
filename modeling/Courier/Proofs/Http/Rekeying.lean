import Courier.Proofs.Http.Posting
import Courier.Proofs.Job.Likeness

/-! Posts that differ in a key only, which travels in one member of the document or in one header.
What is made of them differs in the key only, through every redirect.
-/

namespace Courier.Http

variable {β : Type}

-----------------------------------------------------------------------------------------
-- Entries that differ under one name
-----------------------------------------------------------------------------------------

/-- Entries under the same names in the same order, whose values differ under one name only. -/
def DifferOnlyAt (name : String) (entries others : List (String × β)) : Prop :=
  List.Forall₂ (fun entry other => entry.1 = other.1 ∧ (entry.1 ≠ name → entry.2 = other.2))
    entries others

section Entries

variable {name : String} {entries others : List (String × β)}

theorem DifferOnlyAt.refl (entries : List (String × β)) : DifferOnlyAt name entries entries :=
  List.forall₂_same.mpr fun _ _ => ⟨rfl, fun _ => rfl⟩

theorem DifferOnlyAt.cons (entry : String × β) (differ : DifferOnlyAt name entries others)
    : DifferOnlyAt name (entry :: entries) (entry :: others) :=
  List.Forall₂.cons ⟨rfl, fun _ => rfl⟩ differ

theorem DifferOnlyAt.append (more : List (String × β)) (differ : DifferOnlyAt name entries others)
    : DifferOnlyAt name (entries ++ more) (others ++ more) :=
  List.rel_append differ (DifferOnlyAt.refl more)

/-- Entries may be left out for their names, by induction on the entries. -/
theorem DifferOnlyAt.filter (keep : String → Bool) (differ : DifferOnlyAt name entries others)
    : DifferOnlyAt name (entries.filter fun entry => keep entry.1)
        (others.filter fun entry => keep entry.1) := by
  induction differ with
  | nil => exact .nil
  | @cons entry other entries others first _ ih =>
      rw [List.filter_cons, List.filter_cons, ← first.1]
      split
      · exact List.Forall₂.cons first ih
      · exact ih

/-- A name is found in both or in neither, by induction on the headers. -/
theorem DifferOnlyAt.find? {headers also : Headers} (differ : DifferOnlyAt name headers also)
    (wanted : String)
    : (headers.find? wanted).isSome = (also.find? wanted).isSome := by
  simp only [Headers.find?, Option.isSome_map]
  induction differ with
  | nil => rfl
  | @cons entry other entries others first _ ih =>
      rw [List.find?_cons, List.find?_cons, ← first.1]
      split
      · rfl
      · exact ih

end Entries

-----------------------------------------------------------------------------------------
-- Posts and requests that differ in a key
-----------------------------------------------------------------------------------------

variable (member header : String)

def DocumentsDiffer (document other : Json) : Prop :=
  ∃ members others,
    document = .object members ∧ other = .object others ∧ DifferOnlyAt member members others

/-- Headers with their names, and whether their values can be sent. -/
def Headers.outline (headers : Headers) : List (String × Bool) :=
  headers.map fun header => (header.1, isHeaderValue header.2)

/-- Posts to one address whose documents differ in one member only or whose headers in one only, and
which can be made or not for the same reasons. -/
structure Post.Rekeyed (post other : Post) : Prop where
  provider : post.provider = other.provider
  url : post.url = other.url
  carries
    : (post.headers = other.headers ∧ DocumentsDiffer member post.body other.body)
      ∨ (post.body = other.body ∧ DifferOnlyAt header post.headers other.headers)
  outline : post.headers.outline = other.headers.outline

/-- Bodies that are the same or are documents that differ in one member only. -/
def BodiesDiffer (body other : Option String) : Prop :=
  body = other
  ∨ ∃ document also,
      body = some document.compact
      ∧ other = some also.compact
      ∧ DocumentsDiffer member document also

/-- Requests that are the same but for one member of the document or the value of one header. -/
structure Request.Rekeyed (request other : Request) : Prop where
  method : request.method = other.method
  url : request.url = other.url
  carries
    : (request.headers = other.headers ∧ BodiesDiffer member request.body other.body)
      ∨ (request.body = other.body ∧ DifferOnlyAt header request.headers other.headers)

namespace Client

variable {member header}

theorem headersOf_differ {client : Client} {post other : Post}
    (differ : DifferOnlyAt header post.headers other.headers)
    : DifferOnlyAt header (client.headersOf post) (client.headersOf other) := by
  have own := differ.cons (contentTypeHeader, "application/json")
  have found := own.find? userAgentHeader
  simp only [headersOf]
  generalize (contentTypeHeader, "application/json") :: post.headers = first at own found ⊢
  generalize (contentTypeHeader, "application/json") :: other.headers = second at own found ⊢
  cases named : Headers.find? first userAgentHeader with
  | some _ =>
      cases also : Headers.find? second userAgentHeader with
      | some _ => exact own
      | none => simp [named, also] at found
  | none =>
      cases also : Headers.find? second userAgentHeader with
      | some _ => simp [named, also] at found
      | none => exact own.append _

theorem headersOf_eq {client : Client} {post other : Post} (same : post.headers = other.headers)
    : client.headersOf post = client.headersOf other := by
  rw [headersOf, headersOf, same]

/-- Whether headers can be sent is told by their outline. -/
theorem all_outline (headers : Headers)
    : (headers.all fun h => isHeaderName h.1 && isHeaderValue h.2)
      = headers.outline.all fun h => isHeaderName h.1 && h.2 := by
  rw [Headers.outline, List.all_map]
  rfl

theorem unsendable?_outline (headers : Headers)
    : unsendable? headers
      = (headers.outline.find? fun h => !(isHeaderName h.1 && h.2)).map (·.1) := by
  rw [unsendable?, Headers.outline, List.find?_map, Option.map_map]
  rfl

/-- What is said of a post that cannot be made is told by its address and the outline of its
headers. -/
theorem buildCauses_eq_of_outline {post other : Post} (url : post.url = other.url)
    (outline : post.headers.outline = other.headers.outline)
    : buildCauses post = buildCauses other := by
  rw [buildCauses, buildCauses, unsendable?_outline, unsendable?_outline, url, outline]

theorem request?_rekeyed {client : Client} {post other : Post}
    (rekeyed : post.Rekeyed member header other)
    : Option.Rel (Request.Rekeyed member header) (client.request? post)
        (client.request? other) := by
  rw [request?, request?, all_outline, all_outline, ← rekeyed.url, ← rekeyed.outline]
  split
  · exact .none
  · split
    · refine .some ⟨rfl, rfl, ?_⟩
      rcases rekeyed.carries with ⟨headers, documents⟩ | ⟨body, headers⟩
      · exact .inl ⟨headersOf_eq headers, .inr ⟨_, _, rfl, rfl, documents⟩⟩
      · exact .inr ⟨congrArg (some ·.compact) body, headersOf_differ headers⟩
    · exact .none

theorem moved_rekeyed {request other : Request} (rekeyed : request.Rekeyed member header other)
    (status : Nat) (url : Url)
    : (moved request status url).Rekeyed member header (moved other status url) := by
  rw [moved, moved]
  split
  · exact ⟨rekeyed.method, rfl, rekeyed.carries⟩
  · refine ⟨rfl, rfl, .inr ⟨rfl, ?_⟩⟩
    rcases rekeyed.carries with ⟨headers, -⟩ | ⟨-, headers⟩
    · rw [headers]
      exact .refl _
    · exact headers.filter fun name => !isBodyHeader name

/-- An answer leads requests that differ in a key to the same, or on to requests that do. -/
theorem redirect_rekeyed {request other : Request} (rekeyed : request.Rekeyed member header other)
    (response : Response)
    : (redirect request response = .none ∧ redirect other response = .none)
      ∨ (redirect request response = .refuse ∧ redirect other response = .refuse)
      ∨ ∃ next also,
          redirect request response = .follow next
          ∧ redirect other response = .follow also
          ∧ next.Rekeyed member header also := by
  rw [redirect, redirect, location?, location?, ← rekeyed.url]
  split
  · exact .inl ⟨rfl, rfl⟩
  · split
    · exact .inl ⟨rfl, rfl⟩
    · next url _ =>
        split
        · exact .inr (.inr ⟨_, _, rfl, rfl, moved_rekeyed rekeyed response.status url⟩)
        · exact .inr (.inl ⟨rfl, rfl⟩)

/-- What becomes of requests that differ in a key does so too, by induction on the redirects that
are left. -/
theorem send_alike (provider : String) (left : Nat) {request other : Request}
    (rekeyed : request.Rekeyed member header other)
    : (send provider left request).Alike (Request.Rekeyed member header)
        (send provider left other) := by
  induction left using Nat.strongRecOn generalizing request other with
  | ind left ih =>
      have named (causes : List String)
          : unanswered provider other causes = unanswered provider request causes := by
        rw [unanswered, unanswered, rekeyed.url]
      have strays : strayed provider other = strayed provider request := by
        rw [strayed, strayed, rekeyed.url]
      have refusal (response : Response)
          : refusalCauses other response = refusalCauses request response := by
        rw [refusalCauses, refusalCauses, location?, location?, rekeyed.url]
      rw [send, send, Job.exchange, Job.exchange, Job.ask_bind, Job.ask_bind]
      refine .ask rekeyed fun reply => ?_
      simp only [Job.done, Job.finish_ok_bind, named, strays, refusal]
      rcases reply with causes | _ | response
      · exact .finish _
      · exact .finish _
      -- Where an answer leads depends on the address alone, which the two requests share.
      · rcases redirect_rekeyed rekeyed response with ⟨stays, also⟩ | ⟨refuses, also⟩
          | ⟨next, asked, follows, also, onward⟩
        · simp only [stays, also]
          exact .finish _
        · simp only [refuses, also]
          exact .finish _
        · simp only [follows, also]
          cases left with
          | zero => exact .finish _
          | succ left => exact ih left (Nat.lt_succ_self left) onward

theorem post_alike (client : Client) {post other : Post}
    (rekeyed : post.Rekeyed member header other)
    : (client.post post).Alike (Request.Rekeyed member header) (client.post other) := by
  have causes := buildCauses_eq_of_outline rekeyed.url rekeyed.outline
  rw [Client.post, Client.post, ← causes, ← rekeyed.provider, ← rekeyed.url]
  refine .say _ ?_
  have requests : Option.Rel (Request.Rekeyed member header) (client.request? post)
      (client.request? other) :=
    request?_rekeyed rekeyed
  generalize client.request? post = request at requests ⊢
  generalize client.request? other = also at requests ⊢
  cases requests with
  | none => exact .finish _
  | some same =>
      refine (send_alike post.provider redirectLimit same).bind fun response => ?_
      exact (accept_abides post.provider response).alike fun _ => id

end Client

end Courier.Http
