import Courier.Proofs.Http.Posting

/-! The wire format of a post: the address, the headers and the document of the request that is made
of it.
-/

namespace Courier.Http

/-- The values that headers give to a name. -/
def Headers.values (headers : Headers) (name : String) : List String :=
  (headers.filter fun header => lowerName header.1 == lowerName name).map (·.2)

/-- A request that posts a document to the address that a text spells, with these keys in the header
of keys. -/
structure Request.Posts (request : Request) (address : String) (keys : List String)
    (document : Json) : Prop where
  method : request.method = .post
  url : ∃ url, Url.parse? address = some url ∧ request.url = Client.requestUrl url
  contentType : request.headers.values "content-type" = ["application/json"]
  keys : request.headers.values "x-api-key" = keys
  body : ∃ sent, request.body = some sent ∧ Json.parse sent = .ok document

/-- The client's name is added to the headers of a post and changes no other name's values. -/
theorem Client.values_headersOf (client : Client) (post : Post) {name : String}
    (other : lowerName userAgentHeader ≠ lowerName name)
    : (client.headersOf post).values name
      = Headers.values ((contentTypeHeader, "application/json") :: post.headers) name := by
  have dropped : [(userAgentHeader, client.userAgent)].filter
      (fun header => lowerName header.1 == lowerName name) = [] := by
    simp [other]
  rw [headersOf]
  split
  · rfl
  · rw [Headers.values, List.filter_append, dropped, List.append_nil]
    rfl

variable {client : Client} {post : Post} {request : Request} {document : Json}

/-- The request that is made of a post whose only own headers are those of keys. -/
theorem Client.posts_of_request? (keys : List String)
    (keyed : post.headers = keys.map fun key => ("x-api-key", key))
    (read : Json.parse post.body.compact = .ok document)
    (made : client.request? post = some request)
    : request.Posts post.url keys document := by
  obtain ⟨url, parsed, rfl⟩ := address_of_request? made
  refine ⟨rfl, ⟨url, parsed, rfl⟩, ?_, ?_, ⟨_, rfl, read⟩⟩
  · rw [values_headersOf client post (by decide), keyed]
    have differs : lowerName "x-api-key" ≠ lowerName "content-type" := by decide
    simp [Headers.values, contentTypeHeader, differs]
  · rw [values_headersOf client post (by decide), keyed]
    have differs : lowerName contentTypeHeader ≠ lowerName "x-api-key" := by decide
    simp [Headers.values, differs, List.filter_map, Function.comp_def]

end Courier.Http
