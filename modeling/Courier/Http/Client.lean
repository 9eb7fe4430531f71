import Courier.Http.Charset
import Courier.Job
import Courier.Settings.Basic
import Courier.Url.Parser

/-! The client of the providers' servers. It posts JSON, follows redirects, and tells apart a
request that cannot be made, one that is not answered, and one that is refused.
-/

namespace Courier.Http

open Courier.Text Courier.Url

/-- A client: the name under which it makes requests. -/
structure Client where
  userAgent : String
  deriving DecidableEq, Repr

/-- What a post to a provider says, before it is known to be a request. -/
structure Post where
  provider : String
  url : String
  body : Json
  headers : Headers
  deriving Repr

/-- The text of an accepted request's answer. -/
structure Accepted where
  status : Nat
  body : String
  deriving DecidableEq, Repr

/-- The header that a client's name is sent in. -/
def userAgentHeader : String := "user-agent"

/-- The header that says what a body is. -/
def contentTypeHeader : String := "content-type"

namespace Client

/-- The client of the settings, whose name must be able to stand in a header. -/
def make (http : Settings.Http) : Except Failure Client :=
  if isHeaderValue http.userAgent then .ok ⟨http.userAgent⟩
  else
    .error
      (.configuration "http"
        (.texts
          ["Failed to build HTTP client", "builder error", "failed to parse header value"]))

def isHostChar (c : Char) : Bool :=
  ('a' ≤ c && c ≤ 'z') || ('A' ≤ c && c ≤ 'Z') || ('0' ≤ c && c ≤ '9')
    || ['!', '$', '&', '\x27', '(', ')', '*', '+', ',', '-', '.', ';', '=', '_', '~', ':', '[',
      ']'].contains c

/-- The longest address that a request may have, in octets. -/
def longestUrl : Nat := 65534

/-- Whether a request can be made to an address: one of the web's two schemes, a host that can be
written in a request, and not too long. -/
def canRequest (url : Url) : Bool :=
  url.isHttp
    && (match url.host with
      | some host => host.chars.all isHostChar
      | none => false)
    && url.text.utf8ByteSize ≤ longestUrl

def isEncodedText (s : String) : Bool := (Utf8.text? (Percent.decode s.toList)).isSome

/-- The address as a request names it: without the user and the password, if they can be read. -/
def requestUrl (url : Url) : Url :=
  if isEncodedText url.user && (!url.user.isEmpty || isEncodedText url.password) then
    { url with user := "", password := "" }
  else url

/-- The headers of a post. The client's name is added unless the headers give one. -/
def headersOf (client : Client) (post : Post) : Headers :=
  let own := (contentTypeHeader, "application/json") :: post.headers
  match Headers.find? own userAgentHeader with
  | some _ => own
  | none => own ++ [(userAgentHeader, client.userAgent)]

/-- The request of a post, when one can be made of it. -/
def request? (client : Client) (post : Post) : Option Request :=
  match Url.parse? post.url with
  | none => none
  | some url =>
    if canRequest url && post.headers.all fun h => isHeaderName h.1 && isHeaderValue h.2 then
      some ⟨.post, requestUrl url, headersOf client post, some post.body.compact⟩
    else none

/-- What is said of an address to which no request can be made. -/
def unusable (url : Url) : List String :=
  [s!"builder error for url ({(requestUrl url).text})",
    if url.isHttp then "Parsed Url is not a valid Uri" else "URL scheme is not allowed"]

/-- What is said of a text that is no address to which a request can be made. -/
def addressCauses (address : String) : List String :=
  match Url.parse? address with
  | none => ["builder error", Url.fault address]
  | some url => unusable url

/-- What is said of a header that cannot be sent. -/
def headerCauses (name : String) : List String :=
  ["builder error",
    if isHeaderName name then "failed to parse header value" else "invalid HTTP header name"]

/-- The name of the first header that cannot be sent. -/
def unsendable? (headers : Headers) : Option String :=
  (List.find? (fun h => !(isHeaderName h.1 && isHeaderValue h.2)) headers).map (·.1)

/-- What is said of a post of which no request can be made: of its address, or, when that has a
host, first of the headers. -/
def buildCauses (post : Post) : List String :=
  match unsendable? post.headers with
  | none => addressCauses post.url
  | some name =>
    if ((Url.parse? post.url).bind Url.host).isSome then headerCauses name
    else addressCauses post.url

/-- What a redirect asks for: nothing, another request, or one that cannot be made. -/
inductive Redirect
  | none
  | follow (request : Request)
  | refuse
  deriving DecidableEq, Repr

/-- The headers that say something of a body. -/
def isBodyHeader (name : String) : Bool :=
  ["content-type", "content-length", "content-encoding", "transfer-encoding"].any fun n =>
    lowerName n == lowerName name

/-- The request at another address. With status 301, 302 or 303 it asks for the address alone. The
header that names the address it comes from is left out. -/
def moved (request : Request) (status : Nat) (url : Url) : Request :=
  if status == 307 || status == 308 then { request with url := requestUrl url }
  else
    { method := .get
      url := requestUrl url
      headers := request.headers.filter (!isBodyHeader ·.1)
      body := Option.none }

/-- The statuses of answers that redirect. -/
def redirectStatuses : List Nat := [301, 302, 303, 307, 308]

/-- The address that an answer names, read at the address of its request. -/
def location? (request : Request) (response : Response) : Option Url :=
  (response.headers.find? "location").bind (Url.resolve? request.url)

def redirect (request : Request) (response : Response) : Redirect :=
  if !redirectStatuses.contains response.status then .none
  else
    match location? request response with
    | Option.none => .none
    | some url =>
      if canRequest url then .follow (moved request response.status url) else .refuse

/-- The redirects that are followed. -/
def redirectLimit : Nat := 10

/-- The failure of a request that is not answered. -/
def unanswered (provider : String) (request : Request) (causes : List String) : Failure :=
  .transport provider (s!"error sending request for url ({request.url.text})" :: causes)

/-- The failure of a request that cannot be made. -/
def unmakeable (provider : String) (causes : List String) : Failure :=
  .configuration provider (.texts ("Failed to build request" :: causes))

/-- What is said of a redirect to an address to which no request can be made. -/
def refusalCauses (request : Request) (response : Response) : List String :=
  ((location? request response).map unusable).getD []

/-- The failure of a request that is redirected once too often. -/
def strayed (provider : String) (request : Request) : Failure :=
  .transport provider
    [s!"error following redirect for url ({request.url.text})", "too many redirects"]

/-- Makes a request and those that it is redirected to; so many redirects are left. -/
def send (provider : String) : Nat → Request → Job Response
  | left, request => do
    match ← Job.exchange request with
    | .refused causes => Job.fail (unanswered provider request causes)
    | .dropped =>
      Job.fail
        (unanswered provider request
          ["client error (SendRequest)", "connection closed before message completed"])
    | .answer response =>
      match redirect request response with
      | .none => return response
      | .refuse =>
        Job.fail
          (if left == 0 then strayed provider request
            else unmakeable provider (refusalCauses request response))
      | .follow next =>
        match left with
        | 0 => Job.fail (strayed provider request)
        | left + 1 => send provider left next

def event (message : String) (fields : List (String × Log.FieldValue)) : Log.Event :=
  ⟨.debug, "sms_dispatch::external::client", message, fields⟩

/-- Takes the text of an answer. An answer without success is a failure that carries its status and
its text. -/
def accept (provider : String) (response : Response) : Job Accepted :=
  match response.body with
  | none =>
    Job.fail
      (.transport provider
        ["error decoding response body", "request or response body error",
          "error reading a body from connection", "end of file before message length reached"])
  | some octets => do
    let text := textOf response.headers octets
    Job.record
      (event "Received response"
        [("provider", .text provider), ("status", .number response.status)])
    if isSuccess response.status then return ⟨response.status, text⟩
    else Job.fail (.status provider response.status text)

/-- Posts JSON and takes the text of the answer. -/
def post (client : Client) (post : Post) : Job Accepted := do
  Job.record (event "Sending request" [("provider", .text post.provider), ("url", .text post.url)])
  match client.request? post with
  | none => Job.fail (unmakeable post.provider (buildCauses post))
  | some request => do
    let response ← send post.provider redirectLimit request
    accept post.provider response

end Client

end Courier.Http
