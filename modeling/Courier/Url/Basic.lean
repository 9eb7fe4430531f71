import Courier.Url.Host

/-! Addresses. An address has a scheme, perhaps a user, a host and a port, a path, and perhaps a
query and a fragment. `Url.text` is its one written form.
-/

namespace Courier

open Courier.Url

/-- The path of an address: segments between slashes, or a text without structure. -/
inductive Url.Path
  | segments (names : List String)
  | text (text : String)
  deriving DecidableEq, Repr

/-- An address. A port is kept only when it is not the scheme's own. -/
structure Url where
  scheme : String
  user : String
  password : String
  host : Option Host
  port : Option Nat
  path : Url.Path
  query : Option String
  fragment : Option String
  deriving DecidableEq, Repr

namespace Url

/-- The kinds of schemes: those of the web, the scheme of files, and all others. -/
inductive Kind
  | web
  | file
  | other
  deriving DecidableEq, Repr

def Kind.of (scheme : String) : Kind :=
  if ["http", "https", "ws", "wss", "ftp"].contains scheme then .web
  else if scheme == "file" then .file
  else .other

/-- Whether backslashes count as slashes. -/
def Kind.isSpecial : Kind → Bool
  | web | file => true
  | other => false

/-- The port that a scheme has by itself. -/
def ownPort? (scheme : String) : Option Nat :=
  if scheme == "http" || scheme == "ws" then some 80
  else if scheme == "https" || scheme == "wss" then some 443
  else if scheme == "ftp" then some 21
  else none

/-- Whether an address is one of the two schemes that requests are sent to. -/
def isHttp (url : Url) : Bool :=
  url.scheme == "http" || url.scheme == "https"

/-- The port that a connection uses. -/
def portInUse? (url : Url) : Option Nat :=
  url.port.orElse fun _ => ownPort? url.scheme

/-- The segments of a path, each after a slash. -/
def Path.chars : Path → List Char
  | segments names => names.flatMap fun name => '/' :: name.toList
  | text t => t.toList

/-- The user's name and password before a host. -/
def userChars (url : Url) : List Char :=
  if url.user.isEmpty && url.password.isEmpty then []
  else url.user.toList ++ (if url.password.isEmpty then [] else ':' :: url.password.toList) ++ ['@']

/-- The port after a host. -/
def portChars (url : Url) : List Char :=
  match url.port with
  | none => []
  | some n => ':' :: Nat.toDigits 10 n

/-- What stands between the scheme and the path. A path that would be taken for a host is kept apart
by a dot. -/
def authorityChars (url : Url) : List Char :=
  match url.host with
  | some host => '/' :: '/' :: (url.userChars ++ host.chars ++ url.portChars)
  | none =>
    match url.path with
    | .segments ("" :: _ :: _) => ['/', '.']
    | _ => []

/-- A part after its mark, if there is one. -/
def marked (mark : Char) : Option String → List Char
  | none => []
  | some s => mark :: s.toList

/-- The path and the query, which a request asks for. -/
def target (url : Url) : String :=
  String.ofList (url.path.chars ++ marked '?' url.query)

def text (url : Url) : String :=
  String.ofList
    (url.scheme.toList ++ ':' :: url.authorityChars ++ url.path.chars ++ marked '?' url.query
      ++ marked '#' url.fragment)

/-- The scheme, host and port of an address, by which two addresses belong to one server. -/
def origin (url : Url) : String × Option Host × Option Nat :=
  (url.scheme, url.host, url.portInUse?)

end Url

end Courier
