import Courier.Url.Basic
import Courier.Text.Lower

/-! Reading addresses as browsers do. Blanks at both ends and line breaks inside are dropped; then
the text falls into a scheme, an authority, a path, a query and a fragment. `Url.resolve?` reads an
address relative to another one.
-/

namespace Courier.Url

open Courier.Text

/-- Whether a character is a blank that an address drops at its ends. -/
def isEdge (c : Char) : Bool := c.toNat ≤ 0x20

def isBreak (c : Char) : Bool := c == '\t' || c == '\n' || c == '\r'

/-- The characters of an address that count. -/
def clean (cs : List Char) : List Char :=
  (((cs.dropWhile isEdge).reverse.dropWhile isEdge).reverse).filter (!isBreak ·)

def isLetter (c : Char) : Bool := ('a' ≤ c && c ≤ 'z') || ('A' ≤ c && c ≤ 'Z')

/-- Whether a character may stand in a scheme after its first letter. -/
def isSchemeChar (c : Char) : Bool :=
  isLetter c || isDigit c || c == '+' || c == '-' || c == '.'

/-- The scheme before a colon, in lower case, and what follows the colon. -/
def splitScheme (cs : List Char) : Option (String × List Char) :=
  match cs with
  | [] => none
  | c :: _ =>
    if !isLetter c then none
    else match cs.span isSchemeChar with
      | (scheme, ':' :: rest) => some (String.ofList (scheme.map lowerAscii), rest)
      | _ => none

/-- A character that ends a path: the mark of a query or of a fragment. -/
def endsPath (c : Char) : Bool := c == '?' || c == '#'

/-- A character that divides segments. -/
def isSlash (kind : Kind) (c : Char) : Bool := c == '/' || (kind.isSpecial && c == '\\')

/-- A character that ends an authority. -/
def endsAuthority (kind : Kind) (c : Char) : Bool := isSlash kind c || endsPath c

/-- The parts after a path: a query and a fragment, each after its mark. -/
def splitTail (kind : Kind) (cs : List Char) : Option String × Option String :=
  let fragment (cs : List Char) := String.ofList (Percent.encode Percent.inFragment cs)
  match cs with
  | '?' :: rest =>
    let (query, rest) := rest.span (· != '#')
    let query := String.ofList (Percent.encode (Percent.inQuery kind.isSpecial) query)
    match rest with
    | '#' :: rest => (some query, some (fragment rest))
    | _ => (some query, none)
  | '#' :: rest => (none, some (fragment rest))
  | _ => (none, none)

/-- A segment in lower case with its encoded dots as dots. -/
def plainDots : List Char → List Char
  | '%' :: '2' :: e :: rest =>
    if e == 'e' || e == 'E' then '.' :: plainDots rest else '%' :: '2' :: plainDots (e :: rest)
  | c :: rest => c :: plainDots rest
  | [] => []

def isHere (segment : List Char) : Bool := plainDots segment == ['.']

def isAbove (segment : List Char) : Bool := plainDots segment == ['.', '.']

def isDrive (segment : String) : Bool :=
  match segment.toList with
  | [c, d] => isLetter c && (d == ':' || d == '|')
  | _ => false

/-- The segments without the last one; the drive of a file stays. -/
def shorten (kind : Kind) (names : List String) : List String :=
  match kind, names with
  | .file, [name] => if isDrive name then [name] else []
  | _, names => names.dropLast

def splitSegments (kind : Kind) : List Char → List (List Char)
  | [] => [[]]
  | c :: cs =>
    if isSlash kind c then [] :: splitSegments kind cs
    else match splitSegments kind cs with
      | [] => [[c]]
      | part :: parts => (c :: part) :: parts

/-- Goes along segments from a place. A last segment that means a place leaves an empty name. -/
def walk (kind : Kind) (place : List String) : List (List Char) → List String
  | [] => place
  | segment :: rest =>
    if isAbove segment then
      let place := shorten kind place
      if rest.isEmpty then place ++ [""] else walk kind place rest
    else if isHere segment then
      if rest.isEmpty then place ++ [""] else walk kind place rest
    else
      let name := String.ofList (Percent.encode Percent.inPath segment)
      let name := if kind == .file && place.isEmpty && isDrive name then
          String.ofList (name.toList.take 1 ++ [':']) else name
      walk kind (place ++ [name]) rest

/-- The path of a text that begins where a path begins. -/
def parsePath (kind : Kind) (cs : List Char) : Path :=
  match cs with
  | [] => if kind.isSpecial then .segments [""] else .segments []
  | c :: rest =>
    .segments (walk kind [] (splitSegments kind (if isSlash kind c then rest else c :: rest)))

/-- The parts of an authority: user, password, host and port. -/
structure Authority where
  user : String
  password : String
  host : Option Host
  port : Option Nat

/-- The user's name and password before the last `@`, and the rest. A host must follow them. -/
def splitUser (kind : Kind) (cs : List Char) : Option (String × String × List Char) :=
  let (authority, rest) := cs.span (!endsAuthority kind ·)
  if !authority.contains '@' then some ("", "", cs)
  else
    let after := (authority.reverse.takeWhile (· != '@')).reverse
    let before := authority.take (authority.length - after.length - 1)
    let encode (cs : List Char) := String.ofList (Percent.encode Percent.inUser cs)
    if before.isEmpty then
      if after.isEmpty && !rest.isEmpty then none else some ("", "", after ++ rest)
    else
      let (user, password) := before.span (· != ':')
      some (encode user, encode (password.drop 1), after ++ rest)

/-- The host before a port or a path, and the rest. Colons inside brackets belong to the host. -/
def splitHost (kind : Kind) : Bool → List Char → List Char × List Char
  | _, [] => ([], [])
  | inside, c :: cs =>
    if (c == ':' && !inside) || endsAuthority kind c then ([], c :: cs)
    else
      let inside := if c == '[' then true else if c == ']' then false else inside
      let (host, rest) := splitHost kind inside cs
      (c :: host, rest)

/-- The port before a path. -/
def parsePort (own : Option Nat) (cs : List Char) : Option (Option Nat × List Char) :=
  let (digits, rest) := cs.span isDigit
  let port := digits.foldl (fun n c => 10 * n + (c.toNat - 48)) 0
  let ends := match rest with
    | [] => true
    | c :: _ => c == '/' || c == '\\' || endsPath c
  if 65535 < port || !ends then none
  else if digits.isEmpty || own == some port then some (none, rest)
  else some (some port, rest)

/-- The authority at the start of a text, and the rest. -/
def parseAuthority (kind : Kind) (scheme : String) (cs : List Char)
    : Option (Authority × List Char) :=
  match splitUser kind cs with
  | none => none
  | some (user, password, cs) =>
    let (host, rest) := splitHost kind false cs
    if host.isEmpty then
      let hasUser := !(user.isEmpty && password.isEmpty)
      if kind.isSpecial || hasUser || rest.head? == some ':' then none
      else some (⟨"", "", some (.plain ""), none⟩, rest)
    else
      match if kind.isSpecial then Host.parse? host else Host.parsePlain? host with
      | none => none
      | some host =>
        match rest with
        | ':' :: rest =>
          (parsePort (ownPort? scheme) rest).map fun (port, rest) =>
            (⟨user, password, some host, port⟩, rest)
        | rest => some (⟨user, password, some host, none⟩, rest)

/-- The address of an authority and the path, query and fragment after it. -/
def assemble (kind : Kind) (scheme : String) (authority : Authority) (cs : List Char) : Url :=
  let (path, tail) := cs.span (!endsPath ·)
  let (query, fragment) := splitTail kind tail
  { scheme
    user := authority.user
    password := authority.password
    host := authority.host
    port := authority.port
    path := parsePath kind path
    query
    fragment }

/-- The address after the slashes of a scheme with an authority. -/
def parseAuthorityUrl (kind : Kind) (scheme : String) (cs : List Char) : Option Url :=
  (parseAuthority kind scheme cs).map fun (authority, rest) => assemble kind scheme authority rest

/-- The authority that is not there. -/
def noAuthority : Authority := ⟨"", "", none, none⟩

/-- The address of a file: an optional host after two slashes, and a path. -/
def parseFile (cs : List Char) : Option Url :=
  let noHost : Authority := ⟨"", "", some (.plain ""), none⟩
  match cs with
  | a :: b :: rest =>
    if isSlash .file a && isSlash .file b then
      let (host, path) := rest.span (!endsAuthority .file ·)
      if host.isEmpty then some (assemble .file "file" noHost path)
      else if isDrive (String.ofList host) then some (assemble .file "file" noHost rest)
      else match Host.parse? host with
        | none => none
        | some (.name "localhost") => some (assemble .file "file" noHost path)
        | some host => some (assemble .file "file" ⟨"", "", some host, none⟩ path)
    else some (assemble .file "file" noHost cs)
  | _ => some (assemble .file "file" noHost cs)

/-- The address of a scheme that is not of the web. -/
def parseOther (scheme : String) (cs : List Char) : Option Url :=
  match cs with
  | '/' :: '/' :: rest => parseAuthorityUrl .other scheme rest
  | '/' :: _ => some (assemble .other scheme noAuthority cs)
  | _ =>
    let (path, tail) := cs.span (!endsPath ·)
    let (query, fragment) := splitTail .other tail
    some
      { scheme, user := "", password := "", host := none, port := none
        path := .text (String.ofList (Percent.encode Percent.isControl path)), query, fragment }

/-- The address of a scheme and what follows its colon. -/
def parseWithScheme (scheme : String) (rest : List Char) : Option Url :=
  match Kind.of scheme with
  | .web => parseAuthorityUrl .web scheme (rest.dropWhile (isSlash .web))
  | .file => parseFile rest
  | .other => parseOther scheme rest

/-- The address that a text spells. -/
def parse? (text : String) : Option Url :=
  match splitScheme (clean text.toList) with
  | none => none
  | some (scheme, rest) => parseWithScheme scheme rest

/-- What is said of an authority that cannot be read: a host that is missing or none, or a port. -/
def authorityFault (kind : Kind) (cs : List Char) : String :=
  match splitUser kind cs with
  | none => "empty host"
  | some (_, _, cs) =>
    let host := (splitHost kind false cs).1
    if host.isEmpty then "empty host"
    else if kind.isSpecial then
      if (Host.parse? host).isNone then Host.fault host else "invalid port number"
    else if (Host.parsePlain? host).isNone then Host.plainFault host
    else "invalid port number"

/-- What is said of a text that spells no address. -/
def fault (text : String) : String :=
  match splitScheme (clean text.toList) with
  | none => "relative URL without a base"
  | some (scheme, rest) =>
    match Kind.of scheme with
    | .web => authorityFault .web (rest.dropWhile (isSlash .web))
    | .file => Host.fault ((rest.drop 2).takeWhile (!endsAuthority .file ·))
    | .other => authorityFault .other (rest.drop 2)

def Path.names : Path → List String
  | .segments names => names
  | .text t => [t]

/-- An address spelled relative to a web address: after two slashes an authority, after one a path,
or else a path beside the last segment, a query or a fragment. -/
def relative? (base : Url) (cs : List Char) : Option Url :=
  let kind := Kind.of base.scheme
  let authority : Authority := ⟨base.user, base.password, base.host, base.port⟩
  let (slashes, rest) := cs.span (isSlash kind)
  if 2 ≤ slashes.length then parseAuthorityUrl kind base.scheme rest
  else if slashes.length == 1 then some (assemble kind base.scheme authority cs)
  else
    let (path, tail) := cs.span (!endsPath ·)
    let (query, fragment) := splitTail kind tail
    if path.isEmpty then
      some { base with query := if query.isNone then base.query else query, fragment }
    else
      let names := walk kind base.path.names.dropLast (splitSegments kind path)
      some { base with path := .segments names, query, fragment }

/-- The address that a text spells when it is read at a web address. -/
def resolve? (base : Url) (text : String) : Option Url :=
  let cs := clean text.toList
  match splitScheme cs with
  | none => relative? base cs
  | some (scheme, rest) =>
    if scheme == base.scheme && Kind.of scheme == .web
      && (rest.takeWhile (isSlash .web)).length < 2 then relative? base rest
    else parseWithScheme scheme rest

end Courier.Url
