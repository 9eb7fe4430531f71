import Courier.Text.Blank
import Courier.Text.Utf8

/-! A tree of directories and files, and the paths into it. A path goes from the working directory,
or from the root when it begins with a slash, and each of its names but the last must be a
directory.
-/

namespace Courier

open Courier.Text

/-- What stands at a place of the tree: a directory, a file, or a device that takes everything or
nothing. -/
inductive Disk.Entry
  | directory
  | file (content : List UInt8)
  | sink
  | full
  deriving DecidableEq, Repr

/-- A place of the tree, as the names on the way from the root. -/
abbrev Disk.Place := List String

/-- A tree of directories and files. -/
structure Disk where
  entries : List (Disk.Place × Disk.Entry)
  deriving Repr

namespace Disk

/-- Why the system refuses a request. -/
inductive Fault
  | notFound
  | occupied
  | notDirectory
  | isDirectory
  | noSpace
  deriving DecidableEq, Repr

def Fault.message : Fault → String
  | notFound => "No such file or directory (os error 2)"
  | occupied => "File exists (os error 17)"
  | notDirectory => "Not a directory (os error 20)"
  | isDirectory => "Is a directory (os error 21)"
  | noSpace => "No space left on device (os error 28)"

def home : Place := ["work"]

/-- The tree with an empty working directory and the two devices. -/
def start : Disk :=
  ⟨[([], .directory), (home, .directory), (["dev"], .directory), (["dev", "null"], .sink),
    (["dev", "full"], .full)]⟩

def find? (disk : Disk) (place : Place) : Option Entry :=
  (disk.entries.find? (·.1 == place)).map (·.2)

def put (disk : Disk) (place : Place) (entry : Entry) : Disk :=
  let rec go : List (Place × Entry) → List (Place × Entry)
    | [] => [(place, entry)]
    | (p, e) :: rest => if p == place then (place, entry) :: rest else (p, e) :: go rest
  ⟨go disk.entries⟩

/-- The names of a path that count, and whether it must lead to a directory. -/
def names (path : String) : List String × Bool :=
  let parts := (splitOn '/' path.toList).map String.ofList
  let last := parts.getLastD ""
  (parts.filter (· != ""), last == "" || last == "." || last == "..")

def origin (path : String) : Place :=
  if path.toList.head? == some '/' then [] else home

def walk (disk : Disk) : Place → List String → Except Fault Place
  | place, [] =>
    match disk.find? place with
    | some _ => .ok place
    | none => .error .notFound
  | place, name :: rest =>
    match disk.find? place with
    | none => .error .notFound
    | some .directory =>
      if name == "." then disk.walk place rest
      else if name == ".." then disk.walk place.dropLast rest
      else disk.walk (place ++ [name]) rest
    | some _ => .error .notDirectory

/-- The place that a path leads to and what stands there. -/
def resolve (disk : Disk) (path : String) : Except Fault (Place × Entry) := do
  if path == "" then .error .notFound
  else
    let (names, wantsDirectory) := names path
    let place ← disk.walk (origin path) names
    match disk.find? place with
    | none => .error .notFound
    | some .directory => return (place, .directory)
    | some entry => if wantsDirectory then .error .notDirectory else return (place, entry)

def hasPath (disk : Disk) (path : String) : Bool :=
  (disk.resolve path).isOk

def isFile (disk : Disk) (path : String) : Bool :=
  match disk.resolve path with
  | .ok (_, .file _) => true
  | _ => false

def isDirectory (disk : Disk) (path : String) : Bool :=
  match disk.resolve path with
  | .ok (_, .directory) => true
  | _ => false

/-- The octets that are read along a path. -/
def read (disk : Disk) (path : String) : Except Fault (List UInt8) := do
  match ← disk.resolve path with
  | (_, .directory) => .error .isDirectory
  | (_, .file content) => return content
  | (_, .sink) => return []
  | (_, .full) => return []

/-- The place of a path that need not be there yet: its directory must be. -/
def target (disk : Disk) (path : String) : Except Fault Place := do
  if path == "" then .error .notFound
  else
    let (names, _) := names path
    match names.getLast? with
    | none => return origin path
    | some name =>
      if name == "." || name == ".." then disk.walk (origin path) names
      else
        let parent ← disk.walk (origin path) names.dropLast
        match disk.find? parent with
        | some .directory => return parent ++ [name]
        | _ => .error .notDirectory

def makeDirectory (disk : Disk) (path : String) : Except Fault Disk := do
  let place ← disk.target path
  match disk.find? place with
  | some _ => .error .occupied
  | none => return disk.put place .directory

/-- The path without its last name, or nothing when it has none. -/
def parent? (path : String) : Option String :=
  let parts := splitOn '/' path.toList
  -- the last name is the last part that is neither empty nor a dot after another name
  let isIdle (index : Nat) (part : List Char) : Bool := part.isEmpty || (part == ['.'] && 0 < index)
  let kept := (parts.zipIdx.reverse.dropWhile fun (part, index) => isIdle index part).reverse
  match kept with
  | [] => none
  | _ =>
    let before := (kept.dropLast.reverse.dropWhile fun (part, index) => isIdle index part).reverse
    let joined := String.intercalate "/" (before.map fun (part, _) => String.ofList part)
    some (if before.isEmpty && origin path == [] then "/" else joined)

/-- Makes a directory and those above it that are missing; `fuel` bounds their number. -/
def makeDirectoriesWithin : Nat → Disk → String → Except Fault Disk
  | 0, _, _ => .error .notFound
  | fuel + 1, disk, path =>
    if path == "" then .ok disk
    else match disk.makeDirectory path with
      | .ok disk => .ok disk
      | .error fault =>
        if fault == .notFound then
          match parent? path with
          | none => .error .notFound
          | some above => do
            let disk ← makeDirectoriesWithin fuel disk above
            match disk.makeDirectory path with
            | .ok disk => return disk
            | .error fault => if disk.isDirectory path then return disk else .error fault
        else if disk.isDirectory path then .ok disk
        else .error fault

/-- Makes a directory and those above it that are missing. -/
def makeDirectories (disk : Disk) (path : String) : Except Fault Disk :=
  makeDirectoriesWithin (path.length + 1) disk path

/-- Puts a file into the tree, with the directories above it. -/
def addFile (disk : Disk) (path : String) (content : List UInt8) : Except Fault Disk := do
  let disk ← disk.makeDirectories ((parent? path).getD "")
  let place ← disk.target path
  return disk.put place (.file content)

end Disk

end Courier
