import Courier.Config.Environment
import Courier.Config.KeyPath
import Courier.Config.Variables
import Courier.Disk.Basic
import Courier.Settings.Validation
import Courier.Toml.Parser

/-! Loading settings. A directory holds a default file, a file for each environment and a local
file, of which later ones win; a single file can stand in their place. Variables of the process win
over all files.
-/

namespace Courier.Config

open Courier.Text

/-- What is loaded: a directory of files or a single file, for an environment. -/
structure Loader where
  directory : String
  /-- Whether a variable names the directory, which then must hold the default file. -/
  directoryIsNamed : Bool
  file : Option String
  environment : Environment
  deriving DecidableEq, Repr

/-- A file to read, and whether it must be there. -/
structure Source where
  path : String
  required : Bool
  deriving DecidableEq, Repr

namespace Environment

/-- The variable that selects the environment. -/
def variableName : String := "SMS_DISPATCH_APP_ENV"

/-- The environment that the variables select; development when they select none. -/
def ofVariables (vars : Variables) : Except Fault Environment :=
  match vars.octets? variableName with
  | none => .ok .development
  | some octets =>
    match Utf8.text? octets with
    | some text => parse text
    | none => .error (.environment (variableName ++ " is not valid unicode"))

end Environment

namespace Loader

/-- The variable that names the directory. -/
def directoryVariable : String := "SMS_DISPATCH_CONFIG_DIR"

/-- The variable that names a single file. -/
def fileVariable : String := "SMS_DISPATCH_CONFIG_FILE"

/-- The beginning of the names of variables that hold settings, in lower case. -/
def variableStart : String := "sms_dispatch_"

/-- The directory when no variable names one. -/
def usualDirectory : String := "config"

/-- The fault of naming both a directory and a file. -/
def bothNamed : Fault :=
  .exclusive
    ("SMS_DISPATCH_CONFIG_DIR and SMS_DISPATCH_CONFIG_FILE cannot both be set. "
      ++ "Use SMS_DISPATCH_CONFIG_DIR for layered configuration or "
      ++ "SMS_DISPATCH_CONFIG_FILE for a single configuration file.")

/-- The loader that the variables ask for. -/
def ofVariables (vars : Variables) : Except Fault Loader := do
  let directory := vars.find? directoryVariable
  let file := vars.find? fileVariable
  if directory.isSome && file.isSome then .error bothNamed
  else
    let environment ← Environment.ofVariables vars
    return ⟨directory.getD usualDirectory, directory.isSome, file, environment⟩

/-- The loader when the variables ask for nothing that can be had. -/
def usual : Loader := ⟨usualDirectory, false, none, .development⟩

/-- The loader with another environment, if one is given. -/
def withEnvironment (environment : Option Environment) (loader : Loader) : Loader :=
  match environment with
  | none => loader
  | some environment => { loader with environment }

/-- The loader of a single file, if one is given. -/
def withFile (file : Option String) (loader : Loader) : Loader :=
  match file with
  | none => loader
  | some file => { loader with file := some file }

def join (directory file : String) : String :=
  if directory == "" || directory.toList.getLast? == some '/' then directory ++ file
  else directory ++ "/" ++ file

/-- The files to read, those that win last. -/
def sources (loader : Loader) : List Source :=
  match loader.file with
  | some file => [⟨file, true⟩]
  | none =>
    let inDirectory (name : String) := join loader.directory (name ++ ".toml")
    [⟨inDirectory "default", loader.directoryIsNamed⟩,
      ⟨inDirectory loader.environment.name, false⟩]
      ++ if loader.environment.readsLocal then [⟨inDirectory "local", false⟩] else []

/-- Checks that the files that must be there are. -/
def checkRequired (disk : Disk) : List Source → Except Fault Unit
  | [] => .ok ()
  | source :: rest =>
    if source.required && !disk.hasPath source.path then
      .error (.missingFile s!"Required configuration file not found: {source.path}")
    else checkRequired disk rest

/-- The path of the file that is read for a source: its own, or the one with `.toml` after it. -/
def locate (disk : Disk) (path : String) : Option String :=
  let longer := dropTrailing '/' path ++ ".toml"
  if disk.isFile path then some path
  else if disk.isFile longer then some longer
  else none

def readDocument (path : String) (octets : List UInt8) : Except Fault (List (String × Node)) :=
  match Toml.parse? (Utf8.read (Utf8.dropMark octets)) with
  | some entries => .ok entries
  | none => .error (.source s!"the document is not valid TOML in {path}")

/-- The entries of a source; a file that may be missing has none. -/
def readSource (disk : Disk) (source : Source) : Except Fault (List (String × Node)) :=
  match locate disk source.path with
  | none =>
    if source.required then .error (.source s!"configuration file {source.path} not found")
    else .ok []
  | some path =>
    match disk.read path with
    | .ok octets => readDocument path octets
    | .error fault => .error (.source fault.message)

/-- The name of a variable as a key: each double underscore is a dot. -/
def keyChars : List Char → List Char
  | '_' :: '_' :: cs => '.' :: keyChars cs
  | c :: cs => c :: keyChars cs
  | [] => []

/-- The key of a variable that holds a setting. -/
def key? (name : String) : Option String :=
  let cs := (lowerText name).toList
  if variableStart.toList.isPrefixOf cs then
    some (String.ofList (keyChars (cs.drop variableStart.length)))
  else none

/-- The entries that variables make; an empty variable makes none. -/
def readVariables : Variables → Except Fault (List (String × Node))
  | [] => .ok []
  | (name, octets) :: rest =>
    match if octets.isEmpty then none else key? name with
    | none => readVariables rest
    | some key =>
      match Utf8.text? octets with
      | none => .error (.source s!"env variable {name} contains non-Unicode data")
      | some text => (readVariables rest).map ((key, .text text) :: ·)

/-- The tree of sources, each put over those before it. -/
def mergeSources (disk : Disk) : List Source → Node → Except Fault Node
  | [], tree => .ok tree
  | source :: rest, tree => do
    let entries ← readSource disk source
    mergeSources disk rest (Node.mergeSource entries tree)

/-- The configuration tree: all files, and the variables over them. -/
def tree (loader : Loader) (vars : Variables) (disk : Disk) : Except Fault Node := do
  checkRequired disk loader.sources
  let tree ← mergeSources disk loader.sources (.table [])
  let entries ← readVariables vars
  return Node.mergeSource entries tree

def settingsOf (tree : Node) : Except Fault Settings :=
  match Settings.codec.convert tree with
  | some settings => .ok settings
  | none =>
    .error (.unparsable
      "Failed to deserialize configuration: a value does not have the type of its setting")

/-- Loads settings and checks them. -/
def load (loader : Loader) (vars : Variables) (disk : Disk) : Except Fault Settings := do
  let tree ← loader.tree vars disk
  let settings ← settingsOf tree
  settings.validate
  return settings

end Loader

end Courier.Config
