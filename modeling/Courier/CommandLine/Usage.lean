/-! Reading arguments against the options that a command has. An option's value may stand in the
same argument or in the next one; a value in the next one is looked at when another option comes or
the arguments end. The first fault is the one reported.
-/

namespace Courier.CommandLine

/-- Why arguments are not a command: they ask for help or the version, or are wrong in some way. -/
inductive UsageFault
  | help
  | version
  | unknownCommand
  | unknownArgument
  | badValue
  | invalid (message : String)
  | missing
  | conflict
  | tooManyValues
  deriving DecidableEq, Repr

namespace UsageFault

def exitCode : UsageFault → Nat
  | help | version => 0
  | _ => 2

/-- What the check of a value says, if a check found the fault. -/
def message? : UsageFault → Option String
  | invalid message => some message
  | _ => none

end UsageFault

/-- What an option does: it stands for itself, shows help or the version, or takes a value that a
check accepts. -/
inductive Role
  | flag
  | help
  | version
  | value (check : String → Except UsageFault String)

/-- An option, by its long name and perhaps a letter. -/
structure OptionSpec where
  name : String
  letter : Option Char
  role : Role

/-- What a command has: options, and the names of commands that may follow. -/
structure Level where
  options : List OptionSpec
  commands : List String

/-- What has been read: the values of options, and an option whose value is still to come or still
to be looked at. -/
structure Reading where
  given : List (String × String) := []
  pending : Option (OptionSpec × Option String) := none

namespace Reading

def find? (reading : Reading) (name : String) : Option String :=
  (reading.given.find? (·.1 == name)).map (·.2)

def has (reading : Reading) (name : String) : Bool :=
  (reading.find? name).isSome

def isWaiting (reading : Reading) : Bool :=
  match reading.pending with
  | some (_, none) => true
  | _ => false

def give (reading : Reading) (option : OptionSpec) (value : String) : Except UsageFault Reading :=
  if reading.has option.name then .error .conflict
  else match option.role with
    | .flag => .ok { reading with given := reading.given ++ [(option.name, "")] }
    | .help => .error .help
    | .version => .error .version
    | .value check =>
      (check value).map fun value =>
        { reading with given := reading.given ++ [(option.name, value)] }

/-- Looks at the value that is pending. -/
def settle (reading : Reading) : Except UsageFault Reading :=
  match reading.pending with
  | none => .ok reading
  | some (_, none) => .error .badValue
  | some (option, some value) => { reading with pending := none }.give option value

/-- Gives an option its value after what is pending. -/
def take (reading : Reading) (option : OptionSpec) (value : String)
    : Except UsageFault Reading := do
  (← reading.settle).give option value

/-- Lets an option wait for its value, after what is pending. -/
def await (reading : Reading) (option : OptionSpec) : Except UsageFault Reading := do
  return { ← reading.settle with pending := some (option, none) }

end Reading

namespace Level

/-- Reads an option by its long name, with the value after an equals sign. -/
def readLong (level : Level) (reading : Reading) (body : List Char) : Except UsageFault Reading :=
  let (name, attached) := body.span (· != '=')
  match level.options.find? (·.name.toList == name) with
  | none => .error .unknownArgument
  | some option =>
    match option.role, attached with
    | .value _, [] => reading.await option
    | .value _, _ :: value => reading.take option (String.ofList value)
    | _, [] => reading.take option ""
    | _, _ :: _ => .error .tooManyValues

/-- Reads options by their letters. What follows the letter of an option with a value is the value.
-/
def readLetters (level : Level) (reading : Reading) : List Char → Except UsageFault Reading
  | [] => .ok reading
  | c :: cs =>
    match level.options.find? (·.letter == some c) with
    | none => .error .unknownArgument
    | some option =>
      match option.role, cs with
      | .value _, [] => reading.await option
      | .value _, '=' :: value => reading.take option (String.ofList value)
      | .value _, value => reading.take option (String.ofList value)
      | _, _ => do
        let reading ← reading.take option ""
        level.readLetters reading cs

/-- The fault of an argument that is neither an option nor a value. -/
def stray (level : Level) : UsageFault :=
  if level.commands.isEmpty then .unknownArgument else .unknownCommand

/-- The fault of the first argument after two hyphens. -/
def strayAfterHyphens (level : Level) (arg : String) : UsageFault :=
  if level.commands.contains arg then .unknownArgument else level.stray

def helpOn (level : Level) : List String → UsageFault
  | [] => .help
  | [name] => if level.commands.contains name then .help else .unknownCommand
  | _ => .unknownCommand

/-- Reads arguments up to the name of a command: what was read, and the command with the arguments
after it. -/
def read (level : Level) : Reading → List String
    → Except UsageFault (Reading × Option (String × List String))
  | reading, [] => .ok (reading, none)
  | reading, arg :: args =>
    if !reading.isWaiting && level.commands.contains arg then
      if arg == "help" then .error (level.helpOn args) else .ok (reading, some (arg, args))
    else match arg.toList with
      | ['-', '-'] =>
        match args with
        | [] => .ok (reading, none)
        | next :: _ => .error (level.strayAfterHyphens next)
      | '-' :: '-' :: body => do
        let reading ← level.readLong reading body
        level.read reading args
      | '-' :: c :: letters => do
        let reading ← level.readLetters reading (c :: letters)
        level.read reading args
      | _ =>
        match reading.pending with
        | some (option, none) => level.read { reading with pending := some (option, some arg) } args
        | _ => .error level.stray

end Level

end Courier.CommandLine
