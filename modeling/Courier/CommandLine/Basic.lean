import Courier.CommandLine.Argument
import Courier.CommandLine.Usage
import Courier.Config.Environment
import Courier.SmartHive.Account

/-! Command lines: options for the whole program, a command, and options for the command. The option
for a dry run may stand before or after the command.
-/

namespace Courier

open Courier.CommandLine
open Courier.Config (Environment)

/-- A command with its values. -/
inductive Command
  | sms (recipient : Option String) (message : String)
  | otp (recipient : Option String) (template : Option String)
  | verifyOtp (pinId pin : String)
  | smarthive (recipient : Option String) (message : String) (flash : Bool)
      (route : Option SmartHive.Route)
  | all (recipient : Option String)
  deriving DecidableEq, Repr

/-- A command line that was understood. -/
structure CommandLine where
  command : Option Command
  config : Option String
  env : Option Environment
  verbose : Bool
  quiet : Bool
  dryRun : Bool
  deriving DecidableEq, Repr

namespace CommandLine

/-- The command to carry out; every provider is used when none is named. -/
def effective (line : CommandLine) : Command :=
  line.command.getD (.all none)

/-- The role of a value that a check accepts. -/
def checked (check : String → Except String String) : Role :=
  .value fun raw => (check raw).mapError UsageFault.invalid

/-- The role of a value that is one of some names. -/
def oneOf (choose : String → Option α) : Role :=
  .value fun raw => if (choose raw).isSome then .ok raw else .error .badValue

/-- The route of a name, in small letters. -/
def route? (name : String) : Option SmartHive.Route :=
  if name == "trx" then some .transactional
  else if name == "mkt" then some .marketing
  else none

def helpOption : OptionSpec := ⟨"help", some 'h', .help⟩

def dryRunOption : OptionSpec := ⟨"dry-run", none, .flag⟩

def toOption : OptionSpec := ⟨"to", none, checked Argument.phone⟩

def messageOption : OptionSpec := ⟨"message", some 'm', checked Argument.message⟩

def commandNames : List String := ["sms", "otp", "verify-otp", "smarthive", "all", "help"]

def programLevel (disk : Disk) : Level where
  options :=
    [⟨"config", some 'c', checked (Argument.configFile disk)⟩,
      ⟨"env", some 'e', oneOf Environment.ofName?⟩, ⟨"verbose", some 'v', .flag⟩,
      ⟨"quiet", some 'q', .flag⟩, dryRunOption, helpOption, ⟨"version", some 'V', .version⟩]
  commands := commandNames

def commandOptions (name : String) : List OptionSpec :=
  let own :=
    if name == "sms" then [toOption, messageOption]
    else if name == "otp" then [toOption, ⟨"template", none, checked Argument.message⟩]
    else if name == "verify-otp" then
      [⟨"pin-id", none, checked Argument.pin⟩, ⟨"pin", none, checked Argument.pin⟩]
    else if name == "smarthive" then
      [toOption, messageOption, ⟨"flash", none, .flag⟩, ⟨"route", none, oneOf route?⟩]
    else [toOption]
  own ++ [dryRunOption, helpOption]

/-- The command of a name with the values that were read for it. -/
def commandOf (name : String) (reading : Reading) : Except UsageFault Command :=
  let recipient := reading.find? "to"
  let required (option : String) : Except UsageFault String :=
    match reading.find? option with
    | some value => .ok value
    | none => .error .missing
  if name == "sms" then return .sms recipient (← required "message")
  else if name == "otp" then return .otp recipient (reading.find? "template")
  else if name == "verify-otp" then return .verifyOtp (← required "pin-id") (← required "pin")
  else if name == "smarthive" then
    return .smarthive recipient (← required "message") (reading.has "flash")
      ((reading.find? "route").bind route?)
  else return .all recipient

/-- Reads the arguments of a command: the command, and whether it is a dry run. -/
def readCommand (name : String) (args : List String) : Except UsageFault (Command × Bool) := do
  let (reading, _) ← Level.read ⟨commandOptions name, []⟩ {} args
  let reading ← reading.settle
  let command ← commandOf name reading
  return (command, reading.has "dry-run")

/-- Reads the arguments after the program's name. -/
def readArguments (disk : Disk) (args : List String) : Except UsageFault CommandLine := do
  let (reading, rest) ← (programLevel disk).read {} args
  let (command, dryRun) ←
    match rest with
    | none => .ok (none, false)
    | some (name, args) =>
      (readCommand name args).map fun (command, dryRun) => (some command, dryRun)
  let reading ← reading.settle
  if reading.has "verbose" && reading.has "quiet" then .error .conflict
  else
    return {
      command
      config := reading.find? "config"
      env := (reading.find? "env").bind Environment.ofName?
      verbose := reading.has "verbose"
      quiet := reading.has "quiet"
      dryRun := reading.has "dry-run" || dryRun }

/-- Reads arguments, of which the first is the program's name. -/
def parse (disk : Disk) (args : List String) : Except UsageFault CommandLine :=
  readArguments disk (args.drop 1)

end CommandLine

end Courier
