import Courier.CommandLine.Basic
import Courier.Config.Loader
import Courier.Dispatch.Desk
import Courier.Log.LogFile

/-! The program: the command line selects settings and a command, the log is opened, and the command
is carried out. The exit code is 0 for a success, 1 for a dispatch that failed and 2 for bad input.
-/

namespace Courier

open Courier.Config (Loader Variables)

namespace CommandLine

/-- The level of the log that a command line asks for. -/
def level? (line : CommandLine) : Option String :=
  if line.verbose then some "debug" else if line.quiet then some "error" else none

def override (line : CommandLine) (settings : Settings) : Settings :=
  match line.level? with
  | some level => { settings with logger := { settings.logger with level } }
  | none => settings

/-- The settings with what a command line overrides, checked. -/
def merge (line : CommandLine) (settings : Settings) : Except Config.Fault Settings := do
  let merged := line.override settings
  merged.validate
  return merged

/-- The loader that a command line and the variables ask for. -/
def loader (line : CommandLine) (vars : Variables) : Except Config.Fault Loader := do
  let loader ← Loader.ofVariables vars
  return (loader.withEnvironment line.env).withFile line.config

/-- The settings that a command line works with. -/
def settings (line : CommandLine) (vars : Variables) (disk : Disk)
    : Except Config.Fault Settings := do
  let loader ← line.loader vars
  let settings ← loader.load vars disk
  line.merge settings

end CommandLine

namespace Desk

def carryOut (desk : Desk) : Command → Job Unit
  | .sms recipient message => desk.sms recipient message
  | .otp recipient template => desk.otp recipient template
  | .verifyOtp pinId pin => desk.verifyOtp pinId pin
  | .smarthive recipient message flash route => desk.smarthive recipient message flash route
  | .all recipient => desk.all recipient

end Desk

-----------------------------------------------------------------------------------------
-- Commands in the log
-----------------------------------------------------------------------------------------

namespace Command

/-- A value of a command that may be missing, as the log spells it. -/
def optionText (spell : α → String) : Option α → String
  | some value => "Some(" ++ spell value ++ ")"
  | none => "None"

/-- A command's name with its values, as the log spells them. -/
def record (name : String) (values : List (String × String)) : String :=
  let fields := values.map fun (field, text) => field ++ ": " ++ text
  name ++ " \x7b " ++ String.intercalate ", " fields ++ " \x7d"

def routeText : SmartHive.Route → String
  | .transactional => "Trx"
  | .marketing => "Mkt"

/-- A command with its values, as the log spells it. -/
def text : Command → String
  | sms recipient message =>
    record "Sms" [("to", optionText Log.quoted recipient), ("message", Log.quoted message)]
  | otp recipient template =>
    record "Otp"
      [("to", optionText Log.quoted recipient), ("template", optionText Log.quoted template)]
  | verifyOtp pinId pin =>
    record "VerifyOtp" [("pin_id", Log.quoted pinId), ("pin", Log.quoted pin)]
  | smarthive recipient message flash route =>
    record "Smarthive"
      [("to", optionText Log.quoted recipient), ("message", Log.quoted message),
        ("flash", Log.boolText flash), ("route", optionText routeText route)]
  | all recipient => record "All" [("to", optionText Log.quoted recipient)]

end Command

-----------------------------------------------------------------------------------------
-- Runs
-----------------------------------------------------------------------------------------

namespace Program

def place : String := "sms_dispatch"

def commandPlace : String := "sms_dispatch::cli::executor"

def execute (line : CommandLine) (settings : Settings) : Job Unit := do
  let client ← Job.ofExcept (Http.Client.make settings.http)
  let desk : Desk := ⟨settings, Context.make client settings, line.dryRun⟩
  Job.record
    ⟨.debug, commandPlace, "Executing command",
      [("command", .spelled line.effective.text), ("dry_run", .bool line.dryRun)]⟩
  desk.carryOut line.effective

def started (line : CommandLine) : Log.Event :=
  ⟨.debug, place, "Starting sms-dispatch",
    [("version", .text version), ("dry_run", .bool line.dryRun)]⟩

/-- What a run leaves: the exit code, the two outputs, the disk and the requests. -/
structure Result where
  exitCode : Nat
  stdout : String
  stderr : String
  disk : Disk
  trace : Trace

/-- The line about a log that cannot be set up or opened, given the wordings of what is wrong. -/
def logLine (chain : List String) : String :=
  "error: logger initialization failed: " ++ String.intercalate ": " chain ++ "\n"

/-- What effects leave on the output for failures, in order, and in the journal. -/
def play (stamp : String) : List Effect → Log.Journal → String × Log.Journal
  | [], journal => ("", journal)
  | .note (.complain text) :: effects, journal =>
    let (rest, journal) := play stamp effects journal
    (text ++ rest, journal)
  | .note (.record event) :: effects, journal =>
    let (shown, journal) := journal.write stamp event
    let (rest, journal) := play stamp effects journal
    (shown ++ rest, journal)
  | .note (.print _) :: effects, journal | .exchange .. :: effects, journal =>
    play stamp effects journal

/-- What a command line leaves that ends before its command. -/
def stop (exitCode : Nat) (line : String) (disk : Disk) : Result :=
  ⟨exitCode, "", line, disk, {}⟩

/-- What a command line leaves whose settings are at fault. -/
def reject (fault : Config.Fault) (disk : Disk) : Result :=
  let failure := Failure.ofConfig fault
  stop failure.exitCode (failure.line none ++ "\n") disk

/-- What a command line leaves whose command had an outcome. -/
def leave (line : CommandLine) (journal : Log.Journal) (stamp : String)
    (outcome : Except Failure Unit × Trace) : Result :=
  let (result, trace) := outcome
  let (shown, journal) := play stamp (.note (.record (started line)) :: trace.effects) journal
  match result with
  | .ok () => ⟨0, trace.stdout, shown, journal.disk, trace⟩
  | .error failure =>
    ⟨failure.exitCode, trace.stdout, shown ++ failure.line none ++ "\n", journal.disk, trace⟩

/-- Carries out a command line with its settings. `stamp` is the time that log lines show. -/
def carryOut (line : CommandLine) (settings : Settings) (disk : Disk) (network : Http.Network)
    (stamp : String) : Result :=
  match settings.logger.setup with
  | .error fault => stop 2 (logLine fault.chain) disk
  | .ok setup =>
    match Log.Journal.start setup disk with
    | .error fault => stop 2 (logLine fault.chain) disk
    | .ok journal => leave line journal stamp ((execute line settings).run network)

/-- Carries out a command line that was understood. -/
def run (line : CommandLine) (vars : Variables) (disk : Disk) (network : Http.Network)
    (stamp : String) : Result :=
  match line.settings vars disk with
  | .error fault => reject fault disk
  | .ok settings => carryOut line settings disk network stamp

end Program

end Courier
