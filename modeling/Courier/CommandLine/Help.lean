import Courier.CommandLine.Basic
import Courier.Settings.Basic

/-! What the command line says of itself: its options and commands, its version, and what is wrong
with arguments.
-/

namespace Courier.CommandLine

def programName : String := "sms-dispatch"

/-- An option as help lists it. -/
def OptionSpec.shown (option : OptionSpec) : String :=
  let letter := match option.letter with
    | some c => String.ofList ['-', c, ',', ' ']
    | none => ""
  letter ++ "--" ++ option.name

/-- Options as help lists them, in one line. -/
def shownOptions (options : List OptionSpec) : String :=
  "  ".intercalate (options.map OptionSpec.shown)

/-- How the program is used: its options, and its commands with theirs. -/
def help : String :=
  let commands := (commandNames.filter (· != "help")).map fun name =>
    "  " ++ name ++ "  " ++ shownOptions (commandOptions name) ++ "\n"
  "Usage: " ++ programName ++ " [OPTIONS] [COMMAND]\n\nOptions:\n  "
    ++ shownOptions (programLevel Disk.start).options ++ "\n\nCommands:\n" ++ String.join commands

/-- What is wrong with arguments, in one line. -/
def UsageFault.reason : UsageFault → String
  | help | version => ""
  | unknownCommand => "unrecognized command"
  | unknownArgument => "unexpected argument"
  | badValue => "invalid or missing value of an option"
  | invalid message => message
  | missing => "a required option is missing"
  | conflict => "an option is given twice or conflicts with another one"
  | tooManyValues => "a flag takes no value"

/-- What is said to arguments that are no command. -/
def UsageFault.text : UsageFault → String
  | help => CommandLine.help
  | version => programName ++ " " ++ Courier.version ++ "\n"
  | fault => "error: " ++ fault.reason ++ "\n\n" ++ CommandLine.help

end Courier.CommandLine
