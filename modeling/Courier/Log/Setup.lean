import Courier.Log.Fault
import Courier.Text.Lower
import Courier.Text.Blank

/-! What a log records and where it goes: a least level, and a console, a file or both.
-/

namespace Courier.Log

open Courier.Text

/-- The levels of events, from the most talkative to the gravest. -/
inductive Level
  | trace
  | debug
  | info
  | warn
  | error
  deriving DecidableEq, Repr

namespace Level

def name : Level → String
  | trace => "trace"
  | debug => "debug"
  | info => "info"
  | warn => "warn"
  | error => "error"

/-- The name of a level in capitals, as lines show it. -/
def label : Level → String
  | trace => "TRACE"
  | debug => "DEBUG"
  | info => "INFO"
  | warn => "WARN"
  | error => "ERROR"

def rank : Level → Nat
  | trace => 0
  | debug => 1
  | info => 2
  | warn => 3
  | error => 4

def all : List Level := [trace, debug, info, warn, error]

/-- The level of a name, in capitals or small letters and with blanks around it. -/
def parse (raw : String) : Except Fault Level :=
  match all.find? (·.name == lowerAsciiText (trim raw)) with
  | some level => .ok level
  | none => .error (.unknownLevel raw)

end Level

/-- The formats of lines in a file. -/
inductive Format
  | full
  | compact
  | json
  deriving DecidableEq, Repr

namespace Format

def name : Format → String
  | full => "full"
  | compact => "compact"
  | json => "json"

def all : List Format := [full, compact, json]

/-- The format of a name, in capitals or small letters and with blanks around it. -/
def parse (raw : String) : Except Fault Format :=
  match all.find? (·.name == lowerAsciiText (trim raw)) with
  | some format => .ok format
  | none => .error (.unknownFormat raw)

end Format

/-- A console, with or without colours. -/
structure Console where
  colored : Bool
  deriving DecidableEq, Repr

/-- A file that takes lines; it is emptied first unless lines are to be appended. -/
structure Target where
  path : String
  append : Bool
  format : Format
  deriving DecidableEq, Repr

/-- The set-up of a log. -/
structure Setup where
  level : Level
  console : Option Console
  file : Option Target
  deriving DecidableEq, Repr

/-- A set-up has at least one output. -/
def Setup.make (level : Level) (console : Option Console) (file : Option Target)
    : Except Fault Setup :=
  if console.isNone && file.isNone then .error .noOutput else .ok ⟨level, console, file⟩

def Setup.records (setup : Setup) (level : Level) : Bool :=
  setup.level.rank ≤ level.rank

end Courier.Log
