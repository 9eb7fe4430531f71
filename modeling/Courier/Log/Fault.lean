/-! The faults of the log's set-up: an unknown level or format, no output at all, or a file that
cannot be opened.
-/

namespace Courier.Log

/-- A fault of the log's set-up. -/
inductive Fault
  | unknownLevel (raw : String)
  | unknownFormat (raw : String)
  | noOutput
  | openFile (path cause : String)
  | createDirectory (path cause : String)
  deriving DecidableEq, Repr

def Fault.message : Fault → String
  | unknownLevel raw =>
    s!"Invalid log level '{raw}'. Valid levels are: trace, debug, info, warn, error"
  | unknownFormat raw => s!"Invalid log format '{raw}'. Valid formats are: full, compact, json"
  | noOutput => "At least one output (console or file) must be enabled"
  | openFile path cause => s!"Failed to open log file {path}: {cause}"
  | createDirectory path cause => s!"Failed to create log directory {path}: {cause}"

/-- The wordings of a fault and of what is behind it: the system's, if the system caused it. -/
def Fault.chain : Fault → List String
  | openFile path cause => [(openFile path cause).message, cause]
  | createDirectory path cause => [(createDirectory path cause).message, cause]
  | fault => [fault.message]

end Courier.Log
