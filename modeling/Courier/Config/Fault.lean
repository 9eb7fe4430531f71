/-! The faults of a configuration: what can go wrong between its sources and settings that hold
sensible values. Each fault names the key it belongs to.
-/

namespace Courier.Config

/-- A fault of a configuration. -/
inductive Fault
  | missingFile (path : String)
  | unparsable (detail : String)
  | invalid (field message : String)
  | environment (message : String)
  | exclusive (message : String)
  | source (detail : String)
  deriving DecidableEq, Repr

namespace Fault

def message : Fault → String
  | missingFile path => s!"Configuration file not found: {path}"
  | unparsable detail => s!"Failed to parse configuration: {detail}"
  | invalid field message => s!"Validation error: {field} - {message}"
  | environment message => s!"Environment variable error: {message}"
  | exclusive message => s!"Mutual exclusivity error: {message}"
  | source detail => s!"Configuration error: {detail}"

/-- The wordings of a fault and of what is behind it, the outermost first. Behind a fault of a
source is the one that was met there, whose detail is told in both. -/
def chain : Fault → List String
  | source detail => [(source detail).message, detail]
  | fault => [fault.message]

/-- The key that a fault belongs to. -/
def key : Fault → String
  | missingFile _ => "config_file"
  | unparsable _ => "config"
  | invalid field _ => field
  | environment _ => "environment"
  | exclusive _ => "environment"
  | source _ => "config"

end Fault

end Courier.Config
