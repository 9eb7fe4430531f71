import Courier.Config.Fault
import Courier.Json.Fault

/-! Failures of a command. A failure has a wording, causes behind it from the outermost to the
innermost, an exit code, and one line for people in which everything is said.
-/

namespace Courier

/-- One failed field of a record and what is wrong with it. -/
structure FieldFault where
  field : String
  message : String
  deriving DecidableEq, Repr

/-- A rule that a field breaks: its code, and its wording when it has one. -/
structure Breach where
  code : String
  wording : Option String := none
  deriving DecidableEq, Repr

/-- What is said of a broken rule: its wording, or else its code. -/
def Breach.message (breach : Breach) : String :=
  breach.wording.getD breach.code

/-- What is wrong at a field: the rules that the field itself breaks, or else what is wrong in the
record that it holds, or in the records of the list that it holds, by their places. -/
inductive FieldError
  | rules (breaches : List Breach)
  | record (errors : List (String × FieldError))
  | items (errors : List (Nat × List (String × FieldError)))

/-- What is wrong with a record, by its fields. No field has two entries, and the order of the
entries means nothing. -/
abbrev ErrorMap := List (String × FieldError)

namespace ErrorMap

/-- The rules that fields themselves break, by the fields. -/
abbrev FieldEntries := List (String × List Breach)

/-- The faults of fields, in the order of the entries. -/
def FieldEntries.faults (entries : FieldEntries) : List FieldFault :=
  entries.flatMap fun entry => entry.2.map fun breach => ⟨entry.1, breach.message⟩

/-- The entries of fields that break rules themselves. Those of records and lists are left out, with
all that is wrong in them. -/
def fieldEntries (errors : ErrorMap) : FieldEntries :=
  errors.filterMap fun
    | (field, .rules breaches) => some (field, breaches)
    | (_, .record _) | (_, .items _) => none

/-- The faults of an error map's fields, in the order of its entries. -/
def faults (errors : ErrorMap) : List FieldFault :=
  errors.fieldEntries.faults

end ErrorMap

/-- What is behind a configuration failure: a fault of the settings, or wordings of a fault met
elsewhere, the outermost first. -/
inductive Cause
  | config (fault : Config.Fault)
  | texts (chain : List String)
  deriving DecidableEq, Repr

/-- A failure of a command. -/
inductive Failure
  | transport (provider : String) (causes : List String)
  | status (provider : String) (code : Nat) (body : String)
  | malformed (provider : String) (code : Nat) (body : String) (fault : Json.Misreading)
  | batch (failed total : Nat)
  | rejected (pinId reason : String)
  | invalid (field reason : String)
  | invalidFields (faults : List FieldFault)
  | configuration (key : String) (cause : Cause)
  | internal (causes : List String)
  deriving DecidableEq, Repr

namespace Cause

def chain : Cause → List String
  | config fault => fault.chain
  | texts chain => chain

end Cause

namespace Failure

def fieldText (fault : FieldFault) : String :=
  fault.field ++ ": " ++ fault.message

/-- The wording of a failure, without its causes. -/
def message : Failure → String
  | transport provider _ => s!"{provider}: request failed"
  | status provider code body => s!"{provider}: provider returned HTTP {code}: {body}"
  | malformed provider code _ _ => s!"{provider}: response body is not valid JSON (HTTP {code})"
  | batch failed total => s!"{failed} of {total} dispatches failed"
  | rejected pinId reason => s!"OTP verification failed for pin {pinId}: {reason}"
  | invalid field reason => s!"Validation failed for {field}: {reason}"
  | invalidFields faults => "Validation failed: " ++ String.intercalate "; " (faults.map fieldText)
  | configuration key _ => s!"Configuration error: {key}"
  | internal _ => "Internal error"

/-- The wordings of the causes behind a failure, the outermost first. -/
def causes : Failure → List String
  | transport _ causes => causes
  | malformed _ _ _ fault => [fault.words]
  | configuration _ cause => cause.chain
  | internal causes => causes
  | status .. | batch .. | rejected .. | invalid .. | invalidFields .. => []

/-- The provider that a failure names. -/
def provider? : Failure → Option String
  | transport provider _ | status provider _ _ | malformed provider _ _ _ => some provider
  | _ => none

/-- Whether a dispatch failed, as opposed to its input. -/
def isDispatchFailure : Failure → Bool
  | transport .. | status .. | malformed .. | rejected .. | batch .. => true
  | invalid .. | invalidFields .. | configuration .. | internal .. => false

/-- The exit code of a failure: 2 for bad input and bad configuration, 1 for all else. -/
def exitCode : Failure → Nat
  | invalid .. | invalidFields .. | configuration .. => 2
  | _ => 1

def ofConfig (fault : Config.Fault) : Failure :=
  configuration fault.key (.config fault)

/-- Puts a field fault behind those whose field is not greater. -/
def insertFault (fault : FieldFault) : List FieldFault → List FieldFault
  | [] => [fault]
  | f :: fs => if fault.field < f.field then fault :: f :: fs else f :: insertFault fault fs

/-- Field faults in the order of their fields; those of one field keep their order. -/
def sortFaults (faults : List FieldFault) : List FieldFault :=
  faults.foldl (fun sorted fault => insertFault fault sorted) []

/-- The failure of fields that break rules. -/
def ofFieldEntries (entries : ErrorMap.FieldEntries) : Failure :=
  invalidFields (sortFaults entries.faults)

/-- The failure of a record with broken rules: it tells of the fields that break rules themselves,
and of nothing that is wrong inside of a field. -/
def ofErrors (errors : ErrorMap) : Failure :=
  ofFieldEntries errors.fieldEntries

/-- The text of a failure's line before line breaks are replaced. -/
def lineText (tag : Option String) (failure : Failure) : String :=
  let opening := match tag, failure.provider? with
    | some name, none => "error[" ++ name ++ "]: "
    | _, _ => "error: "
  failure.causes.foldl (fun text cause => text ++ ": " ++ cause) (opening ++ failure.message)

/-- The text in one line: every line break becomes a space. -/
def oneLine (s : String) : String :=
  String.ofList (s.toList.map fun c => if c == '\n' then ' ' else c)

/-- The line that reports a failure. The tag is given unless the failure names its provider. -/
def line (tag : Option String) (failure : Failure) : String :=
  oneLine (lineText tag failure)

/-- A line holds no line break. -/
theorem not_mem_oneLine (s : String) : '\n' ∉ (oneLine s).toList := by
  intro h
  simp only [oneLine, String.toList_ofList, List.mem_map] at h
  obtain ⟨c, _, hc⟩ := h
  split at hc
  · exact absurd hc (by decide)
  · rename_i hn
    exact hn (by simp [hc])

/-- A line is as long as the text that it was made from. -/
theorem length_oneLine (s : String) : (oneLine s).length = s.length := by
  simp [oneLine, ← String.length_toList]

end Failure

end Courier
