import Courier.SmartHive.Sms
import Courier.Termii.Otp

/-! The desk at which commands are carried out: each command finds its recipient, goes to its
provider, and reports the answer. In a dry run the desk reports what it would send and sends
nothing.
-/

namespace Courier

open Courier.Text

/-- A desk: the settings, what providers need, and whether it only tells what it would do. -/
structure Desk where
  settings : Settings
  context : Context
  dryRun : Bool

namespace Desk

def place : String := "sms_dispatch::cli::handlers::dispatch"

/-- The recipient that is given, or else the one of the settings. -/
def recipient (desk : Desk) (asked : Option String) : Except Failure String :=
  let given := trim (asked.getD "")
  let found := if given == "" then trim desk.settings.defaults.recipient else given
  if found == "" then
    .error (.invalid "to" "No recipient given; pass --to or set defaults.recipient")
  else .ok found

def smsProvider (desk : Desk) : Provider :=
  Termii.Sms.provider desk.settings.termii desk.context

def otpProvider (desk : Desk) : Provider :=
  Termii.Otp.provider desk.settings.termii desk.context

/-- The second provider of short messages, with what a command overrides of its account. -/
def smartHiveProvider (desk : Desk) (flash : Bool) (route : Option SmartHive.Route) : Provider :=
  let account := desk.settings.smarthive
  let account := if flash then account.withMessageType .flash else account
  let account := match route with
    | some route => account.withRoute route
    | none => account
  SmartHive.Sms.provider account desk.context

/-- Sends a message, or tells what would be sent. -/
def dispatch (desk : Desk) (provider : Provider) (message : Message) : Job Unit :=
  if desk.dryRun then do
    Job.ofExcept provider.check
    let body ← Job.ofExcept (provider.preview message)
    Job.print (previewReport provider.name body)
  else do
    let delivery ← provider.send message
    Job.print delivery.report

def sms (desk : Desk) (asked : Option String) (text : String) : Job Unit := do
  let recipient ← Job.ofExcept (desk.recipient asked)
  desk.dispatch desk.smsProvider ⟨recipient, text⟩

/-- Sends a one-time password in a template, which is the one of the policy unless one is given. -/
def otp (desk : Desk) (asked : Option String) (template : Option String) : Job Unit := do
  let recipient ← Job.ofExcept (desk.recipient asked)
  desk.dispatch desk.otpProvider ⟨recipient, template.getD desk.settings.termii.otp.messageText⟩

def verifyOtp (desk : Desk) (pinId pin : String) : Job Unit :=
  let account := desk.settings.termii
  if desk.dryRun then do
    Job.ofExcept (Termii.Otp.check account)
    Job.print (previewReport Termii.Otp.name (Termii.Otp.verifyPreview account pinId pin))
  else do
    let verification ← Termii.Otp.verify account desk.context pinId pin
    Job.print verification.report

def smarthive (desk : Desk) (asked : Option String) (text : String) (flash : Bool)
    (route : Option SmartHive.Route) : Job Unit := do
  let recipient ← Job.ofExcept (desk.recipient asked)
  desk.dispatch (desk.smartHiveProvider flash route) ⟨recipient, text⟩

/-- One step of a batch: its failure is reported and counted, and the batch goes on. -/
def batchStep (desk : Desk) (provider : Provider) (message : Message) : Job Nat := do
  Job.print s!"== {provider.name} =="
  match ← (desk.dispatch provider message).attempt with
  | .ok () => return 0
  | .error failure => do
    Job.complain (failure.line (some provider.name))
    return 1

/-- The steps of a batch, one after another: the number of those that fail. -/
def batch (desk : Desk) : List (Provider × Message) → Job Nat
  | [] => return 0
  | (provider, message) :: rest => do
    let failed ← desk.batchStep provider message
    let others ← desk.batch rest
    return failed + others

/-- The steps of the command that uses every provider. -/
def steps (desk : Desk) (recipient : String) : List (Provider × Message) :=
  let defaults := desk.settings.defaults
  [(desk.smsProvider, ⟨recipient, defaults.smsText⟩),
    (desk.otpProvider, ⟨recipient, desk.settings.termii.otp.messageText⟩),
    (desk.smartHiveProvider false none, ⟨recipient, defaults.smarthiveText⟩)]

/-- Sends one message through each provider. -/
def all (desk : Desk) (asked : Option String) : Job Unit := do
  let recipient ← Job.ofExcept (desk.recipient asked)
  let steps := desk.steps recipient
  let failed ← desk.batch steps
  Job.record
    ⟨.info, place, "Batch dispatch finished",
      [("total", .number steps.length), ("failed", .number failed)]⟩
  if failed == 0 then return () else Job.fail (.batch failed steps.length)

end Desk

end Courier
