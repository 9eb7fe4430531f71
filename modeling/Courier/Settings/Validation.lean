import Courier.Log.Setup
import Courier.Settings.Basic
import Courier.Url.Parser

/-! What settings must fulfil. Each section is checked on its own, and the settings as a whole
report the first fault of the sections in order. Keys and senders of accounts are not looked at:
they are checked before something is sent.
-/

namespace Courier

open Courier.Config (Fault)
open Courier.Text

/-- Checks that an address can be read and is one of the web's two schemes. -/
def checkBaseUrl (field url : String) : Except Fault Unit :=
  match Url.parse? url with
  | none => .error (.invalid field s!"Invalid URL format: '{url}'")
  | some parsed =>
    if parsed.isHttp then .ok ()
    else .error (.invalid field "URL must use http or https protocol")

/-- Checks a condition, of which a field and a message tell when it fails. -/
def require (holds : Bool) (field message : String) : Except Fault Unit :=
  if holds then .ok () else .error (.invalid field message)

namespace Settings

def logFault (field : String) (fault : Log.Fault) : Fault :=
  .invalid field fault.message

/-- The file that the section asks for. Its format is checked even when no file is asked for. -/
def LogFile.target (file : LogFile) : Except Fault (Option Log.Target) := do
  let format ← (Log.Format.parse file.format).mapError (logFault "logger.file.format")
  if !file.enabled then return none
  else
    require (!isBlankText file.path) "logger.file.path"
      "File path is required when file logging is enabled."
    return some ⟨trim file.path, file.append, format⟩

/-- The log that the section asks for. -/
def Logger.setup (logger : Logger) : Except Fault Log.Setup := do
  let level ← (Log.Level.parse logger.level).mapError (logFault "logger.level")
  let console := if logger.console.enabled then some ⟨logger.console.colored⟩ else none
  let file ← logger.file.target
  (Log.Setup.make level console file).mapError (logFault "logger")

def Logger.validate (logger : Logger) : Except Fault Unit :=
  logger.setup.map fun _ => ()

def Http.validate (http : Http) : Except Fault Unit := do
  require (http.timeoutSeconds != 0) "http.timeout_seconds"
    "Request timeout must be greater than 0 seconds."
  require (http.connectTimeoutSeconds != 0) "http.connect_timeout_seconds"
    "Connect timeout must be greater than 0 seconds."
  let connect := http.connectTimeoutSeconds.toNat
  let request := http.timeoutSeconds.toNat
  require (connect ≤ request) "http.connect_timeout_seconds"
    s!"Connect timeout ({connect}) cannot exceed request timeout ({request})."
  require (!isBlankText http.userAgent) "http.user_agent" "User agent cannot be empty."

/-- Whether a text is a country code: one to three digits after optional plus signs. -/
def isCountryCode (code : String) : Bool :=
  let digits := code.toList.dropWhile (· == '+')
  !digits.isEmpty && digits.length ≤ 3 && digits.all isDigit

def Defaults.validate (defaults : Defaults) : Except Fault Unit :=
  require (isCountryCode defaults.countryCode) "defaults.country_code"
    s!"Invalid country code '{defaults.countryCode}'. Expected 1 to 3 digits, e.g. 234"

end Settings

/-- Checks what an account with Termii needs besides its key and sender. -/
def Termii.Account.validateSettings (account : Account) : Except Fault Unit := do
  checkBaseUrl "termii.base_url" account.baseUrl
  account.otp.validate.mapError fun errors =>
    .invalid "termii.otp" (Otp.Policy.faultLines errors)

/-- Checks what an account with SmartHive needs besides its key and sender. -/
def SmartHive.Account.validateSettings (account : Account) : Except Fault Unit :=
  checkBaseUrl "smarthive.base_url" account.baseUrl

/-- Checks the settings and reports the first fault. -/
def Settings.validate (settings : Settings) : Except Fault Unit := do
  settings.logger.validate
  settings.http.validate
  settings.defaults.validate
  settings.termii.validateSettings
  settings.smarthive.validateSettings

end Courier
