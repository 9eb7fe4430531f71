import Courier.Phone
import Courier.SmartHive.Account
import Courier.Termii.Account

/-! Settings: everything that a configuration can say, in sections, each with a default.
-/

namespace Courier

def version : String := "0.1.0"

namespace Settings

/-- The program's own name. -/
structure Application where
  name : String := "sms-dispatch"
  version : String := Courier.version
  deriving DecidableEq, Repr

/-- The log on the console. -/
structure Console where
  enabled : Bool := true
  colored : Bool := true
  deriving DecidableEq, Repr

/-- The log in a file. -/
structure LogFile where
  enabled : Bool := false
  path : String := "logs/sms-dispatch.log"
  append : Bool := true
  format : String := "json"
  deriving DecidableEq, Repr

/-- The log. -/
structure Logger where
  level : String := "info"
  console : Console := {}
  file : LogFile := {}
  deriving DecidableEq, Repr

/-- The client of the providers' servers. -/
structure Http where
  timeoutSeconds : UInt64 := 10
  connectTimeoutSeconds : UInt64 := 5
  userAgent : String := "sms-dispatch/" ++ Courier.version
  deriving DecidableEq, Repr

/-- The text of a message when none is given. -/
def sampleText : String := "Hi there, this is a test message"

/-- What a command takes when it is not told. -/
structure Defaults where
  recipient : String := ""
  countryCode : String := Phone.defaultCountryCode
  smsText : String := sampleText
  smarthiveText : String := sampleText
  deriving DecidableEq, Repr

end Settings

open Settings in
/-- The settings. -/
structure Settings where
  application : Application := {}
  logger : Logger := {}
  http : Http := {}
  defaults : Defaults := {}
  termii : Termii.Account := {}
  smarthive : SmartHive.Account := {}
  deriving DecidableEq, Repr

namespace Settings

def Application.codec : Codec Application :=
  Codec.record {}
    [.of "name" Codec.text name fun v a => { a with name := v },
      .of "version" Codec.text version fun v a => { a with version := v }]

def Console.codec : Codec Console :=
  Codec.record {}
    [.of "enabled" Codec.bool enabled fun v c => { c with enabled := v },
      .of "colored" Codec.bool colored fun v c => { c with colored := v }]

def LogFile.codec : Codec LogFile :=
  Codec.record {}
    [.of "enabled" Codec.bool enabled fun v f => { f with enabled := v },
      .of "path" Codec.text path fun v f => { f with path := v },
      .of "append" Codec.bool append fun v f => { f with append := v },
      .of "format" Codec.text format fun v f => { f with format := v }]

def Logger.codec : Codec Logger :=
  Codec.record {}
    [.of "level" Codec.text level fun v l => { l with level := v },
      .of "console" Console.codec console fun v l => { l with console := v },
      .of "file" LogFile.codec file fun v l => { l with file := v }]

def Http.codec : Codec Http :=
  Codec.record {}
    [.of "timeout_seconds" Codec.word64 timeoutSeconds fun v h => { h with timeoutSeconds := v },
      .of "connect_timeout_seconds" Codec.word64 connectTimeoutSeconds
        fun v h => { h with connectTimeoutSeconds := v },
      .of "user_agent" Codec.text userAgent fun v h => { h with userAgent := v }]

def Defaults.codec : Codec Defaults :=
  Codec.record {}
    [.of "recipient" Codec.text recipient fun v d => { d with recipient := v },
      .of "country_code" Codec.text countryCode fun v d => { d with countryCode := v },
      .of "sms_text" Codec.text smsText fun v d => { d with smsText := v },
      .of "smarthive_text" Codec.text smarthiveText fun v d => { d with smarthiveText := v }]

def codec : Codec Settings :=
  Codec.record {}
    [.of "application" Application.codec application fun v s => { s with application := v },
      .of "logger" Logger.codec logger fun v s => { s with logger := v },
      .of "http" Http.codec http fun v s => { s with http := v },
      .of "defaults" Defaults.codec defaults fun v s => { s with defaults := v },
      .of "termii" Termii.Account.codec termii fun v s => { s with termii := v },
      .of "smarthive" SmartHive.Account.codec smarthive fun v s => { s with smarthive := v }]

end Settings

end Courier
