import Courier.Codec
import Courier.Failure
import Courier.Text.Blank

/-! The policy of one-time passwords: their characters, length, life and the template of the message
that carries them. The rules of single fields come first; the rule of the template counts only when
all of them hold.
-/

namespace Courier.Otp

open Courier.Text

/-- The characters of a pin. -/
inductive PinType
  | numeric
  | alphanumeric
  deriving DecidableEq, Repr

namespace PinType

def name : PinType → String
  | numeric => "NUMERIC"
  | alphanumeric => "ALPHANUMERIC"

def ofName? (name : String) : Option PinType :=
  if name == "NUMERIC" then some numeric
  else if name == "ALPHANUMERIC" then some alphanumeric
  else none

def codec : Codec PinType := Codec.named name ofName?

end PinType

/-- A policy. -/
structure Policy where
  messageType : PinType := .numeric
  pinType : PinType := .numeric
  pinAttempts : UInt32 := 3
  /-- The minutes before a pin expires. -/
  pinTimeToLive : UInt32 := 5
  pinLength : UInt32 := 6
  /-- What the provider puts the pin in place of. -/
  pinPlaceholder : String := "< 1234 >"
  messageText : String := "Your verification code is < 1234 >"
  deriving DecidableEq, Repr

namespace Policy

def codec : Codec Policy :=
  Codec.record {}
    [.of "message_type" PinType.codec messageType fun v p => { p with messageType := v },
      .of "pin_type" PinType.codec pinType fun v p => { p with pinType := v },
      .of "pin_attempts" Codec.word32 pinAttempts fun v p => { p with pinAttempts := v },
      .of "pin_time_to_live" Codec.word32 pinTimeToLive fun v p => { p with pinTimeToLive := v },
      .of "pin_length" Codec.word32 pinLength fun v p => { p with pinLength := v },
      .of "pin_placeholder" Codec.text pinPlaceholder fun v p => { p with pinPlaceholder := v },
      .of "message_text" Codec.text messageText fun v p => { p with messageText := v }]

def hasPlaceholder (policy : Policy) (template : String) : Bool :=
  !policy.pinPlaceholder.isEmpty
    && occursIn policy.pinPlaceholder.toList template.toList

/-- The rules of single fields: the field, what is said when the rule is broken, and whether it
holds. -/
def fieldRules (policy : Policy) : List ((String × Breach) × Bool) :=
  [(("pin_attempts", ⟨"range", "pin_attempts must be at least 1"⟩), 1 ≤ policy.pinAttempts),
    (("pin_time_to_live", ⟨"range", "pin_time_to_live must be between 0 and 60 minutes"⟩),
      policy.pinTimeToLive ≤ 60),
    (("pin_length", ⟨"range", "pin_length must be between 4 and 8"⟩),
      4 ≤ policy.pinLength && policy.pinLength ≤ 8),
    (("pin_placeholder", ⟨"length", "pin_placeholder cannot be empty"⟩),
      !policy.pinPlaceholder.isEmpty)]

/-- The fields whose own rule is broken. -/
def fieldErrors (policy : Policy) : ErrorMap :=
  (policy.fieldRules.filter (!·.2)).map fun rule => (rule.1.1, .rules [rule.1.2])

/-- The entry of a template without a place for the pin. -/
def templateError : String × FieldError :=
  ("__all__", .rules [⟨"placeholder_missing", "message_text must contain pin_placeholder"⟩])

/-- What is wrong with a policy, each field once. -/
def errors (policy : Policy) : ErrorMap :=
  match policy.fieldErrors with
  | [] => if policy.hasPlaceholder policy.messageText then [] else [templateError]
  | errors => errors

/-- Accepts a policy with which nothing is wrong. -/
def validate (policy : Policy) : Except ErrorMap Unit :=
  match policy.errors with
  | [] => .ok ()
  | errors => .error errors

/-- The lines that say what is wrong with a policy, one for each fault. A policy holds no record and
no list, and each of its fields has one rule. -/
def faultLines (errors : ErrorMap) : String :=
  String.intercalate "\n" (errors.faults.map Failure.fieldText)

end Policy

end Courier.Otp
