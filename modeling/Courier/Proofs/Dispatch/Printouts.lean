import Courier.Proofs.Dispatch.Rehearsal
import Courier.Proofs.Dispatch.Classification
import Courier.Proofs.Json.Indentation

/-! What is printed can be read again. The answer of the second provider of short messages and the
bodies of dry runs are printed below a line of their own, and the text below this line is read as
the document that is shown.
-/

namespace Courier

open Courier.Http (Ending Network Request ending)

-----------------------------------------------------------------------------------------
-- Documents below a line
-----------------------------------------------------------------------------------------

/-- A text shows a document: below its first line stands the indented form of the document, from
which the document is read again. -/
structure Displays (text line : String) (document : Json) : Prop where
  whole : text = line ++ "\n" ++ document.pretty
  single : '\n' ∉ line.toList
  again : Json.parse document.pretty = .ok document

/-- A number is written on one line. -/
theorem newline_not_mem_toDigits (n : Nat) : '\n' ∉ Nat.toDigits 10 n := fun among =>
  absurd (Json.isDigit_of_mem_toDigits among) (by decide)

/-- The report of a document that has been read, and has no other numbers than integers, shows
it. -/
theorem Delivery.report_displays (provider : String) (status : Nat) {text : String}
    {document : Json} (read : Json.parse text = .ok document) (integral : document.Integral)
    : Displays (Delivery.report ⟨provider, status, .json document⟩) s!"Status Code: {status}"
        document where
  whole := rfl
  single := by
    have label : '\n' ∉ "Status Code: ".toList := by decide
    simpa using ⟨label, newline_not_mem_toDigits status⟩
  again := (Json.stored_of_parse read).parse_pretty integral

/-- A dry run shows the body of plain members. -/
theorem previewReport_displays {provider : String} (single : '\n' ∉ provider.toList)
    {members : List (String × Json)} (plain : ∀ member ∈ members, Json.Legible 0 member.2)
    : Displays (previewReport provider (Json.ofMembers members))
        s!"[dry-run] {provider} would send:" (Json.ofMembers members) where
  whole := by
    have ends : toString " would send:\n" = toString " would send:" ++ "\n" := rfl
    rw [previewReport, ends, ← String.append_assoc]
    rfl
  single := by
    have label : '\n' ∉ "[dry-run] ".toList := by decide
    have ends : '\n' ∉ " would send:".toList := by decide
    simpa using ⟨label, single, ends⟩
  again := Json.parse_pretty_ofMembers plain

-----------------------------------------------------------------------------------------
-- Answers
-----------------------------------------------------------------------------------------

/-- A job that asks something has passed the check before it. -/
theorem exists_ok_of_whole {α β : Type} {check : Except Failure α} {later : α → Job β}
    {network : Network} {past : List Request} {status : Nat} {text : String}
    (whole
      : ending ((Job.ofExcept check >>= later).outcome network past).2.exchanges
        = .whole status text)
    : ∃ a, check = .ok a := by
  cases check with
  | ok a => exact ⟨a, rfl⟩
  | error failure => cases whole

namespace SmartHive.Sms

section Sent

variable {account : Account} {context : Context} {message : Message} {network : Network}
  {past : List Request} {status : Nat} {text : String}

/-- A message that has an answer has passed the checks. -/
theorem checks_of_whole
    (whole
      : ending ((send account context message).outcome network past).2.exchanges
        = .whole status text)
    : account.check = .ok ()
      ∧ ∃ recipient, context.recipient message.recipient = .ok recipient := by
  obtain ⟨_, checked⟩ := exists_ok_of_whole whole
  refine ⟨checked, ?_⟩
  simp only [send, checked, Job.ofExcept, Job.finish_ok_bind] at whole
  exact exists_ok_of_whole whole

/-- An accepted answer that is a document is delivered as the document. -/
theorem send_of_whole
    (whole
      : ending ((send account context message).outcome network past).2.exchanges
        = .whole status text)
    (success : 200 ≤ status ∧ status ≤ 299) {document : Json}
    (read : Json.parse text = .ok document)
    : ((send account context message).outcome network past).1
      = .ok ⟨name, status, .json document⟩ := by
  obtain ⟨checked, recipient, found⟩ := checks_of_whole whole
  have reads : Answer.document context name text = .ok (.json document) := by
    rw [Answer.document, Context.reading, read]
    rfl
  rw [send_eq_conclude checked found] at whole ⊢
  exact (delivered_of_whole whole success rfl reads).1

end Sent

end SmartHive.Sms

-----------------------------------------------------------------------------------------
-- Bodies of dry runs
-----------------------------------------------------------------------------------------

/-- The report of a dry run shows the body. -/
def Previews (provider : String) (body : Json) : Prop :=
  Displays (previewReport provider body) s!"[dry-run] {provider} would send:" body

section Previews

variable {context : Context} {message : Message} {body : Json}

theorem Termii.Sms.preview_displays {account : Termii.Account}
    (previewed : preview account context message = .ok body)
    : Previews name body := by
  obtain ⟨recipient, -, made⟩ := bind_eq_ok_iff.mp previewed
  obtain rfl := Except.ok.inj made
  exact previewReport_displays (by decide) (legible_members account _ recipient message.text)

theorem Termii.Otp.preview_displays {account : Termii.Account}
    (previewed : preview account context message = .ok body)
    : Previews name body := by
  obtain ⟨-, recipient, -, made⟩ := (then_eq_ok_iff.mp previewed).imp_right bind_eq_ok_iff.mp
  obtain rfl := Except.ok.inj made
  exact previewReport_displays (by decide) (legible_members account _ recipient message.text)

theorem SmartHive.Sms.preview_displays {account : SmartHive.Account}
    (previewed : preview account context message = .ok body)
    : Previews name body := by
  obtain ⟨recipient, -, made⟩ := bind_eq_ok_iff.mp previewed
  obtain rfl := Except.ok.inj made
  exact previewReport_displays (by decide) (legible_members account recipient message.text)

end Previews

/-- What is printed can be read again. Where the requests of a message to the second provider of
short messages end with an accepted answer that is a document without other numbers than integers,
the message is delivered, and its report shows this document below the line of the status. Every
body of a dry run is shown below the line of its provider. -/
theorem Desk.printouts_displayed (desk : Desk) (message : Message)
    : (∀ (account : SmartHive.Account) (network : Network) (past : List Request) (status : Nat)
          (text : String) (document : Json),
        let provider := SmartHive.Sms.provider account desk.context
        let sent := (provider.send message).outcome network past
        ending sent.2.exchanges = .whole status text
        → (200 ≤ status ∧ status ≤ 299)
        → Json.parse text = .ok document
        → document.Integral
        → ∃ delivery,
          sent.1 = .ok delivery
          ∧ ((desk.sending.dispatch provider message).outcome network past).2.stdout
            = delivery.report ++ "\n"
          ∧ Displays delivery.report s!"Status Code: {status}" document)
      ∧ (∀ (account : Termii.Account) (body : Json),
        Termii.Sms.preview account desk.context message = .ok body
        → Previews Termii.Sms.name body)
      ∧ (∀ (account : Termii.Account) (body : Json),
        Termii.Otp.preview account desk.context message = .ok body
        → Previews Termii.Otp.name body)
      ∧ (∀ (account : SmartHive.Account) (body : Json),
        SmartHive.Sms.preview account desk.context message = .ok body
        → Previews SmartHive.Sms.name body)
      ∧ (∀ (account : Termii.Account) (pinId pin : String),
        Previews Termii.Otp.name (Termii.Otp.verifyPreview account pinId pin)) := by
  refine ⟨?_, fun _ _ => Termii.Sms.preview_displays, fun _ _ => Termii.Otp.preview_displays,
    fun _ _ => SmartHive.Sms.preview_displays, ?_⟩
  · intro account network past status text document provider sent whole success read integral
    have delivered : sent.1 = .ok ⟨SmartHive.Sms.name, status, .json document⟩ :=
      SmartHive.Sms.send_of_whole whole success read
    obtain ⟨checked, recipient, found⟩ := SmartHive.Sms.checks_of_whole whole
    have real : desk.sending.dryRun = false := rfl
    have conducted := SmartHive.Sms.send_conducted network past real checked found
    have same : ((SmartHive.Sms.send account desk.sending.context message).outcome network past).1
        = .ok ⟨SmartHive.Sms.name, status, .json document⟩ := delivered
    have printed := conducted.printed
    rw [same] at printed
    exact ⟨_, delivered, printed, Delivery.report_displays _ status read integral⟩
  · intro account pinId pin
    exact previewReport_displays (by decide) (Termii.Otp.legible_verifyMembers _ pinId pin)

section Runs

/-- An answer with a name that is given twice, empty containers, and a text with a quote, a line
break and a letter that is not ASCII. -/
def nestedText : String :=
  "\x7b\"list\":[[],\x7b\x7d,[-1,18446744073709551615]],\"id\":1,\"id\":\"a\\\"\\n\\u00e9\"\x7d"

/-- The document of the answer: the last member of a name counts. -/
def nestedDocument : Json :=
  .object
    [("id", .string "a\"\né"),
      ("list",
        .array
          [.array [], .object [],
            .array [.number (.integer (-1)), .number (.integer 18446744073709551615)]])]

/-- A server that accepts everything with the answer. -/
def nested : Network := fun _ _ => .answer ⟨200, [], some nestedText.toUTF8.toList⟩

theorem nestedDocument_integral : nestedDocument.Integral := by
  refine .object ?_
  simp only [List.forall_mem_cons]
  refine ⟨.string _, .array ?_, nofun⟩
  simp only [List.forall_mem_cons]
  refine ⟨.array nofun, .object nofun, .array ?_, nofun⟩
  simp only [List.forall_mem_cons]
  exact ⟨.integer _, .integer _, nofun⟩

/-- An account that passes the checks. -/
def liveAccount : SmartHive.Account :=
  { baseUrl := "http://provider", apiKey := ⟨"secret-key"⟩, sender := "Shop" }

/-- The document of a nested answer is printed below its status, and what is printed is read as
the document. -/
theorem printouts_displayed_nested
    : let provider := SmartHive.Sms.provider liveAccount openDesk.context
      let message : Message := ⟨"08108394272", "hi"⟩
      let sent := (provider.send message).outcome nested []
      ending sent.2.exchanges = .whole 200 nestedText
      ∧ Json.parse nestedText = .ok nestedDocument
      ∧ nestedDocument.Integral
      ∧ (∃ delivery,
        sent.1 = .ok delivery
        ∧ Displays delivery.report "Status Code: 200" nestedDocument) := by
  intro provider message sent
  have whole : ending sent.2.exchanges = .whole 200 nestedText := by decide +kernel
  have read : Json.parse nestedText = .ok nestedDocument := by rfl
  have integral := nestedDocument_integral
  obtain ⟨shown, -⟩ := Desk.printouts_displayed openDesk message
  obtain ⟨delivery, delivered, -, displayed⟩ :=
    shown liveAccount _ [] 200 nestedText nestedDocument whole (by decide) read integral
  exact ⟨whole, read, integral, delivery, delivered, displayed⟩

end Runs

end Courier
