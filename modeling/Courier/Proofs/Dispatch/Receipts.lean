import Courier.Proofs.Dispatch.Classification
import Courier.Proofs.Json.Records

/-! What is told of one-time passwords that are accepted. An operator needs the pin's name to
confirm the pin. It is read with all else that an answer may say, so whether it is told depends on
the members beside it: a recipient or a status that is neither a text nor null hides it.
-/

namespace Courier.Termii.Otp

open Courier.Http (Network Request ending)
open Courier.Json (IsObject Member Reader valuesOf)
open Courier.Json.Reader (Accepting Fits IsOptionalText WholeFields fill taken)

-----------------------------------------------------------------------------------------
-- Receipts
-----------------------------------------------------------------------------------------

namespace Receipt

/-- A text that decodes to a receipt for a pin of this name. -/
def Acknowledges (text pinId : String) : Prop :=
  ∃ receipt, read.run text = .ok receipt ∧ receipt.pinId = pinId

/-- Members that leave the name of a pin readable: every name is a text, and there is at most one
recipient and one status, each a text or null. -/
structure Undisturbed (members : List Member) : Prop where
  named (member : Member) : member ∈ members → ∃ name, member.name = .ok name
  recipient : Fits IsOptionalText (valuesOf "to" members)
  smsStatus : Fits IsOptionalText (valuesOf "smsStatus" members)

def pinIdField : Reader.Field Receipt :=
  ⟨"pinId", fun r => Reader.string.map fun v => { r with pinId := v }⟩

def recipientField : Reader.Field Receipt :=
  ⟨"to", fun r => (Reader.optional Reader.string).map fun v => { r with recipient := v }⟩

def smsStatusField : Reader.Field Receipt :=
  ⟨"smsStatus", fun r => (Reader.optional Reader.string).map fun v => { r with smsStatus := v }⟩

def fields : List (Reader.Field Receipt) := [pinIdField, recipientField, smsStatusField]

theorem cases_of_find? {name : String} {field : Reader.Field Receipt}
    (known : Reader.Field.find? fields name = some field)
    : name = "pinId" ∧ field = pinIdField
      ∨ name = "to" ∧ field = recipientField
      ∨ name = "smsStatus" ∧ field = smsStatusField := by
  obtain ⟨among, named⟩ := Reader.Field.of_find? known
  simp only [fields, List.mem_cons, List.not_mem_nil, or_false] at among
  rcases among with rfl | rfl | rfl
  · exact .inl ⟨named.symm, rfl⟩
  · exact .inr (.inl ⟨named.symm, rfl⟩)
  · exact .inr (.inr ⟨named.symm, rfl⟩)

theorem wholeFields : WholeFields fields := by
  intro name field known s
  rcases cases_of_find? known with ⟨-, rfl⟩ | ⟨-, rfl⟩ | ⟨-, rfl⟩
  · exact Reader.whole_string.map fun v => { s with pinId := v }
  · exact Reader.whole_string.optional.map fun v => { s with recipient := v }
  · exact Reader.whole_string.optional.map fun v => { s with smsStatus := v }

/-- The values that the fields of a receipt accept. -/
def accepts (name : String) (ts : List Json.Token) : Prop :=
  if name = "pinId" then (taken Reader.string ts).isOk = true else IsOptionalText ts

theorem accepting : Accepting fields accepts := by
  intro name field known s ts formed
  rcases cases_of_find? known with ⟨rfl, rfl⟩ | ⟨rfl, rfl⟩ | ⟨rfl, rfl⟩
  · rw [pinIdField, Reader.isOk_taken_map]
    rfl
  · rw [recipientField, Reader.isOk_taken_map]
    exact Reader.optional_string_isOk_iff formed
  · rw [smsStatusField, Reader.isOk_taken_map]
    exact Reader.optional_string_isOk_iff formed

section Objects

variable {text pinId : String} {members : List Member} {out : Reader.Filled Receipt}

/-- The pin's name in a receipt is the text that the members give. -/
theorem pinId_of_fills (fills : members.foldlM (fill fields) ⟨⟨"", none, none⟩, []⟩ = .ok out)
    : match (valuesOf "pinId" members).getLast? with
      | none => out.value.pinId = ""
      | some ts => taken Reader.string ts = .ok out.value.pinId := by
  refine Reader.held_of_foldlM_fill Receipt.pinId "pinId"
    (fun ts value => taken Reader.string ts = .ok value) ?_ ?_ rfl fills
  · intro field known s s' ts reads
    obtain rfl : pinIdField = field := Option.some.inj known
    rw [pinIdField, Reader.taken_map, map_eq_ok_iff] at reads
    obtain ⟨value, taken, rfl⟩ := reads
    exact taken
  · intro other field known differs s s' ts reads
    rcases cases_of_find? known with ⟨same, -⟩ | ⟨-, rfl⟩ | ⟨-, rfl⟩
    · exact absurd same differs
    · rw [recipientField, Reader.taken_map, map_eq_ok_iff] at reads
      obtain ⟨value, -, rfl⟩ := reads
      rfl
    · rw [smsStatusField, Reader.taken_map, map_eq_ok_iff] at reads
      obtain ⟨value, -, rfl⟩ := reads
      rfl

/-- The reading of a receipt that is written as an object succeeds when its members fill it and one
of them names the pin. -/
theorem run_eq_ok_iff (object : IsObject text members) (receipt : Receipt)
    : read.run text = .ok receipt
      ↔ ∃ out,
        members.foldlM (fill fields) ⟨⟨"", none, none⟩, []⟩ = .ok out
        ∧ valuesOf "pinId" members ≠ []
        ∧ out.value = receipt := by
  have run : read.run text = _ :=
    Reader.run_recordWith_of_isObject wholeFields object ["pinId"] ⟨"", none, none⟩
  rw [run, bind_eq_ok_iff]
  refine exists_congr fun out => and_congr_right fun fills => ?_
  have seen : "pinId" ∈ out.seen ↔ "pinId" ∈ [] ∨ valuesOf "pinId" members ≠ [] :=
    Reader.mem_seen_iff_of_foldlM_fill rfl fills
  by_cases given : valuesOf "pinId" members = []
  · simp [given, seen]
  · simp [given, seen]

/-- An object that names a pin once acknowledges it exactly when no other member disturbs that. -/
theorem acknowledges_iff (object : IsObject text members)
    (given : valuesOf "pinId" members = [[.string (.ok pinId) none]])
    : Acknowledges text pinId ↔ Undisturbed members := by
  have filled_iff := Reader.foldlM_fill_start_iff accepting object.formed ⟨"", none, none⟩
  constructor
  · rintro ⟨receipt, reads, -⟩
    obtain ⟨out, fills, -⟩ := (run_eq_ok_iff object receipt).mp reads
    obtain ⟨named, fits⟩ := filled_iff.mp ⟨out, fills⟩
    exact ⟨named, fits "to" rfl, fits "smsStatus" rfl⟩
  · intro undisturbed
    have accepted : accepts "pinId" [.string (.ok pinId) none] := by
      rw [accepts, if_pos rfl]
      rfl
    have fits (name : String) (known : (Reader.Field.find? fields name).isSome = true)
        : Fits (accepts name) (valuesOf name members) := by
      obtain ⟨field, found⟩ := Option.isSome_iff_exists.mp known
      rcases cases_of_find? found with ⟨rfl, -⟩ | ⟨rfl, -⟩ | ⟨rfl, -⟩
      · exact .inr ⟨_, accepted, given⟩
      · exact undisturbed.recipient
      · exact undisturbed.smsStatus
    obtain ⟨out, fills⟩ := filled_iff.mpr ⟨undisturbed.named, fits⟩
    have reads := (run_eq_ok_iff object out.value).mpr ⟨out, fills, by simp [given], rfl⟩
    have held := pinId_of_fills fills
    rw [given, List.getLast?_singleton] at held
    exact ⟨out.value, reads, (Except.ok.inj held).symm⟩

end Objects

end Receipt

-----------------------------------------------------------------------------------------
-- What is told
-----------------------------------------------------------------------------------------

/-- All that an operator sees of a run is that a one-time password with this pin is dispatched. -/
def Tells (pinId : String) (trace : Trace) : Prop :=
  ∃ event,
    trace.infos = [event]
    ∧ event.message = "OTP dispatched"
    ∧ event.fields.lookup "pin_id" = some (.text pinId)

/-- The event of an accepted template names a pin exactly when the answer acknowledges it. -/
theorem dispatchedEvent_names_iff (recipient pinId : String) (accepted : Http.Accepted)
    : ((dispatchedEvent recipient accepted).message = "OTP dispatched"
        ∧ (dispatchedEvent recipient accepted).fields.lookup "pin_id" = some (.text pinId))
      ↔ Receipt.Acknowledges accepted.body pinId := by
  rw [Receipt.Acknowledges, dispatchedEvent]
  cases Receipt.read.run accepted.body with
  | error fault => exact iff_of_false (by simp) (by simp)
  | ok receipt => simp [List.lookup_cons]

section Sent

variable {account : Account} {context : Context} {message : Message} {recipient : String}
  {network : Network} {past : List Request} {status : Nat} {text : String}

/-- A template that passes the checks and is accepted is delivered, and it is recorded by the event
of its answer. -/
theorem send_delivered (checked : check account = .ok ())
    (placed : checkTemplate account message.text = .ok ())
    (found : context.recipient message.recipient = .ok recipient)
    (whole
      : ending ((send account context message).outcome network past).2.exchanges
        = .whole status text)
    (success : 200 ≤ status ∧ status ≤ 299)
    : ((send account context message).outcome network past).1
        = .ok ⟨name, status, .text text⟩
      ∧ ((send account context message).outcome network past).2.infos
        = [dispatchedEvent recipient ⟨status, text⟩] := by
  rw [send_eq_conclude checked placed found] at whole ⊢
  exact delivered_of_whole whole success (level_dispatchedEvent recipient _) rfl

end Sent

/-- Every one-time password that passes the local checks and whose answer is accepted is delivered.
Where the answer is an object that names the pin once, by a text, this name is told exactly when no
other member disturbs the reading of it. -/
theorem send_tells_iff (account : Account) (context : Context) (message : Message)
    (recipient : String) (checked : check account = .ok ())
    (placed : checkTemplate account message.text = .ok ())
    (found : context.recipient message.recipient = .ok recipient) (network : Network)
    (past : List Request) (status : Nat) (text pinId : String) (members : List Member)
    (whole
      : ending ((send account context message).outcome network past).2.exchanges
        = .whole status text)
    (success : 200 ≤ status ∧ status ≤ 299) (object : IsObject text members)
    (given : valuesOf "pinId" members = [[.string (.ok pinId) none]])
    : let ran := (send account context message).outcome network past
      ran.1 = .ok ⟨name, status, .text text⟩
      ∧ (Tells pinId ran.2 ↔ Receipt.Undisturbed members) := by
  intro ran
  obtain ⟨delivered, infos⟩ := send_delivered checked placed found whole success
  refine ⟨delivered, ?_⟩
  rw [← Receipt.acknowledges_iff object given]
  have names_iff := dispatchedEvent_names_iff recipient pinId ⟨status, text⟩
  constructor
  · rintro ⟨event, told, names⟩
    obtain rfl : dispatchedEvent recipient ⟨status, text⟩ = event := by
      simpa [ran, infos] using told
    exact names_iff.mp names
  · intro acknowledges
    exact ⟨_, infos, names_iff.mpr acknowledges⟩

section Runs

/-- A server that accepts everything with this answer. -/
def answering (text : String) : Network := fun _ _ => .answer ⟨200, [], some text.toUTF8.toList⟩

/-- An account whose address takes requests. -/
def plainAccount : Account :=
  { baseUrl := "http://provider", apiKey := ⟨"secret-key"⟩, senderId := "Shop" }

/-- A template for the account. -/
def coded : Message := ⟨"08108394272", "Your code is < 1234 >"⟩

/-- What becomes of the template when its answer is this text. -/
def answered (text : String) : Except Failure Delivery × Trace :=
  (send plainAccount ⟨⟨"agent"⟩, "234", .short⟩ coded).outcome (answering text) []

/-- The template passes all checks. -/
theorem coded_checked
    : check plainAccount = .ok ()
      ∧ checkTemplate plainAccount coded.text = .ok ()
      ∧ Context.recipient ⟨⟨"agent"⟩, "234", .short⟩ coded.recipient = .ok "2348108394272" := by
  decide +kernel

/-- An object that names a pin, with a number that no one asks for. -/
def namedText : String := "\x7b\"pinId\":\"29ea7c6f\",\"balance\":125\x7d"

def namedMembers : List Member :=
  [⟨.ok "pinId", [.string (.ok "29ea7c6f") none]⟩,
    ⟨.ok "balance", [.number (.decimal false ['1', '2', '5'] [] none true)]⟩]

/-- An object that names a pin, with a recipient that is a number. -/
def numberedText : String := "\x7b\"pinId\":\"29ea7c6f\",\"to\":2348108394272\x7d"

def numberedMembers : List Member :=
  [⟨.ok "pinId", [.string (.ok "29ea7c6f") none]⟩,
    ⟨.ok "to", [.number (.decimal false "2348108394272".toList [] none true)]⟩]

/-- The name of a pin is told beside what no one asks for. -/
theorem send_tells_iff_named
    : (check plainAccount = .ok ()
        ∧ checkTemplate plainAccount coded.text = .ok ()
        ∧ Context.recipient ⟨⟨"agent"⟩, "234", .short⟩ coded.recipient = .ok "2348108394272")
      ∧ ending (answered namedText).2.exchanges = .whole 200 namedText
      ∧ IsObject namedText namedMembers
      ∧ valuesOf "pinId" namedMembers = [[.string (.ok "29ea7c6f") none]]
      ∧ Tells "29ea7c6f" (answered namedText).2 := by
  obtain ⟨checked, placed, found⟩ := coded_checked
  have whole : ending (answered namedText).2.exchanges = .whole 200 namedText := by
    decide +kernel
  have object : IsObject namedText namedMembers := by
    refine ⟨by cbv, ?_⟩
    simp only [namedMembers, List.forall_mem_cons]
    exact ⟨.string _, .number rfl, List.forall_mem_nil _⟩
  have undisturbed : Receipt.Undisturbed namedMembers := by
    refine ⟨?_, .inl rfl, .inl rfl⟩
    simp only [namedMembers, List.forall_mem_cons]
    exact ⟨⟨_, rfl⟩, ⟨_, rfl⟩, List.forall_mem_nil _⟩
  obtain ⟨-, tells_iff⟩ :=
    send_tells_iff plainAccount ⟨⟨"agent"⟩, "234", .short⟩ coded _ checked placed found
      (answering namedText) [] 200 namedText "29ea7c6f" namedMembers whole (by decide) object rfl
  exact ⟨coded_checked, whole, object, rfl, tells_iff.mpr undisturbed⟩

/-- A recipient that is a number hides the name of the pin: the template is delivered, the answer
names the pin, and an operator is told that it does not. -/
theorem numbered_recipient_hides
    : (check plainAccount = .ok ()
        ∧ checkTemplate plainAccount coded.text = .ok ()
        ∧ Context.recipient ⟨⟨"agent"⟩, "234", .short⟩ coded.recipient = .ok "2348108394272")
      ∧ ending (answered numberedText).2.exchanges = .whole 200 numberedText
      ∧ IsObject numberedText numberedMembers
      ∧ valuesOf "pinId" numberedMembers = [[.string (.ok "29ea7c6f") none]]
      ∧ (answered numberedText).1 = .ok ⟨name, 200, .text numberedText⟩
      ∧ (answered numberedText).2.infos
        = [⟨.info, place, "OTP dispatched without pin id",
          [("provider", .text name), ("recipient", .text "2348108394272"),
            ("status", .number 200)]⟩]
      ∧ ¬ Tells "29ea7c6f" (answered numberedText).2 := by
  obtain ⟨checked, placed, found⟩ := coded_checked
  have whole : ending (answered numberedText).2.exchanges = .whole 200 numberedText := by
    decide +kernel
  have object : IsObject numberedText numberedMembers := by
    refine ⟨by cbv, ?_⟩
    simp only [numberedMembers, List.forall_mem_cons]
    exact ⟨.string _, .number rfl, List.forall_mem_nil _⟩
  obtain ⟨delivered, infos⟩ := send_delivered checked placed found whole (by decide)
  have event
      : dispatchedEvent "2348108394272" ⟨200, numberedText⟩
        = ⟨.info, place, "OTP dispatched without pin id",
          [("provider", .text name), ("recipient", .text "2348108394272"),
            ("status", .number 200)]⟩ := by
    decide +kernel
  rw [event] at infos
  refine ⟨coded_checked, whole, object, rfl, delivered, infos, ?_⟩
  rintro ⟨told, alone, message, -⟩
  obtain ⟨rfl, -⟩ := List.cons.inj (infos.symm.trans alone)
  exact absurd message (by decide)

end Runs

end Courier.Termii.Otp
