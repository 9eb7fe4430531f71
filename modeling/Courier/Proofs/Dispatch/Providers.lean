import Courier.Dispatch.Desk
import Courier.Proofs.Http.Posting
import Courier.Proofs.Json.Members

/-! What every provider keeps: a message is sent as its preview says. Sending makes the checks of
the preview in the same order, every failure of which blames what was given, and then posts the
document that the preview shows, with the key in place of its mask.
-/

namespace Courier

variable {α β : Type}

-----------------------------------------------------------------------------------------
-- Checks that blame what was given
-----------------------------------------------------------------------------------------

/-- A check all of whose failures blame what was given. -/
def BlamesInput (check : Except Failure β) : Prop :=
  ∀ failure, check = .error failure → failure.isInput = true

theorem BlamesInput.ok (b : β) : BlamesInput (.ok b) := by
  intro failure fails
  cases fails

theorem BlamesInput.error {failure : Failure} (input : failure.isInput = true)
    : BlamesInput (.error failure : Except Failure β) := by
  intro failure fails
  cases fails
  exact input

theorem BlamesInput.bind {check : Except Failure α} {next : α → Except Failure β}
    (blames : BlamesInput check) (blamesNext : ∀ a, BlamesInput (next a))
    : BlamesInput (check >>= next) := by
  cases checked : check with
  | ok a => exact blamesNext a
  | error failure => exact .error (blames failure checked)

theorem blamesInput_mapError {check : Except α β} {blame : α → Failure}
    (input : ∀ fault, (blame fault).isInput = true)
    : BlamesInput (check.mapError blame) := by
  cases check with
  | ok b => exact .ok b
  | error fault => exact .error (input fault)

theorem AccountCheck.blamesInput_run (account : AccountCheck) : BlamesInput account.run := by
  rw [AccountCheck.run]
  split_ifs
  · exact .error rfl
  · exact .error rfl
  · exact .error rfl
  · exact blamesInput_mapError fun _ => rfl

theorem Context.blamesInput_recipient (context : Context) (raw : String)
    : BlamesInput (context.recipient raw) :=
  blamesInput_mapError fun _ => rfl

theorem Desk.blamesInput_recipient (desk : Desk) (asked : Option String)
    : BlamesInput (desk.recipient asked) := by
  simp only [Desk.recipient]
  split_ifs
  · exact .error rfl
  · exact .ok _
  · exact .ok _

theorem Termii.Otp.blamesInput_check (account : Termii.Account)
    : BlamesInput (Termii.Otp.check account) :=
  (AccountCheck.blamesInput_run _).bind fun _ => blamesInput_mapError fun _ => rfl

theorem Termii.Otp.blamesInput_checkTemplate (account : Termii.Account) (template : String)
    : BlamesInput (Termii.Otp.checkTemplate account template) := by
  rw [Termii.Otp.checkTemplate]
  split
  · exact .ok ()
  · exact .error rfl

-----------------------------------------------------------------------------------------
-- The members of the documents
-----------------------------------------------------------------------------------------

theorem Termii.Sms.legible_members (account : Termii.Account) (key recipient text : String)
    : ∀ member ∈ Termii.Sms.members account key recipient text, Json.Legible 0 member.2 := by
  intro member among
  simp only [Termii.Sms.members, List.mem_cons, List.not_mem_nil, or_false] at among
  rcases among with rfl | rfl | rfl | rfl | rfl | rfl <;> exact .string _

theorem Termii.Otp.legible_members (account : Termii.Account) (key recipient template : String)
    : ∀ member ∈ Termii.Otp.members account key recipient template,
        Json.Legible 0 member.2 := by
  have count (n : UInt32) : Json.Legible 0 (Json.nat n.toNat) :=
    .integer ⟨by omega, by have := n.toNat_lt; omega⟩
  intro member among
  simp only [Termii.Otp.members, List.mem_cons, List.not_mem_nil, or_false] at among
  rcases among with rfl | rfl | rfl | rfl | rfl | rfl | rfl | rfl | rfl | rfl | rfl
  iterate 4 exact .string _
  iterate 3 exact count _
  iterate 4 exact .string _

theorem Termii.Otp.legible_verifyMembers (key pinId pin : String)
    : ∀ member ∈ Termii.Otp.verifyMembers key pinId pin, Json.Legible 0 member.2 := by
  intro member among
  simp only [Termii.Otp.verifyMembers, List.mem_cons, List.not_mem_nil, or_false] at among
  rcases among with rfl | rfl | rfl <;> exact .string _

theorem SmartHive.Sms.legible_members (account : SmartHive.Account) (recipient text : String)
    : ∀ member ∈ SmartHive.Sms.members account recipient text, Json.Legible 0 member.2 := by
  have code : Json.Legible 0 (Json.nat account.messageType.code) := by
    cases account.messageType <;> exact .integer ⟨by decide, by decide⟩
  intro member among
  simp only [SmartHive.Sms.members, List.mem_cons, List.not_mem_nil, or_false] at among
  rcases among with rfl | rfl | rfl | rfl | rfl
  iterate 3 exact .string _
  · exact code
  · exact .string _

-----------------------------------------------------------------------------------------
-- A sending keeps what a rehearsal says
-----------------------------------------------------------------------------------------

/-- What is sent is read back as the body that is shown, once its key is masked. -/
def Shows (key : ApiKey) (sent : String) (body : Json) : Prop :=
  ∃ document,
    Json.parse sent = .ok document ∧ document.replace "api_key" (.string key.masked) = body

/-- A sending that fails as its rehearsal does, without a request, or begins with a post of what the
rehearsal shows and then blames nothing that was given. -/
inductive Keeps (key : ApiKey) : Except Failure Json → Job α → Prop
  | refused {failure : Failure} (input : failure.isInput = true)
    : Keeps key (.error failure) (.fail failure)
  | posted {body : Json} {client : Http.Client} {post : Http.Post} {later : Http.Accepted → Job α}
    (shows : Shows key post.body.compact body)
    (abides : ∀ accepted, (later accepted).Abides .receiving)
    : Keeps key (.ok body) (client.post post >>= later)

/-- A check that both make first: only its failures matter. -/
theorem Keeps.check {key : ApiKey} {check : Except Failure β} {rehearsal : β → Except Failure Json}
    {send : β → Job α} (blames : BlamesInput check) (keeps : ∀ b, Keeps key (rehearsal b) (send b))
    : Keeps key (check >>= rehearsal) (Job.ofExcept check >>= send) := by
  cases checked : check with
  | ok b => exact keeps b
  | error failure => exact .refused (blames failure checked)

theorem Keeps.civil {key : ApiKey} {rehearsal : Except Failure Json} {send : Job α}
    (keeps : Keeps key rehearsal send)
    : send.Abides .civil := by
  cases keeps with
  | refused input => exact .fail trivial
  | @posted body client post later shows abides =>
      have whole := (Http.Client.post_abides client post).bind
        fun accepted => (abides accepted).sending
      exact whole.weaken (fun _ => id) (fun _ => id) (fun _ _ => trivial)

/-- The body that a provider would send once its account is checked. -/
def Provider.rehearse (provider : Provider) (message : Message) : Except Failure Json := do
  provider.check
  provider.preview message

section Providers

variable (context : Context) (message : Message)

/-- Members are read back and their key masked, whatever key they were given. -/
theorem shows_members {key : ApiKey} {secret masked : List (String × Json)}
    (plain : ∀ member ∈ secret, Json.Legible 0 member.2)
    (masks : secret.map (Json.replaceMember "api_key" (.string key.masked)) = masked)
    : Shows key (Json.object secret).compact (Json.ofMembers masked) := by
  refine ⟨Json.ofMembers secret, Json.parse_members plain, ?_⟩
  rw [Json.replace_ofMembers, masks]

theorem Termii.Sms.provider_keeps (account : Termii.Account)
    : Keeps account.apiKey ((Termii.Sms.provider account context).rehearse message)
        ((Termii.Sms.provider account context).send message) := by
  refine .check (AccountCheck.blamesInput_run _) fun _ => ?_
  refine .check (context.blamesInput_recipient _) fun recipient => ?_
  refine .posted (shows_members (Termii.Sms.legible_members account _ _ _) ?_) fun accepted => ?_
  · simp [Termii.Sms.members, Json.replaceMember]
  · exact .say rfl (.done _)

theorem Termii.Otp.provider_keeps (account : Termii.Account)
    : Keeps account.apiKey ((Termii.Otp.provider account context).rehearse message)
        ((Termii.Otp.provider account context).send message) := by
  refine .check (Termii.Otp.blamesInput_check account) fun _ => ?_
  refine .check (Termii.Otp.blamesInput_checkTemplate account _) fun _ => ?_
  refine .check (context.blamesInput_recipient _) fun recipient => ?_
  refine .posted (shows_members (Termii.Otp.legible_members account _ _ _) ?_) fun accepted => ?_
  · simp [Termii.Otp.members, Json.replaceMember]
  · exact .say rfl (.done _)

theorem SmartHive.Sms.provider_keeps (key : ApiKey) (account : SmartHive.Account)
    : Keeps key ((SmartHive.Sms.provider account context).rehearse message)
        ((SmartHive.Sms.provider account context).send message) := by
  refine .check (AccountCheck.blamesInput_run _) fun _ => ?_
  refine .check (context.blamesInput_recipient _) fun recipient => ?_
  refine .posted (shows_members (SmartHive.Sms.legible_members account _ _) ?_) fun accepted => ?_
  · simp [SmartHive.Sms.members, Json.replaceMember]
  · cases context.reading SmartHive.Sms.name Json.parse accepted.body with
    | error fault => exact .fail rfl
    | ok document => exact .say rfl (.done _)

end Providers

section Runs

/-- Settings with an account at every provider. -/
def Settings.subscribed : Settings where
  defaults := { recipient := "08108394272" }
  termii := { baseUrl := "http://t", apiKey := ⟨"secret-key"⟩, senderId := "Shop" }
  smarthive := { baseUrl := "http://s", apiKey := ⟨"secret-key"⟩, sender := "Shop" }

/-- A desk with these settings. -/
def Desk.subscribed : Desk := ⟨.subscribed, ⟨⟨"agent"⟩, "234", .short⟩, false⟩

/-- A network whose answers all have an empty list for a body; the first of them has the status. -/
def listing (status : Nat) : Http.Network := fun past _ =>
  .answer ⟨if past = [] then status else 200, [], some "[]".toUTF8.toList⟩

end Runs

end Courier
