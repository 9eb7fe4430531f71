import Courier.Proofs.Dispatch.Providers
import Courier.Proofs.Http.Rekeying

/-! Keys do not show. With other keys that pass the same checks, a command goes on alike: its
requests differ in the key only, and all else that it does is the same. In a dry run it is the mask
of a key that shows, so the masks must be the same as well.
-/

namespace Courier

open Courier.Http (DifferOnlyAt Request)

/-- Keys that no check tells apart. -/
structure ApiKey.Agrees (key other : ApiKey) : Prop where
  missing : key.isMissing = other.isMissing
  legal : Http.isHeaderValue key.secret = Http.isHeaderValue other.secret

/-- Requests that differ in the key only, in the member or the header where it travels. -/
def Rekeyed (request other : Request) : Prop :=
  request.Rekeyed "api_key" SmartHive.Sms.keyHeader other

/-- Correspondence of requests in a dry run, which makes none, and in a real run. -/
def Told (dryRun : Bool) (request other : Request) : Prop :=
  dryRun = false ∧ Rekeyed request other

def Termii.Account.withKey (account : Termii.Account) (key : ApiKey) : Termii.Account :=
  { account with apiKey := key }

def SmartHive.Account.withKey (account : SmartHive.Account) (key : ApiKey) : SmartHive.Account :=
  { account with apiKey := key }

-----------------------------------------------------------------------------------------
-- Providers
-----------------------------------------------------------------------------------------

/-- Providers that go on alike and, where their masks are the same, show the same. -/
structure Provider.Alike (sameMask : Prop) (provider other : Provider) : Prop where
  name : provider.name = other.name
  check : provider.check = other.check
  preview : sameMask → provider.preview = other.preview
  send (message : Message) : (provider.send message).Alike Rekeyed (other.send message)

theorem AccountCheck.run_eq_of_agrees (account : AccountCheck) {key : ApiKey}
    (agrees : account.apiKey.Agrees key)
    : account.run = AccountCheck.run { account with apiKey := key } := by
  simp only [AccountCheck.run, agrees.missing, agrees.legal]

section Providers

variable {key : ApiKey} (context : Context)

section Termii

variable (account : Termii.Account) (agrees : account.apiKey.Agrees key)

include agrees

theorem Termii.Account.check_withKey : account.check = (account.withKey key).check :=
  AccountCheck.run_eq_of_agrees _ agrees

theorem Termii.Otp.check_withKey
    : Termii.Otp.check account = Termii.Otp.check (account.withKey key) := by
  rw [Termii.Otp.check, Termii.Otp.check, account.check_withKey agrees]
  rfl

theorem Termii.Sms.provider_alike
    : (Termii.Sms.provider account context).Alike (account.apiKey.masked = key.masked)
        (Termii.Sms.provider (account.withKey key) context) := by
  refine ⟨rfl, account.check_withKey agrees, ?_, ?_⟩
  · intro masks
    funext message
    simp only [Termii.Sms.provider, Termii.Sms.preview, masks]
    rfl
  · intro message
    have differ (recipient : String)
        : DifferOnlyAt "api_key"
            (Termii.Sms.members account account.apiKey.secret recipient message.text)
            (Termii.Sms.members (account.withKey key) key.secret recipient message.text) := by
      simp [DifferOnlyAt, Termii.Sms.members, Termii.Account.withKey]
    simp only [Termii.Sms.provider, Termii.Sms.send, ← account.check_withKey agrees]
    refine (Job.Alike.finish _).bind fun _ => (Job.Alike.finish _).bind fun recipient => ?_
    refine .bind ?_ fun accepted => .say _ (.finish _)
    exact Http.Client.post_alike _
      ⟨rfl, rfl, .inl ⟨rfl, _, _, rfl, rfl, differ recipient⟩, rfl⟩

theorem Termii.Otp.provider_alike
    : (Termii.Otp.provider account context).Alike (account.apiKey.masked = key.masked)
        (Termii.Otp.provider (account.withKey key) context) := by
  refine ⟨rfl, Termii.Otp.check_withKey account agrees, ?_, ?_⟩
  · intro masks
    funext message
    simp only [Termii.Otp.provider, Termii.Otp.preview, masks]
    rfl
  · intro message
    have differ (recipient : String)
        : DifferOnlyAt "api_key"
            (Termii.Otp.members account account.apiKey.secret recipient message.text)
            (Termii.Otp.members (account.withKey key) key.secret recipient message.text) := by
      simp [DifferOnlyAt, Termii.Otp.members, Termii.Account.withKey]
    simp only [Termii.Otp.provider, Termii.Otp.send, ← Termii.Otp.check_withKey account agrees]
    refine (Job.Alike.finish _).bind fun _ => (Job.Alike.finish _).bind fun _ => ?_
    refine (Job.Alike.finish _).bind fun recipient => ?_
    refine .bind ?_ fun accepted => .say _ (.finish _)
    exact Http.Client.post_alike _
      ⟨rfl, rfl, .inl ⟨rfl, _, _, rfl, rfl, differ recipient⟩, rfl⟩

theorem Termii.Otp.verify_alike (pinId pin : String)
    : (Termii.Otp.verify account context pinId pin).Alike Rekeyed
        (Termii.Otp.verify (account.withKey key) context pinId pin) := by
  have differ
      : DifferOnlyAt "api_key" (Termii.Otp.verifyMembers account.apiKey.secret pinId pin)
          (Termii.Otp.verifyMembers key.secret pinId pin) := by
    simp [DifferOnlyAt, Termii.Otp.verifyMembers]
  simp only [Termii.Otp.verify, ← Termii.Otp.check_withKey account agrees]
  refine (Job.Alike.finish _).bind fun _ => (Job.Alike.finish _).bind fun _ => ?_
  refine (Job.Alike.finish _).bind fun _ => .bind ?_ fun accepted => ?_
  · exact Http.Client.post_alike _ ⟨rfl, rfl, .inl ⟨rfl, _, _, rfl, rfl, differ⟩, rfl⟩
  · cases context.reading Termii.Otp.name Termii.Otp.Verdict.read.run accepted.body with
    | error fault => exact .finish _
    | ok verdict =>
        dsimp only
        split
        · exact .say _ (.finish _)
        · exact .say _ (.finish _)

end Termii

section SmartHive

variable (account : SmartHive.Account) (agrees : account.apiKey.Agrees key)

include agrees

theorem SmartHive.Account.check_withKey : account.check = (account.withKey key).check :=
  AccountCheck.run_eq_of_agrees _ agrees

theorem SmartHive.Sms.provider_alike (sameMask : Prop)
    : (SmartHive.Sms.provider account context).Alike sameMask
        (SmartHive.Sms.provider (account.withKey key) context) := by
  refine ⟨rfl, account.check_withKey agrees, fun _ => rfl, ?_⟩
  intro message
  have differ
      : DifferOnlyAt SmartHive.Sms.keyHeader
          [(SmartHive.Sms.keyHeader, account.apiKey.secret)]
          [(SmartHive.Sms.keyHeader, key.secret)] := by
    simp [DifferOnlyAt]
  simp only [SmartHive.Sms.provider, SmartHive.Sms.send, ← account.check_withKey agrees]
  refine (Job.Alike.finish _).bind fun _ => (Job.Alike.finish _).bind fun recipient => ?_
  refine .bind ?_ fun accepted => ?_
  · refine Http.Client.post_alike _ ⟨rfl, rfl, .inr ⟨rfl, differ⟩, ?_⟩
    simp only [SmartHive.Sms.post, Http.Headers.outline, List.map_cons, List.map_nil, agrees.legal,
      SmartHive.Account.withKey]
  · cases context.reading SmartHive.Sms.name Json.parse accepted.body with
    | error fault => exact .finish _
    | ok document => exact .say _ (.finish _)

end SmartHive

end Providers

-----------------------------------------------------------------------------------------
-- The desk
-----------------------------------------------------------------------------------------

def Settings.withKeys (settings : Settings) (termii smarthive : ApiKey) : Settings where
  application := settings.application
  logger := settings.logger
  http := settings.http
  defaults := settings.defaults
  termii := settings.termii.withKey termii
  smarthive := settings.smarthive.withKey smarthive

namespace Desk

def withKeys (desk : Desk) (termii smarthive : ApiKey) : Desk :=
  { desk with settings := desk.settings.withKeys termii smarthive }

theorem dispatch_alike {desk other : Desk} {provider also : Provider} {sameMask : Prop}
    (mode : other.dryRun = desk.dryRun) (alike : provider.Alike sameMask also)
    (masks : desk.dryRun = true → sameMask) (message : Message)
    : (desk.dispatch provider message).Alike (Told desk.dryRun) (other.dispatch also message) := by
  rw [dispatch, dispatch, mode, alike.check, alike.name]
  cases real : desk.dryRun with
  | true =>
      rw [if_pos rfl, if_pos rfl, alike.preview (masks real)]
      refine (Job.Alike.finish _).bind fun _ => (Job.Alike.finish _).bind fun body => ?_
      exact .say _ (.finish _)
  | false =>
      rw [if_neg Bool.false_ne_true, if_neg Bool.false_ne_true]
      have send := (alike.send message).weaken fun _ _ rekeyed => (⟨rfl, rekeyed⟩ : Told false _ _)
      exact send.bind fun delivery => .say _ (.finish _)

/-- A batch of steps whose providers are alike goes on alike, by induction on the steps. -/
theorem batch_alike {desk other : Desk} {sameMask : Prop} (mode : other.dryRun = desk.dryRun)
    (masks : desk.dryRun = true → sameMask) {steps also : List (Provider × Message)}
    (alike
      : List.Forall₂ (fun step other => step.1.Alike sameMask other.1 ∧ step.2 = other.2)
          steps also)
    : (desk.batch steps).Alike (Told desk.dryRun) (other.batch also) := by
  induction alike with
  | nil => exact .finish _
  | @cons step counterpart _ _ first _ ih =>
      obtain ⟨alike, message⟩ := first
      have dispatch := (dispatch_alike mode alike masks step.2).attempt
      refine .bind ?_ fun failed => ih.bind fun others => .finish _
      rw [batchStep, batchStep, ← alike.name, ← message]
      refine .say _ (dispatch.bind fun result => ?_)
      cases result with
      | ok => exact .finish _
      | error failure => exact .say _ (.finish _)

/-- Other keys that no command of the desk shows: they agree with those of the settings, and in a
dry run the one that the preview masks has the same mask. -/
structure HidesKeys (desk : Desk) (termii smarthive : ApiKey) : Prop where
  termiiAgrees : desk.settings.termii.apiKey.Agrees termii
  smarthiveAgrees : desk.settings.smarthive.apiKey.Agrees smarthive
  mask : desk.dryRun = true → desk.settings.termii.apiKey.masked = termii.masked

section Commands

variable {desk : Desk} {termii smarthive : ApiKey} (hides : desk.HidesKeys termii smarthive)

include hides

theorem smsProvider_alike
    : desk.smsProvider.Alike (desk.settings.termii.apiKey.masked = termii.masked)
        (desk.withKeys termii smarthive).smsProvider :=
  Termii.Sms.provider_alike desk.context desk.settings.termii hides.termiiAgrees

theorem otpProvider_alike
    : desk.otpProvider.Alike (desk.settings.termii.apiKey.masked = termii.masked)
        (desk.withKeys termii smarthive).otpProvider :=
  Termii.Otp.provider_alike desk.context desk.settings.termii hides.termiiAgrees

theorem smartHiveProvider_alike (flash : Bool) (route : Option SmartHive.Route)
    : (desk.smartHiveProvider flash route).Alike
        (desk.settings.termii.apiKey.masked = termii.masked)
        ((desk.withKeys termii smarthive).smartHiveProvider flash route) := by
  have alike (account : SmartHive.Account) (agrees : account.apiKey.Agrees smarthive) :=
    SmartHive.Sms.provider_alike desk.context account agrees
      (desk.settings.termii.apiKey.masked = termii.masked)
  cases flash <;> cases route <;> exact alike _ hides.smarthiveAgrees

theorem sms_alike (asked : Option String) (text : String)
    : (desk.sms asked text).Alike (Told desk.dryRun)
        ((desk.withKeys termii smarthive).sms asked text) :=
  (Job.Alike.finish (desk.recipient asked)).bind fun _ =>
    dispatch_alike rfl (smsProvider_alike hides) hides.mask _

theorem otp_alike (asked template : Option String)
    : (desk.otp asked template).Alike (Told desk.dryRun)
        ((desk.withKeys termii smarthive).otp asked template) :=
  (Job.Alike.finish (desk.recipient asked)).bind fun _ =>
    dispatch_alike rfl (otpProvider_alike hides) hides.mask _

theorem smarthive_alike (asked : Option String) (text : String) (flash : Bool)
    (route : Option SmartHive.Route)
    : (desk.smarthive asked text flash route).Alike (Told desk.dryRun)
        ((desk.withKeys termii smarthive).smarthive asked text flash route) :=
  (Job.Alike.finish (desk.recipient asked)).bind fun _ =>
    dispatch_alike rfl (smartHiveProvider_alike hides flash route) hides.mask _

theorem all_alike (asked : Option String)
    : (desk.all asked).Alike (Told desk.dryRun) ((desk.withKeys termii smarthive).all asked) := by
  refine (Job.Alike.finish (desk.recipient asked)).bind fun recipient => ?_
  have steps
      : List.Forall₂
          (fun step other =>
            step.1.Alike (desk.settings.termii.apiKey.masked = termii.masked) other.1
            ∧ step.2 = other.2)
          (desk.steps recipient) ((desk.withKeys termii smarthive).steps recipient) :=
    .cons ⟨smsProvider_alike hides, rfl⟩
      (.cons ⟨otpProvider_alike hides, rfl⟩
        (.cons ⟨smartHiveProvider_alike hides false none, rfl⟩ .nil))
  have batch : (desk.batch (desk.steps recipient)).Alike (Told desk.dryRun)
      ((desk.withKeys termii smarthive).batch ((desk.withKeys termii smarthive).steps recipient)) :=
    batch_alike rfl hides.mask steps
  refine batch.bind fun failed => .say _ ?_
  cases failed with
  | zero => exact .finish _
  | succ failed => exact .finish _

theorem verifyOtp_alike (pinId pin : String)
    : (desk.verifyOtp pinId pin).Alike (Told desk.dryRun)
        ((desk.withKeys termii smarthive).verifyOtp pinId pin) := by
  have checks := Termii.Otp.check_withKey desk.settings.termii hides.termiiAgrees
  have verify := Termii.Otp.verify_alike desk.context desk.settings.termii hides.termiiAgrees
    pinId pin
  cases mode : desk.dryRun with
  | true =>
      have preview : Termii.Otp.verifyPreview desk.settings.termii pinId pin
          = Termii.Otp.verifyPreview (desk.settings.termii.withKey termii) pinId pin := by
        rw [Termii.Otp.verifyPreview, hides.mask mode]
        rfl
      simp only [verifyOtp, mode, if_true, withKeys, Settings.withKeys, checks, preview]
      exact (Job.Alike.finish _).bind fun _ => .say _ (.finish _)
  | false =>
      simp only [verifyOtp, mode, withKeys, Settings.withKeys, Bool.false_eq_true, if_false]
      have told := verify.weaken fun _ _ rekeyed => (⟨rfl, rekeyed⟩ : Told false _ _)
      exact told.bind fun verification => .say _ (.finish _)

end Commands

end Desk

end Courier
