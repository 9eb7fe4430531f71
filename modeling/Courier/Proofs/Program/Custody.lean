import Courier.Proofs.Http.Custody
import Courier.Proofs.Program.ExitCode
import Courier.Proofs.Program.WireFormat
import Courier.Proofs.Url.Origin

/-! Keys and the servers of their providers. Every command takes the keys of its settings to the
servers at the addresses beside them, whatever it is answered, as long as no answer leads a request
that passes its key on to another server.
-/

namespace Courier

open Courier.Http (Client Network Post Request Strays)
open Courier.Text (dropTrailing)

variable {α : Type}

/-- The owner of a key that is used at an address. -/
def KeyOwner.of (key : ApiKey) (baseUrl : String) : KeyOwner :=
  ⟨key.secret, (Url.parse? baseUrl).map Url.origin⟩

/-- The owners of the keys of settings: one provider takes its key in the document, the other one in
a header. -/
def Settings.owners (settings : Settings) : KeyPlace → KeyOwner
  | .member => .of settings.termii.apiKey settings.termii.baseUrl
  | .header => .of settings.smarthive.apiKey settings.smarthive.baseUrl

-----------------------------------------------------------------------------------------
-- The calls of the providers
-----------------------------------------------------------------------------------------

/-- A post to a path of the server at an address goes to that server, whose keys it carries. -/
theorem Fit.atHome {key : ApiKey} {sender baseUrl path : String} {request : Request}
    {keys : List String} {document : Json} {owners : KeyPlace → KeyOwner}
    (fit : Fit key sender baseUrl) (isPath : Url.IsPath path.toList)
    (posts : request.Posts (dropTrailing '/' baseUrl ++ path) keys document)
    (member
      : ∀ carried ∈ document.key?, carried = key.secret ∧ owners .member = .of key baseUrl)
    (header : ∀ carried ∈ keys, carried = key.secret ∧ owners .header = .of key baseUrl)
    : request.AtHome owners := by
  obtain ⟨home, parsed, web⟩ := fit.address
  obtain ⟨url, endpoint, _⟩ := posts.url
  have origin : url.origin = home.origin :=
    Url.origin_endpoint isPath parsed (home.isHttp_iff.mpr web) endpoint
  have owner : KeyOwner.of key baseUrl = ⟨key.secret, some url.origin⟩ := by
    rw [KeyOwner.of, parsed, Option.map_some, origin]
  refine posts.atHome endpoint (fun carried among => ?_) (fun carried among => ?_)
  · obtain ⟨rfl, owned⟩ := member carried among
    exact owned.trans owner
  · obtain ⟨rfl, owned⟩ := header carried among
    exact owned.trans owner

theorem Calls.chained {client : Client} {prepared : Except Failure Post} {job : Job α}
    {wanted : Request → Prop} (calls : Calls client prepared job)
    (each : ∀ post, prepared = .ok post
      → ∀ request, client.request? post = some request → wanted request)
    : job.Chained wanted := by
  cases calls with
  | refused failure => exact .finish _
  | @posted post later concludes =>
      exact (Client.post_chained (each post rfl)).bind fun accepted =>
        (concludes accepted).chained fun _ => id

section Providers

variable {owners : KeyPlace → KeyOwner} (context : Context) (message : Message)

section Termii

variable {account : Termii.Account} (owned : owners .member = .of account.apiKey account.baseUrl)

include owned

theorem Termii.Sms.send_chained
    : (Termii.Sms.send account context message).Chained (Request.AtHome owners) := by
  refine (send_calls account context message).chained fun post prepared request made => ?_
  obtain ⟨fit, number, _, posts⟩ := posts_of_prepare prepared made
  refine fit.atHome (by decide) posts ?_ (by simp)
  simp [document, Json.key?, Json.get?, owned]

theorem Termii.Otp.send_chained
    : (Termii.Otp.send account context message).Chained (Request.AtHome owners) := by
  refine (send_calls account context message).chained fun post prepared request made => ?_
  obtain ⟨fit, number, _, posts⟩ := posts_of_prepare prepared made
  refine fit.atHome (by decide) posts ?_ (by simp)
  simp [document, Json.key?, Json.get?, owned]

theorem Termii.Otp.verify_chained (pinId pin : String)
    : (Termii.Otp.verify account context pinId pin).Chained (Request.AtHome owners) := by
  refine (verify_calls account context pinId pin).chained fun post prepared request made => ?_
  obtain ⟨fit, posts⟩ := posts_of_prepareVerify prepared made
  refine fit.atHome (by decide) posts ?_ (by simp)
  simp [verifyDocument, Json.key?, Json.get?, owned]

end Termii

theorem SmartHive.Sms.send_chained {account : SmartHive.Account}
    (owned : owners .header = .of account.apiKey account.baseUrl)
    : (SmartHive.Sms.send account context message).Chained (Request.AtHome owners) := by
  refine (send_calls account context message).chained fun post prepared request made => ?_
  obtain ⟨fit, number, _, posts⟩ := posts_of_prepare prepared made
  refine fit.atHome (by decide) posts ?_ (by simp [owned])
  simp [document, Json.key?, Json.get?]

end Providers

-----------------------------------------------------------------------------------------
-- Commands
-----------------------------------------------------------------------------------------

namespace Desk

variable (desk : Desk)

theorem dispatch_chained {provider : Provider} {message : Message} {wanted : Request → Prop}
    (chained : (provider.send message).Chained wanted)
    : (desk.dispatch provider message).Chained wanted := by
  rw [dispatch]
  split
  · exact .check fun _ _ => .check fun body _ => .say _ (.finish _)
  · exact chained.bind fun delivery => .say _ (.finish _)

/-- A batch makes the requests of its steps, by induction on the steps. -/
theorem batch_chained {wanted : Request → Prop} {steps : List (Provider × Message)}
    (chained : ∀ step ∈ steps, (desk.dispatch step.1 step.2).Chained wanted)
    : (desk.batch steps).Chained wanted := by
  induction steps with
  | nil => exact .finish _
  | cons step steps ih =>
      have first : (desk.batchStep step.1 step.2).Chained wanted := by
        refine .say _ ((chained step List.mem_cons_self).attempt.bind fun result => ?_)
        cases result with
        | ok => exact .finish _
        | error failure => exact .say _ (.finish _)
      have others := ih fun later among => chained later (List.mem_cons_of_mem step among)
      exact first.bind fun failed => others.bind fun others => .finish _

theorem smarthive_chained (message : Message) (flash : Bool) (route : Option SmartHive.Route)
    : (desk.dispatch (desk.smartHiveProvider flash route) message).Chained
        (Request.AtHome desk.settings.owners) := by
  rw [smartHiveProvider_eq]
  exact desk.dispatch_chained (SmartHive.Sms.send_chained desk.context message rfl)

theorem steps_chained (recipient : String)
    : ∀ step ∈ desk.steps recipient,
        (desk.dispatch step.1 step.2).Chained (Request.AtHome desk.settings.owners) := by
  intro step among
  simp only [steps, List.mem_cons, List.not_mem_nil, or_false] at among
  rcases among with rfl | rfl | rfl
  · exact desk.dispatch_chained (Termii.Sms.send_chained desk.context _ rfl)
  · exact desk.dispatch_chained (Termii.Otp.send_chained desk.context _ rfl)
  · exact desk.smarthive_chained _ false none

/-- The requests of a command are those that take the keys of its settings to the servers of their
providers, and those that these are redirected to. -/
theorem carryOut_chained (command : Command)
    : (desk.carryOut command).Chained (Request.AtHome desk.settings.owners) := by
  cases command with
  | sms asked text =>
      refine .check fun recipient _ => desk.dispatch_chained ?_
      exact Termii.Sms.send_chained desk.context _ rfl
  | otp asked template =>
      refine .check fun recipient _ => desk.dispatch_chained ?_
      exact Termii.Otp.send_chained desk.context _ rfl
  | verifyOtp pinId pin =>
      rw [carryOut, verifyOtp]
      split
      · exact .check fun _ _ => .say _ (.finish _)
      · exact (Termii.Otp.verify_chained desk.context rfl pinId pin).bind fun verification =>
          .say _ (.finish _)
  | smarthive asked text flash route =>
      exact .check fun recipient _ => desk.smarthive_chained _ flash route
  | all asked =>
      refine .check fun recipient _ => (desk.batch_chained (desk.steps_chained recipient)).bind ?_
      intro failed
      refine .say _ ?_
      split
      · exact .finish _
      · exact .finish _

end Desk

-----------------------------------------------------------------------------------------
-- Runs
-----------------------------------------------------------------------------------------

/-- Every key in the requests of a trace is its owner's and goes to the owner's server. -/
def Trace.KeepsKeys (trace : Trace) (owners : KeyPlace → KeyOwner) : Prop :=
  ∀ request ∈ trace.requests, request.AtHome owners

instance decidableKeepsKeys (trace : Trace) (owners : KeyPlace → KeyOwner)
    : Decidable (trace.KeepsKeys owners) :=
  inferInstanceAs (Decidable (∀ request ∈ trace.requests, request.AtHome owners))

theorem Trace.keepsKeys_iff_of_chained {trace : Trace} {owners : KeyPlace → KeyOwner}
    (chained : Http.Chained (Request.AtHome owners) trace.exchanges)
    : trace.KeepsKeys owners ↔ ¬ Strays trace.exchanges := by
  rw [← chained.atHome_iff, KeepsKeys, requests]
  simp only [List.forall_mem_map]

namespace Program

theorem execute_chained (line : CommandLine) (settings : Settings)
    : (execute line settings).Chained (Request.AtHome settings.owners) :=
  .check fun client _ => .say _
    (Desk.carryOut_chained ⟨settings, Context.make client settings, line.dryRun⟩ line.effective)

theorem carryOut_keepsKeys_iff (line : CommandLine) (settings : Settings) (disk : Disk)
    (network : Network) (stamp : String)
    : (carryOut line settings disk network stamp).trace.KeepsKeys settings.owners
      ↔ ¬ Strays (carryOut line settings disk network stamp).trace.exchanges := by
  refine Trace.keepsKeys_iff_of_chained ?_
  unfold carryOut
  cases settings.logger.setup with
  | error fault => exact Http.chained_nil
  | ok setup =>
      dsimp only
      cases Log.Journal.start setup disk with
      | error fault => exact Http.chained_nil
      | ok journal =>
          rw [leave_trace]
          exact execute_chained line settings network []

/-- The requests of a run take each key to the server at the address beside it, and so do those of a
command, exactly when no answer leads a request that passes its key on to another server. -/
theorem keepsKeys_iff (line : CommandLine) (settings : Settings) (disk : Disk) (stamp : String)
    (desk : Desk) (command : Command) (network : Network) (past : List Request)
    : ((carryOut line settings disk network stamp).trace.KeepsKeys settings.owners
        ↔ ¬ Strays (carryOut line settings disk network stamp).trace.exchanges)
      ∧ (((desk.carryOut command).outcome network past).2.KeepsKeys desk.settings.owners
        ↔ ¬ Strays ((desk.carryOut command).outcome network past).2.exchanges) := by
  constructor
  · exact carryOut_keepsKeys_iff line settings disk network stamp
  · exact Trace.keepsKeys_iff_of_chained (desk.carryOut_chained command network past)

/-- A network on which the first server sends a message on to another one, which accepts it. -/
def handingOn : Network := fun past _ =>
  if past.isEmpty then .answer ⟨307, [("location", "http://elsewhere/x")], some []⟩
  else .answer ⟨200, [], some "{}".toUTF8.toList⟩

def handedSettings : Settings :=
  { smarthive := { baseUrl := "http://provider", apiKey := ⟨"secret-key"⟩, sender := "Shop" } }

/-- What a message leaves on that network. -/
def handedRun : Result :=
  carryOut ⟨some (.smarthive (some "08108394272") "hi" false none), none, none, false, false, false⟩
    handedSettings Disk.start handingOn "now"

/-- A message that is reported as sent can have taken its key to a server that no setting names. -/
theorem handedRun_exposes
    : handedSettings.smarthive.check.isOk = true
      ∧ handedRun.exitCode = 0
      ∧ handedRun.trace.requests.map (fun asked => (asked.url.text, KeyPlace.header.keys asked))
        = [("http://provider/api/sms/send", ["secret-key"]),
          ("http://elsewhere/x", ["secret-key"])]
      ∧ ¬ handedRun.trace.KeepsKeys handedSettings.owners := by
  decide +kernel

end Program

end Courier
