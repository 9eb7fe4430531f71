import Courier.Proofs.Dispatch.Classification
import Courier.Proofs.Json.Records

/-! What becomes of confirmations. A pin is confirmed only by an accepted answer that says `true` of
it, once and literally; every other answer is a failure that tells what was wrong with it.
-/

namespace Courier.Termii.Otp

open Courier.Http (Accepted Client Ending Network Request Settled Strands ending isSuccess)
open Courier.Http.Client (redirectLimit unmakeable)
open Courier.Json (IsObject Member Reader WellFormed valuesOf)
open Courier.Json.Reader (Accepting Fits IsOptionalText WholeFields fill taken)
open Courier.Text (dropTrailing isBlankText)

-----------------------------------------------------------------------------------------
-- Verdicts
-----------------------------------------------------------------------------------------

namespace Verdict

/-- A text that decodes to a verdict which says that the pin is right. -/
def Affirms (text : String) : Prop :=
  ∃ verdict, read.run text = .ok verdict ∧ verdict.verified = .bool true

/-- Members that confirm a pin: the literal `true`, once, and beside it at most one text or null for
the pin's name and one for the number. -/
structure Confirms (members : List Member) : Prop where
  named (member : Member) : member ∈ members → ∃ name, member.name = .ok name
  verified : valuesOf "verified" members = [[.word .true none]]
  pinId : Fits IsOptionalText (valuesOf "pinId" members)
  msisdn : Fits IsOptionalText (valuesOf "msisdn" members)

/-- Why a value of a verdict is not `true`. -/
inductive Explains : Json → String → Prop
  | string (s : String) : Explains (.string s) s
  | null : Explains .null "no verification status returned"
  | other {value : Json} (untext : ∀ s, value ≠ .string s) (given : value ≠ .null)
    : Explains value value.compact

theorem explains_iff (verdict : Verdict) (reason : String)
    : Explains verdict.verified reason ↔ reason = verdict.reason := by
  rw [Verdict.reason]
  constructor
  · intro explains
    cases verified : verdict.verified <;> rw [verified] at explains <;> cases explains <;> simp_all
  · rintro rfl
    split
    · next s verified => exact verified ▸ .string s
    · next verified => exact verified ▸ .null
    · next untext given => exact .other untext given

theorem isVerified_iff (verdict : Verdict)
    : verdict.isVerified = true ↔ verdict.verified = .bool true := by
  rw [isVerified]
  cases verdict.verified <;> simp [Json.isTrue]

def pinIdField : Reader.Field Verdict :=
  ⟨"pinId", fun r => (Reader.optional Reader.string).map fun v => { r with pinId := v }⟩

def verifiedField : Reader.Field Verdict :=
  ⟨"verified", fun r => (Reader.value 1).map fun v => { r with verified := v }⟩

def msisdnField : Reader.Field Verdict :=
  ⟨"msisdn", fun r => (Reader.optional Reader.string).map fun v => { r with msisdn := v }⟩

def fields : List (Reader.Field Verdict) := [pinIdField, verifiedField, msisdnField]

theorem cases_of_find? {name : String} {field : Reader.Field Verdict}
    (known : Reader.Field.find? fields name = some field)
    : name = "pinId" ∧ field = pinIdField
      ∨ name = "verified" ∧ field = verifiedField
      ∨ name = "msisdn" ∧ field = msisdnField := by
  obtain ⟨among, named⟩ := Reader.Field.of_find? known
  simp only [fields, List.mem_cons, List.not_mem_nil, or_false] at among
  rcases among with rfl | rfl | rfl
  · exact .inl ⟨named.symm, rfl⟩
  · exact .inr (.inl ⟨named.symm, rfl⟩)
  · exact .inr (.inr ⟨named.symm, rfl⟩)

theorem wholeFields : WholeFields fields := by
  intro name field known s
  rcases cases_of_find? known with ⟨-, rfl⟩ | ⟨-, rfl⟩ | ⟨-, rfl⟩
  · exact Reader.whole_string.optional.map fun v => { s with pinId := v }
  · exact (Reader.whole_value 1).map fun v => { s with verified := v }
  · exact Reader.whole_string.optional.map fun v => { s with msisdn := v }

/-- The values that the fields of a verdict accept. -/
def accepts (name : String) (ts : List Json.Token) : Prop :=
  if name = "verified" then (taken (Reader.value 1) ts).isOk = true else IsOptionalText ts

theorem accepting : Accepting fields accepts := by
  intro name field known s ts formed
  rcases cases_of_find? known with ⟨rfl, rfl⟩ | ⟨rfl, rfl⟩ | ⟨rfl, rfl⟩
  · rw [pinIdField, Reader.isOk_taken_map]
    exact Reader.optional_string_isOk_iff formed
  · rw [verifiedField, Reader.isOk_taken_map]
    rfl
  · rw [msisdnField, Reader.isOk_taken_map]
    exact Reader.optional_string_isOk_iff formed

/-- What members say of the pin is the value of the verdict, and null if they say nothing. -/
theorem verified_of_fills {members : List Member} {out : Reader.Filled Verdict}
    (fills : members.foldlM (fill fields) ⟨⟨none, .null, none⟩, []⟩ = .ok out)
    : match (valuesOf "verified" members).getLast? with
      | none => out.value.verified = .null
      | some ts => taken (Reader.value 1) ts = .ok out.value.verified := by
  refine Reader.held_of_foldlM_fill Verdict.verified "verified"
    (fun ts value => taken (Reader.value 1) ts = .ok value) ?_ ?_ rfl fills
  · intro field known s s' ts reads
    obtain rfl : verifiedField = field := Option.some.inj known
    rw [verifiedField, Reader.taken_map, map_eq_ok_iff] at reads
    obtain ⟨value, taken, rfl⟩ := reads
    exact taken
  · intro other field known differs s s' ts reads
    rcases cases_of_find? known with ⟨-, rfl⟩ | ⟨same, -⟩ | ⟨-, rfl⟩
    · rw [pinIdField, Reader.taken_map, map_eq_ok_iff] at reads
      obtain ⟨value, -, rfl⟩ := reads
      rfl
    · exact absurd same differs
    · rw [msisdnField, Reader.taken_map, map_eq_ok_iff] at reads
      obtain ⟨value, -, rfl⟩ := reads
      rfl

section Objects

variable {text : String} {members : List Member}

/-- The reading of a verdict that is written as an object succeeds when its members fill it. -/
theorem run_eq_ok_iff (object : IsObject text members) (verdict : Verdict)
    : read.run text = .ok verdict
      ↔ ∃ out,
        members.foldlM (fill fields) ⟨⟨none, .null, none⟩, []⟩ = .ok out
        ∧ out.value = verdict := by
  have run := Reader.run_record_of_isObject wholeFields object ⟨none, .null, none⟩
  exact (Eq.congr_left run).trans map_eq_ok_iff

/-- An object affirms a pin exactly when its members confirm it. -/
theorem affirms_iff_confirms (object : IsObject text members)
    : Affirms text ↔ Confirms members := by
  have filled_iff := Reader.foldlM_fill_start_iff accepting object.formed ⟨none, .null, none⟩
  constructor
  · rintro ⟨verdict, reads, affirms⟩
    obtain ⟨out, fills, rfl⟩ := (run_eq_ok_iff object verdict).mp reads
    obtain ⟨named, fits⟩ := filled_iff.mp ⟨out, fills⟩
    have held := verified_of_fills fills
    have literal : valuesOf "verified" members = [[.word .true none]] := by
      rcases fits "verified" rfl with none | ⟨ts, accepted, one⟩
      · rw [none] at held
        exact absurd (held.symm.trans affirms) nofun
      · have formed : WellFormed ts :=
          Json.wellFormed_of_valuesOf object.formed (by rw [one]; exact List.mem_singleton_self ts)
        rw [one, List.getLast?_singleton] at held
        rw [one, (Reader.taken_value_eq_true_iff 1 formed).mp (affirms ▸ held)]
    exact ⟨named, literal, fits "pinId" rfl, fits "msisdn" rfl⟩
  · intro confirms
    have truth : taken (Reader.value 1) [.word .true none] = .ok (.bool true) := rfl
    have fits (name : String) (known : (Reader.Field.find? fields name).isSome = true)
        : Fits (accepts name) (valuesOf name members) := by
      obtain ⟨field, found⟩ := Option.isSome_iff_exists.mp known
      rcases cases_of_find? found with ⟨rfl, -⟩ | ⟨rfl, -⟩ | ⟨rfl, -⟩
      · exact confirms.pinId
      · exact .inr ⟨_, congrArg Except.isOk truth, confirms.verified⟩
      · exact confirms.msisdn
    obtain ⟨out, fills⟩ := filled_iff.mpr ⟨confirms.named, fits⟩
    have held := verified_of_fills fills
    rw [confirms.verified, List.getLast?_singleton] at held
    exact ⟨out.value, (run_eq_ok_iff object _).mpr ⟨out, fills, rfl⟩,
      (Except.ok.inj (truth.symm.trans held)).symm⟩

/-- Where no member says anything of the pin, the verdict holds null. -/
theorem verified_of_unsaid (object : IsObject text members)
    (unsaid : valuesOf "verified" members = []) {verdict : Verdict}
    (reads : read.run text = .ok verdict)
    : verdict.verified = .null := by
  obtain ⟨out, fills, rfl⟩ := (run_eq_ok_iff object verdict).mp reads
  have held := verified_of_fills fills
  rwa [unsaid] at held

end Objects

end Verdict

-----------------------------------------------------------------------------------------
-- Confirmations
-----------------------------------------------------------------------------------------

/-- The result of a confirmation, told from the ending of its requests. -/
structure Confirmed (context : Context) (pinId : String) (ending : Ending)
    (result : Except Failure Verification)
    : Prop where
  verified (verification : Verification)
    : result = .ok verification
      ↔ ∃ status text verdict,
        ending = .whole status text
        ∧ (200 ≤ status ∧ status ≤ 299)
        ∧ Verdict.read.run text = .ok verdict
        ∧ verdict.verified = .bool true
        ∧ verification = ⟨verdict.pinId.getD pinId, true, verdict.msisdn⟩
  unanswered : (∃ causes, result = .error (.transport name causes)) ↔ ending = .lost
  refused (status : Nat) (text : String)
    : result = .error (.status name status text)
      ↔ ending = .whole status text ∧ ¬ (200 ≤ status ∧ status ≤ 299)
  malformed (status : Nat) (text : String) (fault : Json.Fault) (words : String)
    : result = .error (.malformed name status text ⟨fault, words⟩)
      ↔ ending = .whole status text
        ∧ (200 ≤ status ∧ status ≤ 299)
        ∧ Verdict.read.run text = .error fault
        ∧ words = context.wording name text fault
  rejected (named reason : String)
    : result = .error (.rejected named reason)
      ↔ named = pinId
        ∧ ∃ status text verdict,
          ending = .whole status text
          ∧ (200 ≤ status ∧ status ≤ 299)
          ∧ Verdict.read.run text = .ok verdict
          ∧ verdict.verified ≠ .bool true
          ∧ Verdict.Explains verdict.verified reason

/-- The conclusion that is drawn from an accepted answer: its verdict is told and recorded. -/
def conclude (context : Context) (pinId : String) (accepted : Accepted) : Job Verification :=
  match context.reading name Verdict.read.run accepted.body with
  | .error fault => .fail (.malformed name accepted.status accepted.body fault)
  | .ok verdict =>
    if verdict.isVerified then do
      Job.record ⟨.info, place, "OTP verified", [("pin_id", .text pinId)]⟩
      return ⟨verdict.pinId.getD pinId, verdict.isVerified, verdict.msisdn⟩
    else do
      Job.record
        ⟨.warn, place, "OTP not verified",
          [("pin_id", .text pinId), ("reason", .text verdict.reason)]⟩
      Job.fail (.rejected pinId verdict.reason)

/-- What a conclusion comes to. -/
def concluded (context : Context) (pinId : String) (accepted : Accepted)
    : Except Failure Verification :=
  match context.reading name Verdict.read.run accepted.body with
  | .error fault => .error (.malformed name accepted.status accepted.body fault)
  | .ok verdict =>
    if verdict.isVerified then .ok ⟨verdict.pinId.getD pinId, verdict.isVerified, verdict.msisdn⟩
    else .error (.rejected pinId verdict.reason)

theorem result_conclude (context : Context) (pinId : String) (accepted : Accepted)
    (network : Network) (past : List Request)
    : ((conclude context pinId accepted).outcome network past).1
      = concluded context pinId accepted := by
  rw [conclude, concluded]
  cases context.reading name Verdict.read.run accepted.body with
  | error fault => rfl
  | ok verdict =>
      dsimp only
      split <;> rfl

theorem conclude_abides (context : Context) (pinId : String) (accepted : Accepted)
    : (conclude context pinId accepted).Abides .concluding := by
  rw [conclude]
  cases context.reading name Verdict.read.run accepted.body with
  | error fault => exact .fail rfl
  | ok verdict =>
      dsimp only
      split
      · exact .say rfl (.done _)
      · exact .say rfl (.fail rfl)

/-- A post that is settled by its ending is confirmed by it, whatever its answer reads as. -/
theorem confirmed_of_settled {ending : Ending} {posted : Except Failure Accepted}
    (settled : Settled name ending posted) (context : Context) (pinId : String)
    : Confirmed context pinId ending (posted >>= concluded context pinId) := by
  have success_iff := Http.isSuccess_iff
  cases settled with
  | @accepted status text success =>
      simp only [bind, Except.bind, concluded, Context.reading]
      cases reads : Verdict.read.run text with
      | error fault =>
          simp only [Except.mapError]
          constructor <;> grind
      | ok verdict =>
          have affirms_iff := verdict.isVerified_iff
          simp only [Except.mapError]
          by_cases verified : verdict.isVerified = true
          · rw [if_pos verified, verified]
            constructor <;> grind
          · rw [if_neg verified]
            refine ⟨by grind, by grind, by grind, by grind, fun named reason => ?_⟩
            constructor
            · intro fails
              cases fails
              exact ⟨rfl, status, text, verdict, rfl, (success_iff status).mp success, reads,
                mt affirms_iff.mpr verified, (verdict.explains_iff _).mpr rfl⟩
            · rintro ⟨rfl, status, text, other, whole, -, same, -, explains⟩
              cases whole
              obtain rfl : verdict = other := Except.ok.inj (reads.symm.trans same)
              rw [(verdict.explains_iff reason).mp explains]
  | refused unsuccessful =>
      simp only [bind, Except.bind]
      constructor <;> grind
  | lost causes =>
      simp only [bind, Except.bind]
      constructor <;> grind

/-- What a confirmation comes to that is posted to an address. -/
structure Conducted (context : Context) (pinId address : String)
    (outcome : Except Failure Verification × Trace)
    : Prop where
  unmade
    : ¬ Client.Requestable address
      → outcome.1 = .error (unmakeable name (Client.addressCauses address))
        ∧ outcome.2.exchanges = []
  confirmed
    : Client.Requestable address
      → ¬ Strands redirectLimit outcome.2.exchanges
      → Confirmed context pinId (ending outcome.2.exchanges) outcome.1

/-- A confirmation that passes the checks is a post whose answer is concluded. -/
theorem verify_eq_conclude {account : Account} (context : Context) {pinId pin : String}
    (checked : check account = .ok ()) (named : isBlankText pinId = false)
    (given : isBlankText pin = false)
    : verify account context pinId pin
      = context.client.post (verifyPost account pinId pin) >>= conclude context pinId := by
  simp only [verify, checked, checkGiven, named, given, Job.ofExcept, Bool.false_eq_true, if_false,
    Job.finish_ok_bind]
  rfl

theorem verify_conducted {account : Account} (context : Context) {pinId pin : String}
    (network : Network) (past : List Request) (checked : check account = .ok ())
    (named : isBlankText pinId = false) (given : isBlankText pin = false)
    : Conducted context pinId (dropTrailing '/' account.baseUrl ++ "/api/sms/otp/verify")
        ((verify account context pinId pin).outcome network past) := by
  have judged : Client.Judged (verifyPost account pinId pin) (concluded context pinId)
      ((verify account context pinId pin).outcome network past) := by
    rw [verify_eq_conclude context checked named given]
    exact Client.post_judged (by simp [verifyPost])
      (fun accepted past => result_conclude context pinId accepted network past)
      (conclude_abides context pinId) fun _ => id
  have address : (verifyPost account pinId pin).url
      = dropTrailing '/' account.baseUrl ++ "/api/sms/otp/verify" :=
    account.endpoint_eq (by decide)
  rw [← address]
  refine ⟨judged.unmade, fun can afloat => ?_⟩
  obtain ⟨posted, settled, ends⟩ := judged.settled can afloat
  rw [ends]
  exact confirmed_of_settled settled context pinId

/-- An object ends a confirmation as its members say: with success if they confirm the pin, and
with a reason of its own if none of them speaks of it. -/
structure Confirmed.Object (ending : Ending) (result : Except Failure Verification) (text : String)
    (members : List Member) : Prop where
  isOk_iff (status : Nat)
    : ending = .whole status text
      → (result.isOk = true ↔ (200 ≤ status ∧ status ≤ 299) ∧ Verdict.Confirms members)
  unsaid (status : Nat) (named reason : String)
    : ending = .whole status text
      → valuesOf "verified" members = []
      → result = .error (.rejected named reason)
      → reason = "no verification status returned"

theorem Confirmed.object {context : Context} {pinId text : String} {ending : Ending}
    {result : Except Failure Verification} {members : List Member}
    (confirmed : Confirmed context pinId ending result) (object : IsObject text members)
    : Confirmed.Object ending result text members := by
  constructor
  · intro status whole
    rw [← Verdict.affirms_iff_confirms object]
    constructor
    · intro succeeds
      obtain ⟨verification, ends⟩ := isOk_iff_exists.mp succeeds
      obtain ⟨_, _, verdict, same, range, reads, affirms, -⟩ :=
        (confirmed.verified verification).mp ends
      cases whole.symm.trans same
      exact ⟨range, verdict, reads, affirms⟩
    · rintro ⟨range, verdict, reads, affirms⟩
      have ends := (confirmed.verified _).mpr
        ⟨status, text, verdict, whole, range, reads, affirms, rfl⟩
      rw [ends]
      rfl
  · intro status named reason whole unsaid fails
    obtain ⟨-, _, _, verdict, same, -, reads, -, explains⟩ :=
      (confirmed.rejected named reason).mp fails
    cases whole.symm.trans same
    rw [Verdict.verified_of_unsaid object unsaid reads] at explains
    cases explains with
    | null => rfl
    | other untext given => exact absurd rfl given

/-- Every confirmation that passes the local checks succeeds exactly when its requests end with an
accepted answer that decodes and holds `true`, and fails as the ending says otherwise, unless no
request can be made to the configured address: then nothing is sent. An object decodes so exactly
when its members confirm the pin. -/
theorem verify_classified (account : Account) (context : Context) (pinId pin : String)
    (checked : check account = .ok ()) (named : isBlankText pinId = false)
    (given : isBlankText pin = false) (network : Network) (past : List Request)
    : let address := dropTrailing '/' account.baseUrl ++ "/api/sms/otp/verify"
      let ran := (verify account context pinId pin).outcome network past
      Conducted context pinId address ran
      ∧ (Client.Requestable address
        → ¬ Strands redirectLimit ran.2.exchanges
        → ∀ text members,
          IsObject text members
          → Confirmed.Object (ending ran.2.exchanges) ran.1 text members) := by
  intro address ran
  have conducted : Conducted context pinId address ran :=
    verify_conducted context network past checked named given
  exact ⟨conducted, fun can afloat text members => (conducted.confirmed can afloat).object⟩

section Runs

/-- What becomes of a confirmation to an address with a blank after it. -/
def spacedVerify : Except Failure Verification × Trace :=
  (verify spacedAccount ⟨⟨"agent"⟩, "234", .short⟩ "pin-1" "1234").outcome accepting []

/-- An object in which the pin is said to be right, once and literally, with a further member whose
name is a string of the grammar which spells no text. -/
def surrogateText : String := "\x7b\"verified\":true,\"\\ud800\":true\x7d"

def surrogateMembers : List Member :=
  [⟨.ok "verified", [.word .true none]⟩, ⟨.error .malformed, [.word .true none]⟩]

/-- A confirmation can pass the checks and fail before anything is sent, and an object can say
`true` once and say nothing else of the pin, and not decode. -/
theorem spacedVerify_unconfirmed
    : (check spacedAccount = .ok ()
        ∧ spacedVerify.1
          = .error (.configuration name
            (.texts
              ["Failed to build request", "builder error", "invalid international domain name"]))
        ∧ spacedVerify.2.exchanges = []
        ∧ ¬ Confirmed ⟨⟨"agent"⟩, "234", .short⟩ "pin-1" (ending spacedVerify.2.exchanges)
            spacedVerify.1)
      ∧ (IsObject surrogateText surrogateMembers
        ∧ valuesOf "verified" surrogateMembers = [[.word .true none]]
        ∧ valuesOf "pinId" surrogateMembers = []
        ∧ valuesOf "msisdn" surrogateMembers = []
        ∧ ¬ Verdict.Affirms surrogateText) := by
  constructor
  · have checked : check spacedAccount = .ok () := by decide +kernel
    have conducted : Conducted ⟨⟨"agent"⟩, "234", .short⟩ "pin-1" _ spacedVerify :=
      verify_conducted ⟨⟨"agent"⟩, "234", .short⟩ accepting [] checked (by decide) (by decide)
    obtain ⟨fails, unsent⟩ := conducted.unmade (by decide +kernel)
    have causes
        : Client.addressCauses (dropTrailing '/' spacedAccount.baseUrl ++ "/api/sms/otp/verify")
          = ["builder error", "invalid international domain name"] := by
      decide +kernel
    rw [unmakeable, causes] at fails
    refine ⟨checked, fails, unsent, fun confirmed => ?_⟩
    obtain ⟨causes, transport⟩ := confirmed.unanswered.mpr (congrArg ending unsent)
    cases fails.symm.trans transport
  · have object : IsObject surrogateText surrogateMembers := by
      refine ⟨rfl, ?_⟩
      simp only [surrogateMembers, List.forall_mem_cons]
      exact ⟨.word .true, .word .true, List.forall_mem_nil _⟩
    have unread : (Verdict.read.run surrogateText).isOk = false := by decide +kernel
    refine ⟨object, rfl, rfl, rfl, ?_⟩
    rintro ⟨verdict, reads, -⟩
    rw [reads] at unread
    cases unread

/-- A server that confirms every pin. -/
def confirming : Network := fun _ _ =>
  .answer ⟨200, [], some "\x7b\"verified\":true,\"pinId\":null\x7d".toUTF8.toList⟩

/-- Without the blank the pin is confirmed. -/
theorem verify_classified_confirming
    : let account := { spacedAccount with baseUrl := "http://provider" }
      let address := dropTrailing '/' account.baseUrl ++ "/api/sms/otp/verify"
      let ran := (verify account ⟨⟨"agent"⟩, "234", .short⟩ "pin-1" "1234").outcome confirming []
      let members : List Member :=
        [⟨.ok "verified", [.word .true none]⟩, ⟨.ok "pinId", [.word .null none]⟩]
      (check account = .ok () ∧ isBlankText "pin-1" = false ∧ isBlankText "1234" = false)
      ∧ Client.Requestable address
      ∧ ¬ Strands redirectLimit ran.2.exchanges
      ∧ IsObject "\x7b\"verified\":true,\"pinId\":null\x7d" members
      ∧ Verdict.Confirms members
      ∧ ran.1.isOk = true := by
  intro account address ran members
  have checked : check account = .ok () := by decide +kernel
  have can : Client.Requestable address := by decide +kernel
  have evaluated
      : (decide (Strands redirectLimit ran.2.exchanges), ending ran.2.exchanges)
        = (false, .whole 200 "\x7b\"verified\":true,\"pinId\":null\x7d") := by
    decide +kernel
  obtain ⟨stranded, whole⟩ := Prod.mk.inj evaluated
  have afloat : ¬ Strands redirectLimit ran.2.exchanges := of_decide_eq_false stranded
  have object : IsObject "\x7b\"verified\":true,\"pinId\":null\x7d" members := by
    refine ⟨rfl, ?_⟩
    simp only [members, List.forall_mem_cons]
    exact ⟨.word .true, .word .null, List.forall_mem_nil _⟩
  have confirms : Verdict.Confirms members := by
    refine ⟨?_, rfl, .inr ⟨_, .inl rfl, rfl⟩, .inl rfl⟩
    simp only [members, List.forall_mem_cons]
    exact ⟨⟨_, rfl⟩, ⟨_, rfl⟩, List.forall_mem_nil _⟩
  obtain ⟨_, objects⟩ := verify_classified account ⟨⟨"agent"⟩, "234", .short⟩ "pin-1" "1234" checked
    (by decide) (by decide) confirming []
  have succeeds := ((objects can afloat _ members object).isOk_iff 200 whole).mpr
    ⟨by decide, confirms⟩
  exact ⟨⟨checked, by decide, by decide⟩, can, afloat, object, confirms, succeeds⟩

end Runs

end Courier.Termii.Otp
