import Courier.Proofs.Dispatch.WireFormat
import Courier.Proofs.Url.Paths

/-! The addresses of the providers. They are made by appending a path to the address that an account
has, and lead to that path on its server exactly when the address takes paths, which the check of
the account does not ask for. Slashes where the address and the path meet do not matter.
-/

namespace Courier

open Courier.Text (dropLeading dropTrailing)
open Courier.Url (IsPlain Leads TakesPath dropWhile_of_head? exists_parts)

-----------------------------------------------------------------------------------------
-- Slashes at the seam
-----------------------------------------------------------------------------------------

/-- So many slashes and nothing else. -/
def slashes (count : Nat) : String :=
  String.ofList (List.replicate count '/')

/-- Slashes before a text are dropped with those that it begins with. -/
theorem dropLeading_slashes (count : Nat) (text : String)
    : dropLeading '/' (slashes count ++ text) = dropLeading '/' text := by
  have dropped : ∀ c ∈ List.replicate count '/', (c == '/') = true := by
    simp
  rw [dropLeading, slashes, String.toList_append, String.toList_ofList,
    List.dropWhile_append_of_pos dropped, dropLeading]

/-- Slashes behind a text are dropped with those that it ends with. -/
theorem dropTrailing_slashes (text : String) (count : Nat)
    : dropTrailing '/' (text ++ slashes count) = dropTrailing '/' text := by
  have dropped : ∀ c ∈ List.replicate count '/', (c == '/') = true := by
    simp
  rw [dropTrailing, slashes, String.toList_append, String.toList_ofList, List.reverse_append,
    List.reverse_replicate, List.dropWhile_append_of_pos dropped, dropTrailing]

theorem dropLeading_eq_self {text : String} (unslashed : text.toList.head? ≠ some '/')
    : dropLeading '/' text = text := by
  have other : ∀ c ∈ text.toList.head?, (c == '/') = false := by
    intro c first
    exact beq_false_of_ne fun slash => unslashed (slash ▸ first)
  rw [dropLeading, dropWhile_of_head? other, String.ofList_toList]

theorem dropTrailing_eq_self {text : String} (unslashed : text.toList.getLast? ≠ some '/')
    : dropTrailing '/' text = text := by
  have other : ∀ c ∈ text.toList.reverse.head?, (c == '/') = false := by
    intro c last
    rw [List.head?_reverse] at last
    exact beq_false_of_ne fun slash => unslashed (slash ▸ last)
  rw [dropTrailing, dropWhile_of_head? other, List.reverse_reverse, String.ofList_toList]

/-- However many slashes an address ends with and a path begins with, one stands between the two.
Both providers append the path of messages to an address in the same way. -/
theorem seams_joined (termii : Termii.Account) (smarthive : SmartHive.Account)
    : (∀ (base path : String) (trailing leading : Nat),
        base.toList.getLast? ≠ some '/' → path.toList.head? ≠ some '/'
        → termii.baseUrl = base ++ slashes trailing
        → termii.endpoint (slashes leading ++ path) = base ++ "/" ++ path)
      ∧ (smarthive.baseUrl = termii.baseUrl
        → ∀ leading, smarthive.sendUrl = termii.endpoint (slashes leading ++ "api/sms/send")) := by
  constructor
  · intro base path trailing leading baseUnslashed pathUnslashed address
    rw [Termii.Account.endpoint, address, dropTrailing_slashes, dropTrailing_eq_self baseUnslashed,
      dropLeading_slashes, dropLeading_eq_self pathUnslashed]
  · intro same leading
    have unslashed : dropLeading '/' "api/sms/send" = "api/sms/send" := by decide
    rw [SmartHive.Account.sendUrl, same, Termii.Account.endpoint, dropLeading_slashes, unslashed,
      String.append_assoc]
    rfl

theorem seams_joined_doubled
    : let base := "https://api.example/v2"
      let termii : Termii.Account := { baseUrl := base ++ slashes 2 }
      let smarthive : SmartHive.Account := { baseUrl := base ++ slashes 2 }
      base.toList.getLast? ≠ some '/' ∧ "api/sms/otp/send".toList.head? ≠ some '/'
      ∧ termii.endpoint (slashes 3 ++ "api/sms/otp/send") = base ++ "/" ++ "api/sms/otp/send"
      ∧ smarthive.sendUrl = termii.endpoint (slashes 0 ++ "api/sms/send") := by
  intro base termii smarthive
  have baseUnslashed : base.toList.getLast? ≠ some '/' := by decide
  have pathUnslashed : "api/sms/otp/send".toList.head? ≠ some '/' := by decide
  obtain ⟨joins, agrees⟩ := seams_joined termii smarthive
  exact ⟨baseUnslashed, pathUnslashed, joins base _ 2 3 baseUnslashed pathUnslashed rfl,
    agrees rfl 0⟩

-----------------------------------------------------------------------------------------
-- Where addresses lead
-----------------------------------------------------------------------------------------

/-- The path of messages that SmartHive sends. -/
def SmartHive.path : String := "/api/sms/send"

/-- The addresses of posts, each with the path that it is to lead to. -/
def endpoints (termii : Termii.Account) (smarthive : SmartHive.Account) : List (String × String) :=
  [(termii.endpoint Termii.Sms.path, Termii.Sms.path),
    (termii.endpoint Termii.Otp.sendPath, Termii.Otp.sendPath),
    (termii.endpoint Termii.Otp.verifyPath, Termii.Otp.verifyPath),
    (smarthive.sendUrl, SmartHive.path)]

variable {termii : Termii.Account} {smarthive : SmartHive.Account}

theorem endpoints_eq (same : smarthive.baseUrl = termii.baseUrl)
    : endpoints termii smarthive
      = [Termii.Sms.path, Termii.Otp.sendPath, Termii.Otp.verifyPath, SmartHive.path].map
          fun path => (dropTrailing '/' termii.baseUrl ++ path, path) := by
  rw [endpoints, termii.endpoint_eq (by decide), termii.endpoint_eq (by decide),
    termii.endpoint_eq (by decide), SmartHive.Account.sendUrl, same]
  rfl

/-- The addresses made of an accepted address lead to their paths on its server exactly when it
takes paths. -/
theorem endpoints_lead_iff (field : String) (termii : Termii.Account)
    (smarthive : SmartHive.Account) (same : smarthive.baseUrl = termii.baseUrl)
    (accepted : checkBaseUrl field termii.baseUrl = .ok ())
    : ∃ home, Url.parse? termii.baseUrl = some home
      ∧ ((∀ endpoint ∈ endpoints termii smarthive, Leads home endpoint.1 endpoint.2)
        ↔ TakesPath termii.baseUrl) := by
  obtain ⟨home, parsed, web⟩ := (checkBaseUrl_eq_ok_iff field termii.baseUrl).mp accepted
  obtain ⟨parts⟩ := exists_parts parsed (home.isHttp_iff.mpr web)
  refine ⟨home, parsed, ?_⟩
  rw [endpoints_eq same]
  simp only [List.forall_mem_map]
  constructor
  · intro leads
    have sms := leads Termii.Sms.path (by simp)
    have otp := leads Termii.Otp.sendPath (by simp)
    exact parts.takesPath_of_leads (by decide) (by decide) (by decide) sms otp
  · intro takes path listed
    have plain : ∀ path ∈ [Termii.Sms.path, Termii.Otp.sendPath, Termii.Otp.verifyPath,
        SmartHive.path], IsPlain path.toList := by
      decide
    exact parts.leads (plain path listed) takes

theorem endpoints_lead_gateway
    : let termii : Termii.Account := { baseUrl := "https://api.example/v2/ " }
      let smarthive : SmartHive.Account := { baseUrl := "https://api.example/v2/ " }
      checkBaseUrl "termii.base_url" termii.baseUrl = .ok ()
      ∧ ∃ home, Url.parse? termii.baseUrl = some home
        ∧ ∀ endpoint ∈ endpoints termii smarthive, Leads home endpoint.1 endpoint.2 := by
  intro termii smarthive
  have accepted : checkBaseUrl "termii.base_url" termii.baseUrl = .ok () := by decide +kernel
  obtain ⟨home, parsed, leads_iff⟩ :=
    endpoints_lead_iff "termii.base_url" termii smarthive rfl accepted
  exact ⟨accepted, home, parsed, leads_iff.mpr (by decide)⟩

/-- A query swallows the path that is appended to it, and a blank after a server makes the address
unreadable: yet both addresses are accepted. -/
theorem accepted_misleads
    : let marked : Termii.Account := { baseUrl := "https://api.example?tenant=acme" }
      let blank : Termii.Account := { baseUrl := "https://api.example " }
      checkBaseUrl "termii.base_url" marked.baseUrl = .ok ()
      ∧ (Url.parse? (marked.endpoint Termii.Sms.path)).map (fun url => (url.path, url.query))
        = some (.segments [""], some "tenant=acme/api/sms/send")
      ∧ checkBaseUrl "termii.base_url" blank.baseUrl = .ok ()
      ∧ Url.parse? (blank.endpoint Termii.Sms.path) = none
      ∧ ¬ ∀ (field : String) (termii : Termii.Account) (smarthive : SmartHive.Account),
          smarthive.baseUrl = termii.baseUrl → checkBaseUrl field termii.baseUrl = .ok ()
          → ∃ home, Url.parse? termii.baseUrl = some home
            ∧ ∀ endpoint ∈ endpoints termii smarthive, Leads home endpoint.1 endpoint.2 := by
  intro marked blank
  have accepted : checkBaseUrl "termii.base_url" blank.baseUrl = .ok () := by decide +kernel
  have unreadable : Url.parse? (blank.endpoint Termii.Sms.path) = none := by decide +kernel
  refine ⟨by decide +kernel, by decide +kernel, accepted, unreadable, fun leads => ?_⟩
  obtain ⟨home, -, each⟩ :=
    leads "termii.base_url" blank { baseUrl := blank.baseUrl } rfl accepted
  obtain ⟨url, endpoint, -⟩ := each (blank.endpoint Termii.Sms.path, Termii.Sms.path) (.head _)
  cases unreadable.symm.trans endpoint

end Courier
