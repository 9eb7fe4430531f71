import Courier.Proofs.Config.Layers
import Courier.Settings.Basic

/-! The leaves of the settings: the settings that hold one value each, with the path of names that
leads to each of them. A record that is taken from a tree has at each leaf what stands there in the
tree, converted, and where nothing stands the value of the record's default.
-/

namespace Courier

open Courier.Config (Node)

variable {σ τ : Type}

-----------------------------------------------------------------------------------------
-- Leaves
-----------------------------------------------------------------------------------------

/-- A place of a record that holds one value: the names that lead to it, the form of its values, and
how the record is looked at. -/
structure Leaf (σ : Type) where
  path : List String
  Value : Type
  codec : Codec Value
  get : σ → Value

namespace Leaf

/-- The leaf at a path. -/
def of {α : Type} (path : List String) (codec : Codec α) (get : σ → α) : Leaf σ :=
  ⟨path, α, codec, get⟩

/-- The leaf that a whole record is. -/
def whole (codec : Codec σ) : Leaf σ := ⟨[], σ, codec, id⟩

/-- The leaf of a record in which the leaf's own record has a name. -/
def under (name : String) (get : τ → σ) (leaf : Leaf σ) : Leaf τ :=
  ⟨name :: leaf.path, leaf.Value, leaf.codec, leaf.get ∘ get⟩

/-- A record has at a leaf what was found for it, converted, or else the default. -/
def Holds (leaf : Leaf σ) (found : Option Node) (default s : σ) : Prop :=
  match found with
  | some node => leaf.codec.convert node = some (leaf.get s)
  | none => leaf.get s = leaf.get default

end Leaf

namespace Codec

/-- A form takes a leaf from what stands there in a tree. -/
def Finds (codec : Codec σ) (default : σ) (leaf : Leaf σ) : Prop :=
  ∀ (node : Node) (found : Option Node) (s : σ),
    Node.stands? leaf.path (some node) = some found
    → codec.convert node = some s
    → leaf.Holds found default s

theorem finds_whole (codec : Codec σ) (default : σ) : codec.Finds default (.whole codec) := by
  intro node found s stands converted
  obtain rfl := Option.some.inj stands
  exact converted

theorem forall_mem_whole (codec : Codec σ) (default : σ)
    : ∀ leaf ∈ [Leaf.whole codec], codec.Finds default leaf := by
  simp [finds_whole]

-----------------------------------------------------------------------------------------
-- The fields of a record
-----------------------------------------------------------------------------------------

/-- A field of a record: its name and form, how it is looked at and set, and its own leaves. -/
structure Slot (σ : Type) where
  name : String
  Value : Type
  codec : Codec Value
  get : σ → Value
  set : Value → σ → σ
  get_set (v : Value) (s : σ) : get (set v s) = v
  leaves : List (Leaf Value)

namespace Slot

/-- A field that is a record with leaves of its own. -/
def part {α : Type} (name : String) (codec : Codec α) (leaves : List (Leaf α)) (get : σ → α)
    (set : α → σ → σ) (get_set : ∀ v s, get (set v s) = v := by intros; rfl) : Slot σ :=
  ⟨name, α, codec, get, set, get_set, leaves⟩

/-- A field that is a leaf. -/
def of {α : Type} (name : String) (codec : Codec α) (get : σ → α) (set : α → σ → σ)
    (get_set : ∀ v s, get (set v s) = v := by intros; rfl) : Slot σ :=
  ⟨name, α, codec, get, set, get_set, [.whole codec]⟩

def field (slot : Slot σ) : Field σ := Field.of slot.name slot.codec slot.get slot.set

/-- Setting one of the fields leaves the other. -/
def Apart (slot other : Slot σ) : Prop :=
  (∀ v s, slot.get (other.set v s) = slot.get s) ∧ ∀ v s, other.get (slot.set v s) = other.get s

end Slot

/-- The leaves of the fields of a record. -/
def leavesOf (slots : List (Slot σ)) : List (Leaf σ) :=
  slots.flatMap fun slot => slot.leaves.map (·.under slot.name slot.get)

variable {slots : List (Slot σ)} {slot : Slot σ} {entries : List (String × Node)} {s t : σ}

/-- Taking the other fields leaves a field, by induction on the others. -/
theorem get_eq_of_convertTable (apart : ∀ other ∈ slots, slot.Apart other)
    (converted : convertTable entries (slots.map Slot.field) s = some t)
    : slot.get t = slot.get s := by
  induction slots generalizing s with
  | nil =>
      obtain rfl := Option.some.inj converted
      rfl
  | cons other slots ih =>
      have rest (s : σ) (converted : convertTable entries (slots.map Slot.field) s = some t)
          : slot.get t = slot.get s :=
        ih (fun third among => apart third (List.mem_cons_of_mem other among)) converted
      simp only [List.map_cons, convertTable] at converted
      split at converted
      · exact rest s converted
      · obtain ⟨changed, set, converted⟩ := Option.bind_eq_some_iff.mp converted
        obtain ⟨v, _, rfl⟩ := Option.map_eq_some_iff.mp set
        exact (rest _ converted).trans ((apart other List.mem_cons_self).1 v s)

/-- A field is taken from the entry of its name, and without one it is left, by induction on the
fields. -/
theorem get_of_convertTable (apart : slots.Pairwise Slot.Apart) (among : slot ∈ slots)
    (converted : convertTable entries (slots.map Slot.field) s = some t)
    : match Node.find? slot.name entries with
      | some node => slot.codec.convert node = some (slot.get t)
      | none => slot.get t = slot.get s := by
  induction slots generalizing s with
  | nil => cases among
  | cons first slots ih =>
      obtain ⟨firstApart, restApart⟩ := List.pairwise_cons.mp apart
      simp only [List.map_cons, convertTable] at converted
      rcases List.mem_cons.mp among with rfl | later
      · have left (s : σ) (converted : convertTable entries (slots.map Slot.field) s = some t)
            : slot.get t = slot.get s :=
          get_eq_of_convertTable firstApart converted
        split at converted
        · next missing =>
            rw [show Node.find? slot.name entries = none from missing]
            exact left s converted
        · next node found =>
            rw [show Node.find? slot.name entries = some node from found]
            obtain ⟨changed, set, converted⟩ := Option.bind_eq_some_iff.mp converted
            obtain ⟨v, taken, rfl⟩ := Option.map_eq_some_iff.mp set
            show slot.codec.convert node = some (slot.get t)
            rw [left _ converted, slot.get_set, taken]
      · split at converted
        · exact ih restApart later converted
        · obtain ⟨changed, set, converted⟩ := Option.bind_eq_some_iff.mp converted
          obtain ⟨v, _, rfl⟩ := Option.map_eq_some_iff.mp set
          have own := ih restApart later converted
          rw [(firstApart slot later).2 v s] at own
          exact own

/-- A record takes a leaf of a field as the field's own form does. -/
theorem record_finds (apart : slots.Pairwise Slot.Apart) (among : slot ∈ slots) {default : σ}
    {leaf : Leaf slot.Value} (finds : slot.codec.Finds (slot.get default) leaf)
    : (record default (slots.map Slot.field)).Finds default (leaf.under slot.name slot.get) := by
  intro node found s stands converted
  cases node with
  | table entries =>
      have taken := get_of_convertTable apart among converted
      have below : Node.stands? leaf.path (Node.find? slot.name entries) = some found := stands
      cases here : Node.find? slot.name entries with
      | none =>
          rw [here] at taken below
          obtain rfl : none = found := by simpa using below
          exact congrArg leaf.get taken
      | some child =>
          rw [here] at taken below
          exact finds child found (slot.get s) below taken
  | nil | bool | integer | float | text | array => cases stands

/-- A form is that of a record with independent fields, each of which takes its leaves. -/
structure Layout (codec : Codec σ) (default : σ) (slots : List (Slot σ)) : Prop where
  form : codec = record default (slots.map Slot.field)
  apart : slots.Pairwise Slot.Apart
  below : ∀ slot ∈ slots, ∀ leaf ∈ slot.leaves, slot.codec.Finds (slot.get default) leaf

theorem Layout.finds {codec : Codec σ} {default : σ} (layout : Layout codec default slots)
    : ∀ leaf ∈ leavesOf slots, codec.Finds default leaf := by
  intro leaf among
  obtain ⟨slot, member, among⟩ := List.mem_flatMap.mp among
  obtain ⟨inner, own, rfl⟩ := List.mem_map.mp among
  rw [layout.form]
  exact record_finds layout.apart member (layout.below slot member inner own)

end Codec

-----------------------------------------------------------------------------------------
-- The records of the settings
-----------------------------------------------------------------------------------------

open Codec (Layout Slot leavesOf finds_whole forall_mem_whole)

namespace Settings

def Application.slots : List (Slot Application) :=
  [.of "name" Codec.text name fun v a => { a with name := v },
    .of "version" Codec.text version fun v a => { a with version := v }]

theorem Application.layout : Layout codec {} slots where
  form := rfl
  apart := by simp [slots, Slot.Apart, Slot.of]
  below := by simp [slots, Slot.of, finds_whole]

def Console.slots : List (Slot Console) :=
  [.of "enabled" Codec.bool enabled fun v c => { c with enabled := v },
    .of "colored" Codec.bool colored fun v c => { c with colored := v }]

theorem Console.layout : Layout codec {} slots where
  form := rfl
  apart := by simp [slots, Slot.Apart, Slot.of]
  below := by simp [slots, Slot.of, finds_whole]

def LogFile.slots : List (Slot LogFile) :=
  [.of "enabled" Codec.bool enabled fun v f => { f with enabled := v },
    .of "path" Codec.text path fun v f => { f with path := v },
    .of "append" Codec.bool append fun v f => { f with append := v },
    .of "format" Codec.text format fun v f => { f with format := v }]

theorem LogFile.layout : Layout codec {} slots where
  form := rfl
  apart := by simp [slots, Slot.Apart, Slot.of]
  below := by simp [slots, Slot.of, finds_whole]

def Logger.slots : List (Slot Logger) :=
  [.of "level" Codec.text level fun v l => { l with level := v },
    .part "console" Console.codec (leavesOf Console.slots) console
      fun v l => { l with console := v },
    .part "file" LogFile.codec (leavesOf LogFile.slots) file fun v l => { l with file := v }]

theorem Logger.layout : Layout codec {} slots where
  form := rfl
  apart := by simp [slots, Slot.Apart, Slot.of, Slot.part]
  below := by
    simp only [slots, List.forall_mem_cons]
    exact ⟨forall_mem_whole _ _, Console.layout.finds, LogFile.layout.finds, nofun⟩

def Http.slots : List (Slot Http) :=
  [.of "timeout_seconds" Codec.word64 timeoutSeconds fun v h => { h with timeoutSeconds := v },
    .of "connect_timeout_seconds" Codec.word64 connectTimeoutSeconds
      fun v h => { h with connectTimeoutSeconds := v },
    .of "user_agent" Codec.text userAgent fun v h => { h with userAgent := v }]

theorem Http.layout : Layout codec {} slots where
  form := rfl
  apart := by simp [slots, Slot.Apart, Slot.of]
  below := by simp [slots, Slot.of, finds_whole]

def Defaults.slots : List (Slot Defaults) :=
  [.of "recipient" Codec.text recipient fun v d => { d with recipient := v },
    .of "country_code" Codec.text countryCode fun v d => { d with countryCode := v },
    .of "sms_text" Codec.text smsText fun v d => { d with smsText := v },
    .of "smarthive_text" Codec.text smarthiveText fun v d => { d with smarthiveText := v }]

theorem Defaults.layout : Layout codec {} slots where
  form := rfl
  apart := by simp [slots, Slot.Apart, Slot.of]
  below := by simp [slots, Slot.of, finds_whole]

end Settings

namespace Otp.Policy

def slots : List (Slot Policy) :=
  [.of "message_type" PinType.codec messageType fun v p => { p with messageType := v },
    .of "pin_type" PinType.codec pinType fun v p => { p with pinType := v },
    .of "pin_attempts" Codec.word32 pinAttempts fun v p => { p with pinAttempts := v },
    .of "pin_time_to_live" Codec.word32 pinTimeToLive fun v p => { p with pinTimeToLive := v },
    .of "pin_length" Codec.word32 pinLength fun v p => { p with pinLength := v },
    .of "pin_placeholder" Codec.text pinPlaceholder fun v p => { p with pinPlaceholder := v },
    .of "message_text" Codec.text messageText fun v p => { p with messageText := v }]

theorem layout : Layout codec {} slots where
  form := rfl
  apart := by simp [slots, Slot.Apart, Slot.of]
  below := by simp [slots, Slot.of, finds_whole]

end Otp.Policy

namespace Termii.Account

def slots : List (Slot Account) :=
  [.of "base_url" Codec.text baseUrl fun v a => { a with baseUrl := v },
    .of "api_key" Codec.apiKey apiKey fun v a => { a with apiKey := v },
    .of "sender_id" Codec.text senderId fun v a => { a with senderId := v },
    .of "channel" Channel.codec channel fun v a => { a with channel := v },
    .of "sms_type" SmsType.codec smsType fun v a => { a with smsType := v },
    .part "otp" Otp.Policy.codec (leavesOf Otp.Policy.slots) otp fun v a => { a with otp := v }]

theorem layout : Layout codec {} slots where
  form := rfl
  apart := by simp [slots, Slot.Apart, Slot.of, Slot.part]
  below := by
    simp only [slots, List.forall_mem_cons]
    exact ⟨forall_mem_whole _ _, forall_mem_whole _ _, forall_mem_whole _ _, forall_mem_whole _ _,
      forall_mem_whole _ _, Otp.Policy.layout.finds, nofun⟩

end Termii.Account

namespace SmartHive.Account

def slots : List (Slot Account) :=
  [.of "base_url" Codec.text baseUrl fun v a => { a with baseUrl := v },
    .of "api_key" Codec.apiKey apiKey fun v a => { a with apiKey := v },
    .of "sender" Codec.text sender fun v a => { a with sender := v },
    .of "message_type" MessageType.codec messageType fun v a => { a with messageType := v },
    .of "route" Route.codec route fun v a => { a with route := v }]

theorem layout : Layout codec {} slots where
  form := rfl
  apart := by simp [slots, Slot.Apart, Slot.of]
  below := by simp [slots, Slot.of, finds_whole]

end SmartHive.Account

namespace Settings

def slots : List (Slot Settings) :=
  [.part "application" Application.codec (leavesOf Application.slots) application
      fun v s => { s with application := v },
    .part "logger" Logger.codec (leavesOf Logger.slots) logger fun v s => { s with logger := v },
    .part "http" Http.codec (leavesOf Http.slots) http fun v s => { s with http := v },
    .part "defaults" Defaults.codec (leavesOf Defaults.slots) defaults
      fun v s => { s with defaults := v },
    .part "termii" Termii.Account.codec (leavesOf Termii.Account.slots) termii
      fun v s => { s with termii := v },
    .part "smarthive" SmartHive.Account.codec (leavesOf SmartHive.Account.slots) smarthive
      fun v s => { s with smarthive := v }]

theorem layout : Layout codec {} slots where
  form := rfl
  apart := by simp [slots, Slot.Apart, Slot.part]
  below := by
    simp only [slots, List.forall_mem_cons]
    exact ⟨Application.layout.finds, Logger.layout.finds, Http.layout.finds, Defaults.layout.finds,
      Termii.Account.layout.finds, SmartHive.Account.layout.finds, nofun⟩

-----------------------------------------------------------------------------------------
-- The leaves of the settings
-----------------------------------------------------------------------------------------

/-- The leaves of the settings. -/
def leaves : List (Leaf Settings) :=
  [.of ["application", "name"] Codec.text (·.application.name),
    .of ["application", "version"] Codec.text (·.application.version),
    .of ["logger", "level"] Codec.text (·.logger.level),
    .of ["logger", "console", "enabled"] Codec.bool (·.logger.console.enabled),
    .of ["logger", "console", "colored"] Codec.bool (·.logger.console.colored),
    .of ["logger", "file", "enabled"] Codec.bool (·.logger.file.enabled),
    .of ["logger", "file", "path"] Codec.text (·.logger.file.path),
    .of ["logger", "file", "append"] Codec.bool (·.logger.file.append),
    .of ["logger", "file", "format"] Codec.text (·.logger.file.format),
    .of ["http", "timeout_seconds"] Codec.word64 (·.http.timeoutSeconds),
    .of ["http", "connect_timeout_seconds"] Codec.word64 (·.http.connectTimeoutSeconds),
    .of ["http", "user_agent"] Codec.text (·.http.userAgent),
    .of ["defaults", "recipient"] Codec.text (·.defaults.recipient),
    .of ["defaults", "country_code"] Codec.text (·.defaults.countryCode),
    .of ["defaults", "sms_text"] Codec.text (·.defaults.smsText),
    .of ["defaults", "smarthive_text"] Codec.text (·.defaults.smarthiveText),
    .of ["termii", "base_url"] Codec.text (·.termii.baseUrl),
    .of ["termii", "api_key"] Codec.apiKey (·.termii.apiKey),
    .of ["termii", "sender_id"] Codec.text (·.termii.senderId),
    .of ["termii", "channel"] Termii.Channel.codec (·.termii.channel),
    .of ["termii", "sms_type"] Termii.SmsType.codec (·.termii.smsType),
    .of ["termii", "otp", "message_type"] Otp.PinType.codec (·.termii.otp.messageType),
    .of ["termii", "otp", "pin_type"] Otp.PinType.codec (·.termii.otp.pinType),
    .of ["termii", "otp", "pin_attempts"] Codec.word32 (·.termii.otp.pinAttempts),
    .of ["termii", "otp", "pin_time_to_live"] Codec.word32 (·.termii.otp.pinTimeToLive),
    .of ["termii", "otp", "pin_length"] Codec.word32 (·.termii.otp.pinLength),
    .of ["termii", "otp", "pin_placeholder"] Codec.text (·.termii.otp.pinPlaceholder),
    .of ["termii", "otp", "message_text"] Codec.text (·.termii.otp.messageText),
    .of ["smarthive", "base_url"] Codec.text (·.smarthive.baseUrl),
    .of ["smarthive", "api_key"] Codec.apiKey (·.smarthive.apiKey),
    .of ["smarthive", "sender"] Codec.text (·.smarthive.sender),
    .of ["smarthive", "message_type"] SmartHive.MessageType.codec (·.smarthive.messageType),
    .of ["smarthive", "route"] SmartHive.Route.codec (·.smarthive.route)]

theorem codec_finds : ∀ leaf ∈ leaves, codec.Finds {} leaf :=
  layout.finds

/-- No setting is without a leaf: settings with the same leaves are the same. -/
theorem eq_of_leaves {settings other : Settings}
    (same : ∀ leaf ∈ leaves, leaf.get settings = leaf.get other)
    : settings = other := by
  rcases settings with ⟨⟨⟩, ⟨_, ⟨⟩, ⟨⟩⟩, ⟨⟩, ⟨⟩, ⟨_, _, _, _, _, ⟨⟩⟩, ⟨⟩⟩
  rcases other with ⟨⟨⟩, ⟨_, ⟨⟩, ⟨⟩⟩, ⟨⟩, ⟨⟩, ⟨_, _, _, _, _, ⟨⟩⟩, ⟨⟩⟩
  simp only [leaves, Leaf.of, List.forall_mem_cons] at same
  simp only [same]

end Settings

end Courier
