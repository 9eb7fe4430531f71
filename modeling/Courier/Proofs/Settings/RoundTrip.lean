import Courier.Proofs.Settings.Restoration

/-! The round trip of settings. What is written is read as it was, and from a written document any
members may be deleted, at any level: what is read then has the defaults at the leaves that are cut
off, and all other leaves as they were.
-/

namespace Courier

open Courier.Json (Cut Legible Reader)
open Courier.Json.Reader (taken)

variable {α σ : Type}

-----------------------------------------------------------------------------------------
-- Plain forms
-----------------------------------------------------------------------------------------

namespace Codec

theorem plain_text : text.Plain where
  whole := Reader.whole_string
  plain := .string
  reads _ := rfl

theorem plain_bool : bool.Plain where
  whole := Reader.whole_bool
  plain := .bool
  reads b := by cases b <;> rfl

theorem plain_apiKey : apiKey.Plain where
  whole := Reader.whole_string.map ApiKey.mk
  plain key := .string key.secret
  reads _ := rfl

theorem isWord_of_lt {n : Nat} (fits : n < Json.wordLimit) : Json.IsWord n := by
  rw [Json.wordLimit] at fits
  exact ⟨by omega, by omega⟩

/-- A number that fits into 64 bits is read where it is less than the bound. -/
theorem taken_natural {n bound : Nat} (small : n < bound) (fits : n < Json.wordLimit)
    : taken (Reader.natural bound) (Json.nat n).tokens = .ok n := by
  have number := Json.toNumber_integerLiteral (isWord_of_lt fits)
  simp [taken, Json.nat, Json.tokens, Json.Number.token, Reader.natural, number, small, Except.map]

theorem plain_word32 : word32.Plain where
  whole := (Reader.whole_natural _).map _
  plain n := .integer (isWord_of_lt (Nat.lt_trans n.toNat_lt (by decide)))
  reads n := by
    have read : taken (Reader.natural UInt32.size) (Json.nat n.toNat).tokens = .ok n.toNat :=
      taken_natural n.toNat_lt (Nat.lt_trans n.toNat_lt (by decide))
    rw [word32, Reader.taken_map, read]
    exact congrArg _ n.ofNat_toNat

theorem plain_word64 : word64.Plain where
  whole := (Reader.whole_natural _).map _
  plain n := .integer (isWord_of_lt n.toNat_lt)
  reads n := by
    have read : taken (Reader.natural UInt64.size) (Json.nat n.toNat).tokens = .ok n.toNat :=
      taken_natural n.toNat_lt n.toNat_lt
    rw [word64, Reader.taken_map, read]
    exact congrArg _ n.ofNat_toNat

/-- Values that have names are read where each name stands for its value. -/
theorem plain_named {name : α → String} {choose : String → Option α}
    (chosen : ∀ a, choose (name a) = some a)
    : (named name choose).Plain where
  whole := Reader.whole_choice choose
  plain a := .string (name a)
  reads a := by
    simp [named, Json.tokens, taken, Reader.choice, Reader.string, Reader.named, chosen, bind,
      Except.bind, pure, Except.pure, Except.map]

theorem read_numbered (code : α → Nat) (decode : Nat → Option α)
    : (numbered code decode).read
      = (Reader.natural 256).meaning fun n =>
        match decode n with
        | some a => .ok a
        | none => .error .mismatch := by
  funext ts
  simp only [numbered, Reader.meaning]
  cases Reader.natural 256 ts with
  | error fault => rfl
  | ok read =>
      simp only [bind, Except.bind]
      cases decode read.1 <;> rfl

/-- Values that stand for numbers are read where each number stands for its value. -/
theorem plain_numbered {code : α → Nat} {decode : Nat → Option α}
    (small : ∀ a, code a < 256) (decoded : ∀ a, decode (code a) = some a)
    : (numbered code decode).Plain where
  whole := by
    rw [read_numbered]
    exact (Reader.whole_natural 256).meaning _
  plain a := .integer (isWord_of_lt (Nat.lt_trans (small a) (by decide)))
  reads a := by
    have read : taken (Reader.natural 256) ((numbered code decode).write a).tokens = .ok (code a) :=
      taken_natural (small a) (Nat.lt_trans (small a) (by decide))
    rw [read_numbered, Reader.taken_meaning, read]
    simp [bind, Except.bind, decoded]

end Codec

theorem Termii.Channel.plain_codec : codec.Plain := Codec.plain_named fun channel => by
  cases channel <;> rfl

theorem Termii.SmsType.plain_codec : codec.Plain := Codec.plain_named fun smsType => by
  cases smsType; rfl

theorem Otp.PinType.plain_codec : codec.Plain := Codec.plain_named fun pinType => by
  cases pinType <;> rfl

theorem SmartHive.Route.plain_codec : codec.Plain := Codec.plain_named fun route => by
  cases route <;> rfl

theorem SmartHive.MessageType.plain_codec : codec.Plain :=
  Codec.plain_numbered (fun messageType => by cases messageType <;> decide) fun messageType => by
    cases messageType <;> rfl

-----------------------------------------------------------------------------------------
-- The records of the settings
-----------------------------------------------------------------------------------------

open Codec (Slot leavesOf plain_apiKey plain_bool plain_text plain_word32 plain_word64)

variable (levels : Nat)

namespace Settings

theorem Application.faithful : codec.Faithful {} (leavesOf slots) (levels + 1) :=
  layout.faithful (by decide) <| by
    simp only [slots, List.forall_mem_cons]
    exact ⟨plain_text.faithful _ _, plain_text.faithful _ _, List.forall_mem_nil _⟩

theorem Console.faithful : codec.Faithful {} (leavesOf slots) (levels + 1) :=
  layout.faithful (by decide) <| by
    simp only [slots, List.forall_mem_cons]
    exact ⟨plain_bool.faithful _ _, plain_bool.faithful _ _, List.forall_mem_nil _⟩

theorem LogFile.faithful : codec.Faithful {} (leavesOf slots) (levels + 1) :=
  layout.faithful (by decide) <| by
    simp only [slots, List.forall_mem_cons]
    exact ⟨plain_bool.faithful _ _, plain_text.faithful _ _, plain_bool.faithful _ _,
      plain_text.faithful _ _, List.forall_mem_nil _⟩

theorem Logger.faithful : codec.Faithful {} (leavesOf slots) (levels + 2) :=
  layout.faithful (by decide) <| by
    simp only [slots, List.forall_mem_cons]
    exact ⟨plain_text.faithful _ _, Console.faithful levels, LogFile.faithful levels,
      List.forall_mem_nil _⟩

theorem Http.faithful : codec.Faithful {} (leavesOf slots) (levels + 1) :=
  layout.faithful (by decide) <| by
    simp only [slots, List.forall_mem_cons]
    exact ⟨plain_word64.faithful _ _, plain_word64.faithful _ _, plain_text.faithful _ _,
      List.forall_mem_nil _⟩

theorem Defaults.faithful : codec.Faithful {} (leavesOf slots) (levels + 1) :=
  layout.faithful (by decide) <| by
    simp only [slots, List.forall_mem_cons]
    exact ⟨plain_text.faithful _ _, plain_text.faithful _ _, plain_text.faithful _ _,
      plain_text.faithful _ _, List.forall_mem_nil _⟩

end Settings

theorem Otp.Policy.faithful : codec.Faithful {} (leavesOf slots) (levels + 1) :=
  layout.faithful (by decide) <| by
    simp only [slots, List.forall_mem_cons]
    exact ⟨PinType.plain_codec.faithful _ _, PinType.plain_codec.faithful _ _,
      plain_word32.faithful _ _, plain_word32.faithful _ _, plain_word32.faithful _ _,
      plain_text.faithful _ _, plain_text.faithful _ _, List.forall_mem_nil _⟩

theorem Termii.Account.faithful : codec.Faithful {} (leavesOf slots) (levels + 2) :=
  layout.faithful (by decide) <| by
    simp only [slots, List.forall_mem_cons]
    exact ⟨plain_text.faithful _ _, plain_apiKey.faithful _ _, plain_text.faithful _ _,
      Channel.plain_codec.faithful _ _, SmsType.plain_codec.faithful _ _,
      Otp.Policy.faithful levels, List.forall_mem_nil _⟩

theorem SmartHive.Account.faithful : codec.Faithful {} (leavesOf slots) (levels + 1) :=
  layout.faithful (by decide) <| by
    simp only [slots, List.forall_mem_cons]
    exact ⟨plain_text.faithful _ _, plain_apiKey.faithful _ _, plain_text.faithful _ _,
      MessageType.plain_codec.faithful _ _, Route.plain_codec.faithful _ _, List.forall_mem_nil _⟩

theorem Settings.faithful : codec.Faithful {} leaves (levels + 3) :=
  layout.faithful (by decide) <| by
    simp only [slots, List.forall_mem_cons]
    exact ⟨Application.faithful (levels + 1), Logger.faithful levels, Http.faithful (levels + 1),
      Defaults.faithful (levels + 1), Termii.Account.faithful levels,
      SmartHive.Account.faithful (levels + 1), List.forall_mem_nil _⟩

-----------------------------------------------------------------------------------------
-- Round trips
-----------------------------------------------------------------------------------------

/-- A record is read as it was written; from what is left of its document it is read with the
defaults at the leaves that are cut off and with all other leaves as they were; and the leaves are
all that there is of it. -/
structure Codec.RoundTrips (codec : Codec σ) (default : σ) (leaves : List (Leaf σ)) : Prop where
  decode_encode (s : σ) : codec.decode (codec.encode s) = .ok s
  restores (s : σ) (gone : List String → Bool)
    : ∃ t,
      codec.decode ((codec.write s).without gone).compact = .ok t
      ∧ ∀ leaf ∈ leaves, leaf.Restored gone default s t
  complete (s t : σ) : (∀ leaf ∈ leaves, leaf.get s = leaf.get t) → s = t

theorem Codec.Faithful.roundTrips {codec : Codec σ} {default : σ} {leaves : List (Leaf σ)}
    {levels : Nat} (faithful : codec.Faithful default leaves levels)
    (complete : ∀ s t, (∀ leaf ∈ leaves, leaf.get s = leaf.get t) → s = t)
    : codec.RoundTrips default leaves := by
  have restores (s : σ) (gone : List String → Bool)
      : ∃ t,
        codec.decode ((codec.write s).without gone).compact = .ok t
        ∧ ∀ leaf ∈ leaves, leaf.Restored gone default s t := by
    have read := faithful.whole.run_compact ((faithful.legible s).prune gone)
    obtain ⟨t, taken, restored⟩ := faithful.restores s gone
    exact ⟨t, read.trans taken, restored⟩
  refine ⟨fun s => ?_, restores, complete⟩
  obtain ⟨t, read, restored⟩ := restores s fun _ => false
  rw [(faithful.legible s).without_none] at read
  obtain rfl : t = s := by
    refine complete t s fun leaf among => (restored leaf among).2 ?_
    rintro ⟨_, -, -, deleted⟩
    cases deleted
  exact read

/-- Records whose fields are the same, leaf by leaf, have the same fields. -/
theorem Codec.forall_leavesOf_iff {slots : List (Codec.Slot σ)} {s t : σ}
    : (∀ leaf ∈ leavesOf slots, leaf.get s = leaf.get t)
      ↔ ∀ slot ∈ slots, ∀ leaf ∈ slot.leaves, leaf.get (slot.get s) = leaf.get (slot.get t) := by
  simp only [leavesOf, List.forall_mem_flatMap, List.forall_mem_map]
  rfl

/-- No part of a policy is without a leaf: policies with the same leaves are the same. -/
theorem Otp.Policy.eq_of_leaves (policy other : Policy)
    (same : ∀ leaf ∈ leavesOf slots, leaf.get policy = leaf.get other)
    : policy = other := by
  cases policy
  cases other
  rw [Codec.forall_leavesOf_iff] at same
  simp only [slots, Slot.of, Leaf.whole, List.forall_mem_cons, id] at same
  simp only [same]

theorem Termii.Account.eq_of_leaves (account other : Account)
    (same : ∀ leaf ∈ leavesOf slots, leaf.get account = leaf.get other)
    : account = other := by
  cases account
  cases other
  rw [Codec.forall_leavesOf_iff] at same
  simp only [slots, Slot.of, Slot.part, Leaf.whole, List.forall_mem_cons, id] at same
  obtain ⟨⟨url, -⟩, ⟨key, -⟩, ⟨sender, -⟩, ⟨channel, -⟩, -, policy, -⟩ := same
  simp only [url, key, sender, channel, Otp.Policy.eq_of_leaves _ _ policy]

theorem SmartHive.Account.eq_of_leaves (account other : Account)
    (same : ∀ leaf ∈ leavesOf slots, leaf.get account = leaf.get other)
    : account = other := by
  cases account
  cases other
  rw [Codec.forall_leavesOf_iff] at same
  simp only [slots, Slot.of, Leaf.whole, List.forall_mem_cons, id] at same
  simp only [same]

/-- The settings, and the parts of them that stand on their own, make the round trip: they are read
as they were written, and whatever members are deleted from what is written, the leaves that are
left are read as they were and the others are the defaults. -/
theorem Settings.round_trips
    : Settings.codec.RoundTrips {} Settings.leaves
      ∧ Termii.Account.codec.RoundTrips {} (leavesOf Termii.Account.slots)
      ∧ Otp.Policy.codec.RoundTrips {} (leavesOf Otp.Policy.slots)
      ∧ SmartHive.Account.codec.RoundTrips {} (leavesOf SmartHive.Account.slots) :=
  ⟨(Settings.faithful 0).roundTrips fun _ _ => Settings.eq_of_leaves,
    (Termii.Account.faithful 0).roundTrips Termii.Account.eq_of_leaves,
    (Otp.Policy.faithful 0).roundTrips Otp.Policy.eq_of_leaves,
    (SmartHive.Account.faithful 0).roundTrips SmartHive.Account.eq_of_leaves⟩

/-- A section is deleted as a whole, and of another one a single leaf. -/
example
    : let file : Settings.LogFile := { path := "a.log" }
      let logger : Settings.Logger := { console := { colored := false }, file }
      let left := (Settings.Logger.codec.write logger).without fun path =>
        path == ["console"] || path == ["file", "format"]
      Settings.Logger.codec.decode left.compact = .ok { file } := by
  decide +kernel

end Courier
