import Courier.Proofs.Json.Members
import Courier.Proofs.Json.Pruning
import Courier.Proofs.Json.Readers
import Courier.Proofs.Settings.Leaves
import Mathlib.Data.List.Pairwise

/-! Records that are restored from what is left of them. A field that is gone keeps its default, and
a field that is left is restored from what is left of its value; so a record is restored leaf by
leaf when its fields are, whatever members are deleted from its document.
-/

namespace Courier

open Courier.Json (Cut Legible Member Reader valuesOf)
open Courier.Json.Reader (fill taken)

variable {α σ : Type}

-----------------------------------------------------------------------------------------
-- Forms that are restored leaf by leaf
-----------------------------------------------------------------------------------------

/-- A leaf is as it was, or the default where it is cut off. -/
def Leaf.Restored (leaf : Leaf σ) (gone : List String → Bool) (default s t : σ) : Prop :=
  (Cut gone leaf.path → leaf.get t = leaf.get default)
  ∧ (¬ Cut gone leaf.path → leaf.get t = leaf.get s)

namespace Codec

/-- A form reads what it has written, and restores each leaf from what is left of it. Its documents
have at most so many levels. -/
structure Faithful (codec : Codec σ) (default : σ) (leaves : List (Leaf σ)) (levels : Nat)
    : Prop where
  whole : codec.read.Whole
  legible (s : σ) : Legible levels (codec.write s)
  restores (s : σ) (gone : List String → Bool)
    : ∃ t,
      codec.read.taken ((codec.write s).without gone).tokens = .ok t
      ∧ ∀ leaf ∈ leaves, leaf.Restored gone default s t

/-- A form of values without containers, each of which is read as it was written. -/
structure Plain (codec : Codec α) : Prop where
  whole : codec.read.Whole
  plain (a : α) : Legible 0 (codec.write a)
  reads (a : α) : codec.read.taken (codec.write a).tokens = .ok a

/-- A plain value is one leaf, from which nothing can be deleted. -/
theorem Plain.faithful {codec : Codec α} (plain : codec.Plain) (default : α) (levels : Nat)
    : codec.Faithful default [.whole codec] levels where
  whole := plain.whole
  legible a := (plain.plain a).anyLevels levels
  restores a gone := by
    refine ⟨a, ?_, ?_⟩
    · rw [(plain.plain a).without_eq]
      exact plain.reads a
    · rw [List.forall_mem_singleton]
      exact ⟨fun cut => absurd cut (Json.not_cut_nil gone), fun _ => rfl⟩

-----------------------------------------------------------------------------------------
-- Records
-----------------------------------------------------------------------------------------

section Records

variable {slots : List (Slot σ)} {slot : Slot σ} {default : σ}

/-- The members of a record that is written. -/
def membersOf (slots : List (Slot σ)) (s : σ) : List (String × Json) :=
  slots.map fun slot => (slot.name, slot.codec.write (slot.get s))

theorem write_record (default s : σ)
    : (record default (slots.map Slot.field)).write s = .object (membersOf slots s) := by
  simp [record, membersOf, Slot.field, Field.of]

/-- The fields that a record is read with. -/
def readersOf (slots : List (Slot σ)) : List (Reader.Field σ) :=
  (slots.map Slot.field).map Field.reader

theorem of_find?_readersOf {name : String} {field : Reader.Field σ}
    (known : Reader.Field.find? (readersOf slots) name = some field)
    : ∃ slot ∈ slots, slot.name = name ∧ slot.field.reader = field := by
  obtain ⟨among, named⟩ := Reader.Field.of_find? known
  rw [readersOf, List.map_map] at among
  obtain ⟨slot, member, rfl⟩ := List.mem_map.mp among
  exact ⟨slot, member, named, rfl⟩

/-- The field of a name is found when no field before has the name, by induction on the fields. -/
theorem find?_readersOf (distinct : (slots.map Slot.name).Nodup) (among : slot ∈ slots)
    : Reader.Field.find? (readersOf slots) slot.name = some slot.field.reader := by
  induction slots with
  | nil => cases among
  | cons first slots ih =>
      obtain ⟨missing, distinct⟩ := List.nodup_cons.mp distinct
      rcases List.mem_cons.mp among with rfl | later
      · exact List.find?_cons_of_pos (beq_self_eq_true _)
      · have other : (first.name == slot.name) = false := by
          refine beq_eq_false_iff_ne.mpr fun same => missing ?_
          exact List.mem_map.mpr ⟨slot, later, same.symm⟩
        have onward := ih distinct later
        simp only [Reader.Field.find?, readersOf] at onward ⊢
        simpa [List.find?, Field.reader, Slot.field, Field.of, other] using onward

/-- A field takes what its form takes, and sets that. -/
theorem taken_read (slot : Slot σ) (s : σ) (ts : List Json.Token)
    : taken (slot.field.reader.read s) ts = (slot.codec.read.taken ts).map (slot.set · s) :=
  Reader.taken_map slot.codec.read (slot.set · s) ts

/-- The values that the field of a name accepts. -/
def accepts (default : σ) (slots : List (Slot σ)) (name : String) (ts : List Json.Token) : Prop :=
  ∃ field,
    Reader.Field.find? (readersOf slots) name = some field
    ∧ (taken (field.read default) ts).isOk = true

theorem accepting (default : σ) (slots : List (Slot σ))
    : Reader.Accepting (readersOf slots) (accepts default slots) := by
  intro name field known s ts _
  obtain ⟨slot, -, -, rfl⟩ := of_find?_readersOf known
  have same : (taken (slot.field.reader.read s) ts).isOk
      = (taken (slot.field.reader.read default) ts).isOk := by
    rw [taken_read, taken_read]
    cases slot.codec.read.taken ts <;> rfl
  simp [accepts, known, same]

theorem whole_readersOf (whole : ∀ slot ∈ slots, slot.codec.read.Whole)
    : ∀ field ∈ readersOf slots, ∀ s, (field.read s).Whole := by
  intro field among s
  rw [readersOf, List.map_map] at among
  obtain ⟨slot, member, rfl⟩ := List.mem_map.mp among
  exact (whole slot member).map (slot.set · s)

/-- What is left of a field's value: nothing if the field is gone. -/
theorem valuesOf_membersOf (distinct : (slots.map Slot.name).Nodup) (among : slot ∈ slots) (s : σ)
    (gone : List String → Bool)
    : valuesOf slot.name ((Json.withoutMembers gone (membersOf slots s)).map Member.of)
      = if gone [slot.name] then []
        else
          [((slot.codec.write (slot.get s)).without fun path =>
            gone (slot.name :: path)).tokens] := by
  refine Json.valuesOf_withoutMembers ?_ ?_ gone
  · rwa [membersOf, List.map_map]
  · exact List.mem_map.mpr ⟨slot, among, rfl⟩

instance : Std.Symm (@Slot.Apart σ) := ⟨fun _ _ => And.symm⟩

/-- A field of a record that is filled holds the value that the members give to its name, or else
the default. -/
theorem get_of_filled (apart : slots.Pairwise Slot.Apart) (distinct : (slots.map Slot.name).Nodup)
    (among : slot ∈ slots) {members : List Member} {out : Reader.Filled σ}
    (fills : members.foldlM (fill (readersOf slots)) ⟨default, []⟩ = .ok out)
    : match (valuesOf slot.name members).getLast? with
      | none => slot.get out.value = slot.get default
      | some ts => slot.codec.read.taken ts = .ok (slot.get out.value) := by
  have found := find?_readersOf distinct among
  refine Reader.held_of_foldlM_fill slot.get slot.name
    (fun ts value => slot.codec.read.taken ts = .ok value) ?_ ?_ (by rw [found]; rfl) fills
  · intro field known s s' ts reads
    obtain rfl := Option.some.inj (found.symm.trans known)
    rw [taken_read, map_eq_ok_iff] at reads
    obtain ⟨value, takes, rfl⟩ := reads
    rwa [slot.get_set]
  · intro name field known differs s s' ts reads
    obtain ⟨other, member, rfl, rfl⟩ := of_find?_readersOf known
    rw [taken_read, map_eq_ok_iff] at reads
    obtain ⟨value, -, rfl⟩ := reads
    have unequal : slot ≠ other := by
      rintro rfl
      exact differs rfl
    exact (apart.forall among member unequal).1 value s

/-- A leaf of a field is restored with the field: it is cut off with the field or inside it. -/
theorem restored_under {gone : List String → Bool} {s out : σ} {leaf : Leaf slot.Value}
    (gives : gone [slot.name] = true → slot.get out = slot.get default)
    (keeps
      : gone [slot.name] = false
        → leaf.Restored (fun path => gone (slot.name :: path)) (slot.get default) (slot.get s)
          (slot.get out))
    : (leaf.under slot.name slot.get).Restored gone default s out := by
  have cut_iff := Json.cut_cons_iff gone slot.name leaf.path
  cases deleted : gone [slot.name] with
  | true =>
      exact ⟨fun _ => congrArg leaf.get (gives deleted),
        fun whole => absurd (cut_iff.mpr (.inl deleted)) whole⟩
  | false =>
      have inside : Cut gone (slot.name :: leaf.path)
          ↔ Cut (fun path => gone (slot.name :: path)) leaf.path := by
        simpa [deleted] using cut_iff
      obtain ⟨defaults, stays⟩ := keeps deleted
      exact ⟨fun cut => defaults (inside.mp cut), fun whole => stays (mt inside.mpr whole)⟩

section Left

variable {levels : Nat}
  (below : ∀ slot ∈ slots, slot.codec.Faithful (slot.get default) slot.leaves levels) (s : σ)
  (gone : List String → Bool)

include below

/-- What is left of a record has well-formed members. -/
theorem wellFormed_membersOf
    : ∀ member ∈ (Json.withoutMembers gone (membersOf slots s)).map Member.of,
        Json.WellFormed member.value := by
  rw [List.forall_mem_map]
  intro member left
  obtain ⟨value, among, kept⟩ := Json.mem_of_mem_withoutMembers left
  obtain ⟨slot, member, same⟩ := List.mem_map.mp among
  obtain ⟨-, rfl⟩ := Prod.mk.inj same
  rw [Member.of, kept]
  exact (((below slot member).legible _).prune _).wellFormed

/-- The members that are left of a record fill it: each field is given what is left of its value, or
nothing. -/
theorem exists_filled (distinct : (slots.map Slot.name).Nodup)
    : ∃ out,
        ((Json.withoutMembers gone (membersOf slots s)).map Member.of).foldlM
            (fill (readersOf slots)) ⟨default, []⟩
          = .ok out := by
  have formed := wellFormed_membersOf below s gone
  refine (Reader.foldlM_fill_start_iff (accepting default slots) formed default).mpr ⟨?_, ?_⟩
  · rw [List.forall_mem_map]
    exact fun member _ => ⟨member.1, rfl⟩
  · intro name known
    obtain ⟨field, found⟩ := Option.isSome_iff_exists.mp known
    obtain ⟨slot, among, rfl, rfl⟩ := of_find?_readersOf found
    rw [valuesOf_membersOf distinct among]
    split
    · exact .inl rfl
    · obtain ⟨v, taken, -⟩ := (below slot among).restores (slot.get s) fun path =>
        gone (slot.name :: path)
      refine .inr ⟨_, ⟨slot.field.reader, found, ?_⟩, rfl⟩
      rw [taken_read, taken]
      rfl

/-- A record that is filled from what is left of it has its leaves restored. -/
theorem restored_of_filled (apart : slots.Pairwise Slot.Apart)
    (distinct : (slots.map Slot.name).Nodup) {out : Reader.Filled σ}
    (fills
      : ((Json.withoutMembers gone (membersOf slots s)).map Member.of).foldlM
            (fill (readersOf slots)) ⟨default, []⟩
          = .ok out)
    : ∀ leaf ∈ leavesOf slots, leaf.Restored gone default s out.value := by
  intro leaf among
  obtain ⟨slot, member, among⟩ := List.mem_flatMap.mp among
  obtain ⟨inner, own, rfl⟩ := List.mem_map.mp among
  have held := get_of_filled apart distinct member fills
  rw [valuesOf_membersOf distinct member] at held
  obtain ⟨v, taken, restored⟩ := (below slot member).restores (slot.get s) fun path =>
    gone (slot.name :: path)
  refine restored_under (fun deleted => ?_) fun stays => ?_
  · simpa [deleted] using held
  · obtain rfl : v = slot.get out.value := by
      simpa [stays, taken] using held
    exact restored inner own

end Left

/-- A record is faithful when its fields are: they have names of their own and are independent. -/
theorem Layout.faithful {codec : Codec σ} (layout : Layout codec default slots)
    (distinct : (slots.map Slot.name).Nodup) {levels : Nat}
    (below : ∀ slot ∈ slots, slot.codec.Faithful (slot.get default) slot.leaves levels)
    : codec.Faithful default (leavesOf slots) (levels + 1) := by
  have whole : ∀ field ∈ readersOf slots, ∀ s, (field.read s).Whole :=
    whole_readersOf fun slot among => (below slot among).whole
  rw [layout.form]
  refine ⟨Reader.whole_record whole default, fun s => ?_, fun s gone => ?_⟩
  · rw [write_record]
    refine .object (List.forall_mem_map.mpr fun slot among => ?_)
    exact (below slot among).legible (slot.get s)
  · obtain ⟨out, fills⟩ := exists_filled below s gone distinct
    refine ⟨out.value, ?_, restored_of_filled below s gone layout.apart distinct fills⟩
    have filled := Reader.taken_record_objectTokens (Reader.wholeFields_of_forall whole)
      (wellFormed_membersOf below s gone) default
    rw [write_record, Json.without, Json.tokens_object]
    exact filled.trans (by rw [fills]; rfl)

end Records

end Codec

end Courier
