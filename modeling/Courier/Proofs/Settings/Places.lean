import Courier.Proofs.Settings.Leaves

/-! Places of the settings. A section is taken from a table by the names of its fields or from a
list by their positions, so a setting has a name and a position on each step of the way to it. What
stands at its place in a tree is what it is taken from.
-/

namespace Courier

open Courier.Config (Node)

/-- The way to a setting: the name of a field and its position, for each record on the way. -/
abbrev Place := List (String × Nat)

/-- The names on the way. -/
def Place.names (place : Place) : List String := place.map (·.1)

namespace Config.Node

/-- What a value has for a field: the entry of its name or the item of its position. -/
def part? (name : String) (position : Nat) : Node → Option Node
  | table entries => find? name entries
  | array items => items[position]?
  | _ => none

/-- What stands at a place. -/
def at? : Place → Node → Option Node
  | [], node => some node
  | (name, position) :: place, node => (node.part? name position).bind (at? place)

/-- Where only tables lead, a setting has its place by the names alone. -/
theorem at?_of_stands? {place : Place} {node found : Node}
    (stands : stands? place.names (some node) = some (some found))
    : at? place node = some found := by
  induction place generalizing node with
  | nil => exact Option.some.inj stands
  | cons step place ih =>
      cases node with
      | table entries =>
          have below : stands? (Place.names place) (find? step.1 entries) = some (some found) :=
            stands
          cases here : find? step.1 entries with
          | none => simp [here] at below
          | some child =>
              rw [here] at below
              simp only [at?, part?, here, Option.bind_some]
              exact ih below
      | nil | bool | integer | float | text | array => cases stands

end Config.Node

namespace Codec

variable {σ : Type} {slots : List (Slot σ)} {slot : Slot σ} {s t : σ}

/-- A form takes a setting of a record from what stands at its place. -/
def Takes {α : Type} (codec : Codec σ) (place : Place) (form : Codec α) (get : σ → α) : Prop :=
  ∀ (node found : Node) (s : σ),
    node.at? place = some found → codec.convert node = some s → form.convert found = some (get s)

theorem takes_whole (codec : Codec σ) : codec.Takes [] codec id := by
  intro node found s stands converted
  obtain rfl := Option.some.inj stands
  exact converted

/-- Taking the other fields from a list leaves a field, by induction on the others. -/
theorem get_eq_of_convertItems {items : List Node} (apart : ∀ other ∈ slots, slot.Apart other)
    (converted : convertItems items (slots.map Slot.field) s = some t)
    : slot.get t = slot.get s := by
  induction slots generalizing items s with
  | nil =>
      cases items <;> (cases converted; rfl)
  | cons other slots ih =>
      cases items with
      | nil =>
          cases converted
          rfl
      | cons item items =>
          obtain ⟨own, rest⟩ := List.forall_mem_cons.mp apart
          obtain ⟨changed, set, converted⟩ := Option.bind_eq_some_iff.mp converted
          obtain ⟨v, _, rfl⟩ := Option.map_eq_some_iff.mp set
          exact (ih rest converted).trans (own.1 v s)

/-- A field is taken from the item of its position, by induction on the fields before it. -/
theorem get_of_convertItems {items : List Node} {position : Nat} {item : Node}
    (apart : slots.Pairwise Slot.Apart) (placed : slots[position]? = some slot)
    (found : items[position]? = some item)
    (converted : convertItems items (slots.map Slot.field) s = some t)
    : slot.codec.convert item = some (slot.get t) := by
  induction slots generalizing items position s with
  | nil => cases placed
  | cons first slots ih =>
      obtain ⟨firstApart, restApart⟩ := List.pairwise_cons.mp apart
      cases items with
      | nil => cases found
      | cons node items =>
          obtain ⟨changed, set, converted⟩ := Option.bind_eq_some_iff.mp converted
          cases position with
          | zero =>
              obtain rfl := Option.some.inj placed
              obtain rfl := Option.some.inj found
              obtain ⟨v, taken, rfl⟩ := Option.map_eq_some_iff.mp set
              rw [get_eq_of_convertItems firstApart converted, first.get_set, taken]
          | succ position => exact ih restApart placed found converted

/-- A record takes a setting of a field as the field's own form does. -/
theorem record_takes {α : Type} {form : Codec α} {place : Place} {get : slot.Value → α}
    {position : Nat} (default : σ) (apart : slots.Pairwise Slot.Apart)
    (placed : slots[position]? = some slot) (takes : slot.codec.Takes place form get)
    : (record default (slots.map Slot.field)).Takes ((slot.name, position) :: place) form
        (get ∘ slot.get) := by
  intro node found s stands converted
  obtain ⟨child, part, below⟩ := Option.bind_eq_some_iff.mp stands
  refine takes child found (slot.get s) below ?_
  cases node with
  | table entries =>
      have taken := get_of_convertTable apart (List.mem_of_getElem? placed) converted
      rw [show Node.find? slot.name entries = some child from part] at taken
      exact taken
  | array items => exact get_of_convertItems apart placed part converted
  | nil | bool | integer | float | text => cases part

/-- A form with independent fields takes a setting of one of them as the field's own form does. -/
theorem Layout.takes {codec : Codec σ} {default : σ} (layout : Layout codec default slots)
    {α : Type} {form : Codec α} {place : Place} {get : slot.Value → α} (position : Nat)
    (placed : slots[position]? = some slot) (takes : slot.codec.Takes place form get)
    : codec.Takes ((slot.name, position) :: place) form (get ∘ slot.get) := by
  rw [layout.form]
  exact record_takes default layout.apart placed takes

end Codec

end Courier
