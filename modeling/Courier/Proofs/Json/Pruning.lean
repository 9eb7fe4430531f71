import Courier.Proofs.Json.Records

/-! Documents from which members are deleted. Members are told by the names that lead to them, so
what is deleted is a set of paths; a member goes with all that is inside its value.
-/

namespace Courier.Json

-----------------------------------------------------------------------------------------
-- Deleting members
-----------------------------------------------------------------------------------------

mutual

/-- A document without the members at the paths that are gone, at any level. -/
def without (gone : List String → Bool) : Json → Json
  | .object members => .object (withoutMembers gone members)
  | .null => .null
  | .bool b => .bool b
  | .number n => .number n
  | .string s => .string s
  | .array items => .array items

def withoutMembers (gone : List String → Bool) : List (String × Json) → List (String × Json)
  | [] => []
  | (name, x) :: ms =>
    if gone [name] then withoutMembers gone ms
    else (name, x.without fun path => gone (name :: path)) :: withoutMembers gone ms

end

/-- What stands at a path is cut off: a member that leads to it is gone. -/
def Cut (gone : List String → Bool) (path : List String) : Prop :=
  ∃ start, start ≠ [] ∧ start <+: path ∧ gone start = true

theorem not_cut_nil (gone : List String → Bool) : ¬ Cut gone [] := by
  rintro ⟨start, some, leads, -⟩
  exact some (List.prefix_nil.mp leads)

/-- What is inside a member is cut off with the member or inside it. -/
theorem cut_cons_iff (gone : List String → Bool) (name : String) (path : List String)
    : Cut gone (name :: path)
      ↔ gone [name] = true ∨ Cut (fun inner => gone (name :: inner)) path := by
  constructor
  · rintro ⟨start, some, leads, deleted⟩
    obtain rfl | ⟨inner, rfl, within⟩ := List.prefix_cons_iff.mp leads
    · exact absurd rfl some
    · cases inner with
      | nil => exact .inl deleted
      | cons next inner => exact .inr ⟨next :: inner, nofun, within, deleted⟩
  · rintro (deleted | ⟨inner, -, within, deleted⟩)
    · exact ⟨[name], nofun, ⟨path, rfl⟩, deleted⟩
    · exact ⟨name :: inner, nofun, List.prefix_cons_iff.mpr (.inr ⟨inner, rfl, within⟩), deleted⟩

section Members

variable {members : List (String × Json)}

/-- A member that is left comes from a member of the document, by induction on the members. -/
theorem mem_of_mem_withoutMembers {gone : List String → Bool} {member : String × Json}
    (left : member ∈ withoutMembers gone members)
    : ∃ value,
        (member.1, value) ∈ members
        ∧ member.2 = value.without fun path => gone (member.1 :: path) := by
  induction members with
  | nil => cases left
  | cons first members ih =>
      obtain ⟨name, value⟩ := first
      have later (left : member ∈ withoutMembers gone members) := (ih left).imp fun _ found =>
        found.imp_left (List.mem_cons_of_mem (name, value))
      rw [withoutMembers] at left
      split at left
      · exact later left
      · rcases List.mem_cons.mp left with rfl | left
        · exact ⟨value, List.mem_cons_self, rfl⟩
        · exact later left

/-- Where no member is gone, the members stay as they are if their values do. -/
theorem withoutMembers_none
    (same : ∀ member ∈ members, member.2.without (fun _ => false) = member.2)
    : withoutMembers (fun _ => false) members = members := by
  induction members with
  | nil => rfl
  | cons member members ih =>
      obtain ⟨first, others⟩ := List.forall_mem_cons.mp same
      rw [withoutMembers, if_neg Bool.false_ne_true, ih others, first]

end Members

namespace Legible

variable {levels : Nat} {j : Json}

/-- A document from which nothing is deleted is the document, by induction on it. -/
theorem without_none (legible : Legible levels j) : j.without (fun _ => false) = j := by
  induction legible with
  | null | bool | integer | string | array => rfl
  | object each ih => rw [without, withoutMembers_none ih]

/-- What is left of a legible document is legible, by induction on the document. -/
theorem prune (legible : Legible levels j) (gone : List String → Bool)
    : Legible levels (j.without gone) := by
  induction legible generalizing gone with
  | null => exact .null
  | bool b => exact .bool b
  | integer fits => exact .integer fits
  | string s => exact .string s
  | array each => exact .array each
  | @object levels members each ih =>
      refine .object fun member left => ?_
      obtain ⟨value, among, kept⟩ := mem_of_mem_withoutMembers left
      rw [kept]
      exact ih _ among _

/-- A value without containers has no members to delete. -/
theorem without_eq (plain : Legible 0 j) (gone : List String → Bool) : j.without gone = j := by
  cases plain <;> rfl

end Legible

-----------------------------------------------------------------------------------------
-- The values that are left
-----------------------------------------------------------------------------------------

section Values

variable {members : List (String × Json)} {name : String}

theorem valuesOf_withoutMembers_of_notMem (missing : name ∉ members.map Prod.fst)
    (gone : List String → Bool)
    : valuesOf name ((withoutMembers gone members).map Member.of) = [] := by
  induction members with
  | nil => rfl
  | cons first members ih =>
      obtain ⟨other, value⟩ := first
      obtain ⟨differs, later⟩ := not_or.mp (mt List.mem_cons.mpr missing)
      rw [withoutMembers]
      split
      · exact ih later
      · rw [List.map_cons, valuesOf_cons_of_ne rfl (Ne.symm differs), ih later]

/-- A name that one member has is left its value, or nothing if the member is gone, by induction on
the members. -/
theorem valuesOf_withoutMembers {value : Json} (distinct : (members.map Prod.fst).Nodup)
    (among : (name, value) ∈ members) (gone : List String → Bool)
    : valuesOf name ((withoutMembers gone members).map Member.of)
      = if gone [name] then []
        else [(value.without fun path => gone (name :: path)).tokens] := by
  induction members with
  | nil => cases among
  | cons first members ih =>
      obtain ⟨other, inner⟩ := first
      obtain ⟨missing, distinct⟩ := List.nodup_cons.mp distinct
      rw [withoutMembers]
      rcases List.mem_cons.mp among with same | later
      · obtain ⟨rfl, rfl⟩ := Prod.mk.inj same
        have alone := valuesOf_withoutMembers_of_notMem missing gone
        split
        · exact alone
        · rw [List.map_cons, valuesOf_cons_self rfl, alone]
          rfl
      · have differs : other ≠ name := by
          rintro rfl
          exact missing (List.mem_map.mpr ⟨_, later, rfl⟩)
        split
        · exact ih distinct later
        · rw [List.map_cons, valuesOf_cons_of_ne rfl differs, ih distinct later]

end Values

/-- A member is deleted with what is inside it, and what is beside it stays. -/
example
    : let inner : Json := .object [("b", .null), ("c", .null)]
      (Json.object [("a", inner), ("d", inner)]).without
          (fun path => path == ["a", "b"] || path == ["d"])
        = .object [("a", .object [("c", .null)])] := by
  rfl

end Courier.Json
