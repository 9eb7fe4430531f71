import Courier.Proofs.Json.RoundTrip

/-! The members of a document: another value for a name can be put in before the members are sorted
or after, and a document of plain values is read back as its sorted members.
-/

namespace Courier.Json

theorem replaceMember_fst (name : String) (value : Json) (member : String × Json)
    : (replaceMember name value member).1 = member.1 := by
  rw [replaceMember]
  split <;> rfl

theorem insertMember_nil (name : String) (value : Json)
    : insertMember name value [] = [(name, value)] :=
  rfl

theorem insertMember_cons_of_lt {name n : String} {value v : Json} {rest : List (String × Json)}
    (other : name ≠ n) (before : name < n)
    : insertMember name value ((n, v) :: rest) = (name, value) :: (n, v) :: rest := by
  rw [insertMember, if_neg (by simpa using other), if_pos before]

theorem insertMember_cons_of_not_lt {name n : String} {value v : Json}
    {rest : List (String × Json)} (other : name ≠ n) (after : ¬ name < n)
    : insertMember name value ((n, v) :: rest) = (n, v) :: insertMember name value rest := by
  rw [insertMember, if_neg (by simpa using other), if_neg after]

/-- Another value can be put in before a member is inserted or after, by induction on the members
that are there. -/
theorem map_insertMember (name : String) (value : Json) (member : String × Json)
    (sorted : List (String × Json))
    : (insertMember member.1 member.2 sorted).map (replaceMember name value)
      = insertMember (replaceMember name value member).1 (replaceMember name value member).2
          (sorted.map (replaceMember name value)) := by
  induction sorted with
  | nil => rfl
  | cons first rest ih =>
      rw [replaceMember_fst] at ih ⊢
      have whole : (member.1, (replaceMember name value member).2)
          = replaceMember name value member :=
        Prod.ext (replaceMember_fst name value member).symm rfl
      have head : (first.1, (replaceMember name value first).2)
          = replaceMember name value first :=
        Prod.ext (replaceMember_fst name value first).symm rfl
      simp only [insertMember, List.map_cons, replaceMember_fst]
      split_ifs
      · rw [List.map_cons, whole]
      · rw [List.map_cons, List.map_cons, whole, head]
      · rw [List.map_cons, ih, head]

/-- Another value can be put in before the members are sorted or after, by induction on the members
with those that are sorted already.
-/
theorem map_sortMembers (name : String) (value : Json) (members : List (String × Json))
    : (sortMembers members).map (replaceMember name value)
      = sortMembers (members.map (replaceMember name value)) := by
  have onto (sorted : List (String × Json))
      : (members.foldl (fun sorted m => insertMember m.1 m.2 sorted) sorted).map
          (replaceMember name value)
        = (members.map (replaceMember name value)).foldl
            (fun sorted m => insertMember m.1 m.2 sorted)
            (sorted.map (replaceMember name value)) := by
    induction members generalizing sorted with
    | nil => rfl
    | cons member members ih =>
        simp only [List.foldl_cons, List.map_cons]
        rw [ih, map_insertMember]
  exact onto []

theorem replace_ofMembers (name : String) (value : Json) (members : List (String × Json))
    : (ofMembers members).replace name value
      = ofMembers (members.map (replaceMember name value)) :=
  congrArg Json.object (map_sortMembers name value members)

theorem Legible.anyLevels {j : Json} (plain : Legible 0 j) (levels : Nat) : Legible levels j := by
  cases plain with
  | null => exact .null
  | bool b => exact .bool b
  | integer fits => exact .integer fits
  | string s => exact .string s

theorem Legible.held_eq {j : Json} (plain : Legible 0 j) : j.held = j := by
  cases plain <;> rfl

theorem heldMembers_eq {members : List (String × Json)}
    (same : ∀ member ∈ members, member.2.held = member.2)
    : heldMembers members = members := by
  induction members with
  | nil => rfl
  | cons member members ih =>
      obtain ⟨first, others⟩ := List.forall_mem_cons.mp same
      rw [heldMembers, first, ih others]

/-- A document of plain values is read back as its members, sorted. -/
theorem parse_members {members : List (String × Json)}
    (plain : ∀ member ∈ members, Legible 0 member.2)
    : parse (Json.object members).compact = .ok (ofMembers members) := by
  have legible : Legible 127 (.object members) :=
    .object fun member among => (plain member among).anyLevels 126
  have same : heldMembers members = members :=
    heldMembers_eq fun member among => (plain member among).held_eq
  rw [parse_compact legible, held, same]

end Courier.Json
