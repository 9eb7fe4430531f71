import Courier.Proofs.Json.RoundTrip

/-! Well-formed values, token by token. A reader takes all tokens of such a value or fails on them,
whatever follows, so a record that is written as an object is filled by its members one after
another.
-/

namespace Courier.Json

-----------------------------------------------------------------------------------------
-- The grammar of values
-----------------------------------------------------------------------------------------

/-- A member as a text spells it: what its name reads as, and the tokens of its value. -/
structure Member where
  name : Except Fault String
  value : List Token

/-- The tokens of the items after the first, up to the closing bracket. -/
def laterItems : List (List Token) → List Token
  | [] => [.endArray]
  | item :: items => .comma :: (item ++ laterItems items)

def arrayTokens : List (List Token) → List Token
  | [] => [.beginArray, .endArray]
  | item :: items => .beginArray :: (item ++ laterItems items)

/-- The tokens of the members after the first, up to the closing brace. -/
def laterMembers : List Member → List Token
  | [] => [.endObject]
  | member :: members =>
    .comma :: .string member.name none :: .colon :: (member.value ++ laterMembers members)

def objectTokens : List Member → List Token
  | [] => [.beginObject, .endObject]
  | member :: members =>
    .beginObject :: .string member.name none :: .colon :: (member.value ++ laterMembers members)

/-- The tokens of one value that is spelled as the grammar of JSON has it. The escapes of its
strings need not spell characters. -/
inductive WellFormed : List Token → Prop
  | word (word : Word) : WellFormed [.word word none]
  | number {literal : Literal} (sound : literal.isBroken = false) : WellFormed [.number literal]
  | string (text : Except Fault String) : WellFormed [.string text none]
  | array {items : List (List Token)} (each : ∀ item ∈ items, WellFormed item)
    : WellFormed (arrayTokens items)
  | object {members : List Member} (each : ∀ member ∈ members, WellFormed member.value)
    : WellFormed (objectTokens members)

-----------------------------------------------------------------------------------------
-- A well-formed value is skipped
-----------------------------------------------------------------------------------------

/-- How a skipping goes on after a step. -/
def skipOn : Step Bracket Unit → List Token → Except Fault (List Token)
  | .done _, ts => .ok ts
  | .more stack want, ts => skipValue stack want ts

theorem skipValue_cons {stack : List Bracket} {want : Want} {t : Token} {step : Step Bracket Unit}
    (taken : skipStep stack want t = .ok step) (ts : List Token)
    : skipValue stack want (t :: ts) = skipOn step ts := by
  simp only [skipValue, runSteps, taken]
  cases step <;> rfl

/-- The tokens of a value are skipped, and what is open stays open. -/
def Skips (ts : List Token) : Prop :=
  ∀ stack rest, skipValue stack .value (ts ++ rest) = skipOn (skipOver stack) rest

/-- Items are skipped one after another, by induction on them. -/
theorem skipValue_laterItems {items : List (List Token)} (each : ∀ item ∈ items, Skips item)
    (below : List Bracket) (rest : List Token)
    : skipValue (.square :: below) .next (laterItems items ++ rest)
      = skipOn (skipOver below) rest := by
  induction items with
  | nil => exact skipValue_cons rfl rest
  | cons item items ih =>
      have later := ih fun item among => each item (List.mem_cons_of_mem _ among)
      rw [laterItems, List.cons_append, skipValue_cons rfl, skipOn, List.append_assoc,
        each item List.mem_cons_self]
      exact later

/-- Members are skipped one after another, by induction on them. -/
theorem skipValue_laterMembers {members : List Member}
    (each : ∀ member ∈ members, Skips member.value) (below : List Bracket) (rest : List Token)
    : skipValue (.curly :: below) .next (laterMembers members ++ rest)
      = skipOn (skipOver below) rest := by
  induction members with
  | nil => exact skipValue_cons rfl rest
  | cons member members ih =>
      have later := ih fun member among => each member (List.mem_cons_of_mem _ among)
      have value := each member List.mem_cons_self (.curly :: below) (laterMembers members ++ rest)
      rw [laterMembers, List.cons_append, skipValue_cons rfl, List.cons_append, List.cons_append,
        List.append_assoc]
      exact value.trans later

/-- Where a first item may come, a value is skipped as anywhere else. -/
theorem WellFormed.skipValue_firstItem {ts : List Token} (formed : WellFormed ts)
    (stack : List Bracket) (rest : List Token)
    : skipValue stack .firstItem (ts ++ rest) = skipValue stack .value (ts ++ rest) := by
  cases formed with
  | word | number | string => rfl
  | @array items => cases items <;> rfl
  | @object members => cases members <;> rfl

/-- An array is skipped from its first item on as it is from a later one. -/
theorem skipValue_arrayTokens {items : List (List Token)}
    (each : ∀ item ∈ items, WellFormed item) (stack : List Bracket) (rest : List Token)
    : skipValue stack .value (arrayTokens items ++ rest)
      = skipValue (.square :: stack) .next (laterItems items ++ rest) := by
  cases items with
  | nil => rfl
  | cons item items =>
      rw [arrayTokens, laterItems, List.cons_append, List.cons_append, List.append_assoc]
      exact (each item List.mem_cons_self).skipValue_firstItem _ _

/-- An object is skipped from its first member on as it is from a later one. -/
theorem skipValue_objectTokens (members : List Member) (stack : List Bracket) (rest : List Token)
    : skipValue stack .value (objectTokens members ++ rest)
      = skipValue (.curly :: stack) .next (laterMembers members ++ rest) := by
  cases members <;> rfl

/-- A well-formed value is skipped, by induction on it. -/
theorem WellFormed.skips {ts : List Token} (formed : WellFormed ts) : Skips ts := by
  induction formed with
  | word word => exact fun stack rest => skipValue_cons rfl rest
  | @number literal sound =>
      intro stack rest
      cases literal with
      | decimal => exact skipValue_cons rfl rest
      | broken => cases sound
  | string text => exact fun stack rest => skipValue_cons rfl rest
  | array each ih =>
      intro stack rest
      rw [skipValue_arrayTokens each, skipValue_laterItems ih]
  | object each ih =>
      intro stack rest
      rw [skipValue_objectTokens, skipValue_laterMembers ih]

-----------------------------------------------------------------------------------------
-- A well-formed value is read or refused
-----------------------------------------------------------------------------------------

/-- The tokens of a value are read as a value, or refused, whatever follows them. -/
def Reads (depth : Nat) (ts : List Token) (stack : List Frame) (result : Except Fault Json)
    : Prop :=
  ∀ rest,
    readValue depth stack .value (ts ++ rest)
    = result >>= fun value => resume depth (addValue value stack) rest

theorem readValue_cons_error {depth : Nat} {stack : List Frame} {want : Want} {t : Token}
    {fault : Fault} (refused : readStep depth stack want t = .error fault) (ts : List Token)
    : readValue depth stack want (t :: ts) = .error fault := by
  simp only [readValue, runSteps, refused]

/-- Items are read into the open array or refused, by induction on them. -/
theorem readValue_laterItems {depth : Nat} {items : List (List Token)}
    (each : ∀ item ∈ items, ∀ stack, ∃ result, Reads depth item stack result)
    (below : List Frame) (read : List Json)
    : ∃ result : Except Fault Json,
        result ≠ .ok (.bool true)
        ∧ ∀ rest,
          readValue depth (.array read :: below) .next (laterItems items ++ rest)
          = result >>= fun value => resume depth (addValue value below) rest := by
  induction items generalizing read with
  | nil => exact ⟨.ok (.array read.reverse), nofun, fun rest => readValue_cons rfl rest⟩
  | cons item items ih =>
      have onward := ih fun item among => each item (List.mem_cons_of_mem _ among)
      obtain ⟨result, reads⟩ := each item List.mem_cons_self (.array read :: below)
      cases result with
      | error fault =>
          refine ⟨.error fault, nofun, fun rest => ?_⟩
          rw [laterItems, List.cons_append, readValue_cons rfl, resume, List.append_assoc, reads]
          rfl
      | ok value =>
          obtain ⟨result, other, later⟩ := onward (value :: read)
          refine ⟨result, other, fun rest => ?_⟩
          rw [laterItems, List.cons_append, readValue_cons rfl, resume, List.append_assoc, reads]
          exact later rest

/-- A member is read into the open object, or refused with its name or its value. -/
theorem readValue_member {depth : Nat} {member : Member}
    (each : ∀ stack, ∃ result, Reads depth member.value stack result) (below : List Frame)
    (read : List (String × Json)) (last : String)
    : ∃ result : Except Fault (String × Json),
        ∀ rest,
          readValue depth (.object read last :: below) .member
            (.string member.name none :: .colon :: (member.value ++ rest))
          = result >>= fun own =>
            readValue depth (.object (own :: read) own.1 :: below) .next rest := by
  obtain ⟨named, value⟩ := member
  cases named with
  | error fault => exact ⟨.error fault, fun rest => readValue_cons_error rfl _⟩
  | ok name =>
      obtain ⟨result, reads⟩ := each (.object read name :: below)
      cases result with
      | error fault => exact ⟨.error fault, reads⟩
      | ok value => exact ⟨.ok (name, value), reads⟩

/-- Members are read into the open object or refused, by induction on them. -/
theorem readValue_laterMembers {depth : Nat} {members : List Member}
    (each : ∀ member ∈ members, ∀ stack, ∃ result, Reads depth member.value stack result)
    (below : List Frame) (read : List (String × Json)) (last : String)
    : ∃ result : Except Fault Json,
        result ≠ .ok (.bool true)
        ∧ ∀ rest,
          readValue depth (.object read last :: below) .next (laterMembers members ++ rest)
          = result >>= fun value => resume depth (addValue value below) rest := by
  induction members generalizing read last with
  | nil =>
      exact ⟨.ok (ofMembers read.reverse), by simp [ofMembers],
        fun rest => readValue_cons rfl rest⟩
  | cons member members ih =>
      have onward := ih fun member among => each member (List.mem_cons_of_mem _ among)
      obtain ⟨result, first⟩ := readValue_member (each member List.mem_cons_self) below read last
      have opens (rest : List Token)
          : readValue depth (.object read last :: below) .next
              (laterMembers (member :: members) ++ rest)
            = result >>= fun own =>
              readValue depth (.object (own :: read) own.1 :: below) .next
                (laterMembers members ++ rest) := by
        rw [laterMembers, List.cons_append, readValue_cons rfl, resume, List.cons_append,
          List.cons_append, List.append_assoc]
        exact first _
      cases result with
      | error fault => exact ⟨.error fault, by simp, opens⟩
      | ok own =>
          obtain ⟨result, other, later⟩ := onward (own :: read) own.1
          exact ⟨result, other, fun rest => (opens rest).trans (later rest)⟩

/-- Where a first item may come, a value is read as anywhere else. -/
theorem WellFormed.readValue_firstItem {ts : List Token} (formed : WellFormed ts) (depth : Nat)
    (stack : List Frame) (rest : List Token)
    : readValue depth stack .firstItem (ts ++ rest)
      = readValue depth stack .value (ts ++ rest) := by
  cases formed with
  | word | number | string => rfl
  | @array items => cases items <;> rfl
  | @object members => cases members <;> rfl

/-- An array is read from its first item on as it is from a later one, unless it is too deep. -/
theorem readValue_arrayTokens {depth : Nat} {items : List (List Token)}
    (each : ∀ item ∈ items, WellFormed item) {stack : List Frame}
    (room : stack.length + 2 ≤ depth) (rest : List Token)
    : readValue depth stack .value (arrayTokens items ++ rest)
      = readValue depth (.array [] :: stack) .next (laterItems items ++ rest) := by
  have opened : readStep depth stack .value .beginArray
      = .ok (.more (.array [] :: stack) .firstItem) := by
    simp only [readStep, beginValue, if_pos room]
  cases items with
  | nil => exact readValue_cons opened (.endArray :: rest)
  | cons item items =>
      rw [arrayTokens, laterItems, List.cons_append, List.cons_append, List.append_assoc,
        readValue_cons opened]
      exact (each item List.mem_cons_self).readValue_firstItem _ _ _

/-- An object is read from its first member on as it is from a later one, unless it is too deep. -/
theorem readValue_objectTokens {depth : Nat} (members : List Member) {stack : List Frame}
    (room : stack.length + 2 ≤ depth) (rest : List Token)
    : readValue depth stack .value (objectTokens members ++ rest)
      = readValue depth (.object [] "" :: stack) .next (laterMembers members ++ rest) := by
  have opened : readStep depth stack .value .beginObject
      = .ok (.more (.object [] "" :: stack) .firstMember) := by
    simp only [readStep, beginValue, if_pos room]
  cases members with
  | nil => exact readValue_cons opened (.endObject :: rest)
  | cons member members => exact readValue_cons opened _

/-- A container that has too many levels around it is refused at its first token. -/
theorem readStep_of_deep {depth : Nat} {stack : List Frame}
    (deep : ¬ stack.length + 2 ≤ depth) {t : Token} (opens : t = .beginArray ∨ t = .beginObject)
    : readStep depth stack .value t = .error .malformed := by
  rcases opens with rfl | rfl <;> simp only [readStep, beginValue, if_neg deep]

/-- A well-formed value is read or refused, and only one word is read as true, by induction on the
value. -/
theorem WellFormed.reads {ts : List Token} (formed : WellFormed ts) (depth : Nat)
    (stack : List Frame)
    : ∃ result : Except Fault Json,
        (result = .ok (.bool true) ↔ ts = [.word .true none]) ∧ Reads depth ts stack result := by
  induction formed generalizing stack with
  | word word =>
      cases word with
      | null => exact ⟨.ok .null, by simp, fun rest => readValue_cons rfl rest⟩
      | true => exact ⟨.ok (.bool true), by simp, fun rest => readValue_cons rfl rest⟩
      | false => exact ⟨.ok (.bool false), by simp, fun rest => readValue_cons rfl rest⟩
  | @number literal sound =>
      cases number : literal.toNumber with
      | error fault =>
          refine ⟨.error fault, by simp, fun rest => readValue_cons_error ?_ rest⟩
          simp only [readStep, beginValue, number, Except.map]
      | ok n =>
          refine ⟨.ok (.number n), by simp, fun rest => readValue_cons ?_ rest⟩
          simp only [readStep, beginValue, number, Except.map]
  | string text =>
      cases text with
      | error fault => exact ⟨.error fault, by simp, fun rest => readValue_cons_error rfl rest⟩
      | ok s => exact ⟨.ok (.string s), by simp, fun rest => readValue_cons rfl rest⟩
  | @array items each ih =>
      have container : arrayTokens items ≠ [.word .true none] := by
        cases items <;> simp [arrayTokens]
      by_cases room : stack.length + 2 ≤ depth
      · obtain ⟨result, other, reads⟩ := readValue_laterItems
          (fun item among stack => (ih item among stack).imp fun _ => And.right) stack []
        refine ⟨result, iff_of_false other container, fun rest => ?_⟩
        rw [readValue_arrayTokens each room, reads]
      · refine ⟨.error .malformed, iff_of_false (by simp) container, fun rest => ?_⟩
        have refused := readStep_of_deep room (.inl rfl)
        cases items <;> exact readValue_cons_error refused _
  | @object members each ih =>
      have container : objectTokens members ≠ [.word .true none] := by
        cases members <;> simp [objectTokens]
      by_cases room : stack.length + 2 ≤ depth
      · obtain ⟨result, other, reads⟩ := readValue_laterMembers
          (fun member among stack => (ih member among stack).imp fun _ => And.right) stack [] ""
        refine ⟨result, iff_of_false other container, fun rest => ?_⟩
        rw [readValue_objectTokens members room, reads]
      · refine ⟨.error .malformed, iff_of_false (by simp) container, fun rest => ?_⟩
        have refused := readStep_of_deep room (.inr rfl)
        cases members <;> exact readValue_cons_error refused _

-----------------------------------------------------------------------------------------
-- The tokens of a value are well-formed
-----------------------------------------------------------------------------------------

/-- A member as it is written. -/
def Member.of (member : String × Json) : Member := ⟨.ok member.1, member.2.tokens⟩

theorem itemTokens_eq (items : List Json) : itemTokens items = laterItems (items.map tokens) := by
  induction items with
  | nil => rfl
  | cons item items ih => rw [itemTokens, ih, List.map_cons, laterItems]

theorem tokens_array (items : List Json)
    : (Json.array items).tokens = arrayTokens (items.map tokens) := by
  cases items with
  | nil => rfl
  | cons item items => rw [tokens, itemTokens_eq, List.map_cons, arrayTokens]

theorem memberTokens_eq (members : List (String × Json))
    : memberTokens members = laterMembers (members.map Member.of) := by
  induction members with
  | nil => rfl
  | cons member members ih => rw [memberTokens, ih, List.map_cons, laterMembers, Member.of]

theorem tokens_object (members : List (String × Json))
    : (Json.object members).tokens = objectTokens (members.map Member.of) := by
  cases members with
  | nil => rfl
  | cons member members => rw [tokens, memberTokens_eq, List.map_cons, objectTokens, Member.of]

theorem isBroken_integerLiteral (i : Int) : (integerLiteral i).isBroken = false := rfl

/-- A legible value has well-formed tokens, by induction on it. -/
theorem Legible.wellFormed {levels : Nat} {j : Json} (legible : Legible levels j)
    : WellFormed j.tokens := by
  induction legible with
  | null => exact .word .null
  | bool b => cases b <;> exact .word _
  | @integer _ i fits => exact .number (isBroken_integerLiteral i)
  | string s => exact .string (.ok s)
  | array each ih =>
      rw [tokens_array]
      exact .array (List.forall_mem_map.mpr ih)
  | object each ih =>
      rw [tokens_object]
      exact .object (List.forall_mem_map.mpr ih)

end Courier.Json
