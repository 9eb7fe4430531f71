import Courier.Proofs.Checks
import Courier.Proofs.Json.Members

/-! What reading holds. Whatever text is read, the value has no more levels of containers than are
allowed, its integers fit into 64 bits and its objects are sorted. One token keeps this of all
containers that are open, and so a whole text keeps it of its value.
-/

namespace Courier.Json

-----------------------------------------------------------------------------------------
-- Sorted members
-----------------------------------------------------------------------------------------

/-- Members whose names come one after another, no name twice. -/
def Sorted (members : List (String × Json)) : Prop :=
  members.Pairwise (·.1 < ·.1)

theorem mem_of_mem_insertMember {name : String} {value : Json} {members : List (String × Json)}
    {member : String × Json} (among : member ∈ insertMember name value members)
    : member = (name, value) ∨ member ∈ members := by
  induction members with
  | nil => exact .inl (List.mem_singleton.mp among)
  | cons first rest ih =>
      obtain ⟨n, v⟩ := first
      simp only [insertMember] at among
      split_ifs at among <;> simp only [List.mem_cons] at among ⊢ <;> grind

/-- A member that is put into sorted members leaves them sorted, by induction on them. -/
theorem sorted_insertMember {members : List (String × Json)} (sorted : Sorted members)
    (name : String) (value : Json)
    : Sorted (insertMember name value members) := by
  induction members with
  | nil => exact List.pairwise_singleton _ _
  | cons first rest ih =>
      obtain ⟨n, v⟩ := first
      obtain ⟨before, restSorted⟩ := List.pairwise_cons.mp sorted
      simp only [insertMember]
      split_ifs with same earlier
      · obtain rfl : name = n := by simpa using same
        exact List.pairwise_cons.mpr ⟨before, restSorted⟩
      · refine List.pairwise_cons.mpr ⟨fun member among => ?_, sorted⟩
        rcases List.mem_cons.mp among with rfl | later
        · exact earlier
        · exact String.lt_trans earlier (before member later)
      · refine List.pairwise_cons.mpr ⟨fun member among => ?_, ih restSorted⟩
        rcases mem_of_mem_insertMember among with rfl | later
        · have other : name ≠ n := by simpa using same
          show n < name
          grind
        · exact before member later

/-- A member whose name comes last is put behind all others, by induction on them. -/
theorem insertMember_of_last {members : List (String × Json)} {name : String} (value : Json)
    (last : ∀ member ∈ members, member.1 < name)
    : insertMember name value members = members ++ [(name, value)] := by
  induction members with
  | nil => rfl
  | cons first rest ih =>
      obtain ⟨before, restBefore⟩ := List.forall_mem_cons.mp last
      have other : name ≠ first.1 := fun same => String.lt_irrefl _ (same ▸ before)
      rw [insertMember_cons_of_not_lt other (String.lt_asymm before), ih restBefore]
      rfl

theorem sorted_sortMembers (members : List (String × Json)) : Sorted (sortMembers members) := by
  have onto (sorted : List (String × Json)) (given : Sorted sorted)
      : Sorted (members.foldl (fun sorted m => insertMember m.1 m.2 sorted) sorted) := by
    induction members generalizing sorted with
    | nil => exact given
    | cons member members ih => exact ih _ (sorted_insertMember given _ _)
  exact onto [] .nil

/-- Sorting makes no new members, by induction on them with those that are sorted already. -/
theorem mem_of_mem_sortMembers {members : List (String × Json)} {member : String × Json}
    (among : member ∈ sortMembers members)
    : member ∈ members := by
  suffices onto : ∀ sorted,
      member ∈ members.foldl (fun sorted m => insertMember m.1 m.2 sorted) sorted
      → member ∈ members ∨ member ∈ sorted from
    (onto [] among).resolve_right List.not_mem_nil
  clear among
  induction members with
  | nil => exact fun sorted among => .inr among
  | cons first rest ih =>
      intro sorted among
      rcases ih _ among with later | inserted
      · exact .inl (List.mem_cons_of_mem first later)
      · rcases mem_of_mem_insertMember inserted with rfl | early
        · exact .inl List.mem_cons_self
        · exact .inr early

/-- Sorted members are sorted already, by induction on those that are still to be put in. -/
theorem sortMembers_of_sorted {members : List (String × Json)} (sorted : Sorted members)
    : sortMembers members = members := by
  have onto (before : List (String × Json)) (whole : Sorted (before ++ members))
      : members.foldl (fun sorted m => insertMember m.1 m.2 sorted) before = before ++ members := by
    induction members generalizing before with
    | nil => exact (List.append_nil before).symm
    | cons member members ih =>
        have last : ∀ first ∈ before, first.1 < member.1 := by
          intro first among
          exact (List.pairwise_append.mp whole).2.2 first among member List.mem_cons_self
        have split : before ++ member :: members = (before ++ [member]) ++ members := by simp
        rw [split] at whole ⊢
        rw [List.foldl_cons, insertMember_of_last member.2 last]
        exact ih (List.pairwise_append.mp whole).2.1 _ whole
  exact onto [] sorted

-----------------------------------------------------------------------------------------
-- Values as they are held
-----------------------------------------------------------------------------------------

/-- A value as it is held once it has been read: it has at most so many levels of containers, its
integers fit into 64 bits, and its objects are sorted. -/
inductive Stored : Nat → Json → Prop
  | null {levels} : Stored levels .null
  | bool {levels} (b : Bool) : Stored levels (.bool b)
  | integer {levels i} (fits : IsWord i) : Stored levels (.number (.integer i))
  | float {levels} (negative : Bool) (x : Decimal.Magnitude)
    : Stored levels (.number (.float negative x))
  | string {levels} (s : String) : Stored levels (.string s)
  | array {levels items} (each : ∀ item ∈ items, Stored levels item)
    : Stored (levels + 1) (.array items)
  | object {levels members} (each : ∀ member ∈ members, Stored levels member.2)
    (sorted : Sorted members)
    : Stored (levels + 1) (.object members)

/-- All numbers of a value are integers. -/
inductive Integral : Json → Prop
  | null : Integral .null
  | bool (b : Bool) : Integral (.bool b)
  | integer (i : Int) : Integral (.number (.integer i))
  | string (s : String) : Integral (.string s)
  | array {items} (each : ∀ item ∈ items, Integral item) : Integral (.array items)
  | object {members} (each : ∀ member ∈ members, Integral member.2) : Integral (.object members)

theorem heldItems_eq {items : List Json} (same : ∀ item ∈ items, item.held = item)
    : heldItems items = items := by
  induction items with
  | nil => rfl
  | cons item items ih =>
      obtain ⟨first, others⟩ := List.forall_mem_cons.mp same
      rw [heldItems, first, ih others]

namespace Stored

variable {levels : Nat} {j : Json}

/-- What has been read is held as it is, by induction on it. -/
theorem held_eq (stored : Stored levels j) : j.held = j := by
  induction stored with
  | null | bool | integer | float | string => rfl
  | array each same => rw [held, heldItems_eq same]
  | object each sorted same =>
      rw [held, heldMembers_eq same, ofMembers, sortMembers_of_sorted sorted]

/-- What has been read and has no other numbers than integers can be written and read again, by
induction on it. -/
theorem legible (stored : Stored levels j) (integral : j.Integral) : Legible levels j := by
  induction stored with
  | null => exact .null
  | bool b => exact .bool b
  | integer fits => exact .integer fits
  | float => cases integral
  | string s => exact .string s
  | array _ ih =>
      cases integral with
      | array each => exact .array fun item among => ih item among (each item among)
  | object _ _ ih =>
      cases integral with
      | object each => exact .object fun member among => ih member among (each member among)

theorem ofMembers {members : List (String × Json)}
    (each : ∀ member ∈ members, Stored levels member.2)
    : Stored (levels + 1) (ofMembers members) :=
  .object (fun member among => each member (mem_of_mem_sortMembers among))
    (sorted_sortMembers members)

end Stored

namespace Legible

variable {j : Json}

/-- A legible value without containers is held as it is. -/
theorem stored (plain : Legible 0 j) (levels : Nat) : Stored levels j := by
  cases plain with
  | null => exact .null
  | bool b => exact .bool b
  | integer fits => exact .integer fits
  | string s => exact .string s

theorem integral (plain : Legible 0 j) : j.Integral := by
  cases plain with
  | null => exact .null
  | bool b => exact .bool b
  | integer fits => exact .integer _
  | string s => exact .string s

end Legible

-----------------------------------------------------------------------------------------
-- Integers are read in range
-----------------------------------------------------------------------------------------

theorem float_ne_integer (negative : Bool) (significand : Nat) (exponent i : Int)
    : Literal.float negative significand exponent ≠ .ok (.integer i) := by
  rw [Literal.float]
  cases Decimal.Magnitude.ofDecimal significand 0 with
  | none => nofun
  | some x =>
      dsimp only
      cases Literal.scaleBy 4 x exponent <;> nofun

/-- Whatever a number is spelled like, it is held as an integer only if it fits into 64 bits. -/
theorem isWord_of_toNumber {literal : Literal} {i : Int}
    (read : literal.toNumber = .ok (.integer i))
    : IsWord i := by
  cases literal with
  | broken fault => cases read
  | decimal negative whole fraction exponent integral =>
      simp only [Literal.toNumber] at read
      split_ifs at read with natural below
      · obtain rfl : (Literal.value whole : Int) = i := by simpa using read
        rw [Bool.and_eq_true, decide_eq_true_eq, wordLimit] at natural
        exact ⟨by omega, by omega⟩
      · obtain rfl : (-Literal.value whole : Int) = i := by simpa using read
        rw [Bool.and_eq_true, decide_eq_true_eq, wordLimit] at below
        exact ⟨by omega, by omega⟩
      · have floats := float_ne_integer negative
        cases exponent with
        | none => exact absurd read (floats _ _ _)
        | some power =>
            dsimp only at read
            split_ifs at read
            · cases read
            · exact absurd read (floats _ _ _)
            · exact absurd read (floats _ _ _)

-----------------------------------------------------------------------------------------
-- A reading keeps this of all open containers
-----------------------------------------------------------------------------------------

/-- What an open container has so far is held with so many levels. -/
def Frame.Stores (levels : Nat) : Frame → Prop
  | .array items => ∀ item ∈ items, Stored levels item
  | .object members _ => ∀ member ∈ members, Stored levels member.2

/-- Each open container has what is allowed inside the containers around it. -/
def StackStores (levels : Nat) : List Frame → Prop
  | [] => True
  | frame :: below =>
    (∃ room, levels = below.length + 1 + room ∧ frame.Stores room) ∧ StackStores levels below

/-- A step completes a value or leaves containers open, and keeps what is allowed. -/
def Step.Stores (levels : Nat) : Step Frame Json → Prop
  | .done value => Stored levels value
  | .more stack _ => StackStores levels stack

section Steps

variable {levels : Nat} {stack : List Frame}

/-- A value that is begun has the levels that the open containers leave. -/
theorem StackStores.exists_room (stores : StackStores levels stack)
    : ∃ room, levels = stack.length + room := by
  cases stack with
  | nil => exact ⟨levels, by simp⟩
  | cons frame below =>
      obtain ⟨⟨room, fits, _⟩, _⟩ := stores
      exact ⟨room, fits⟩

theorem Frame.Stores.add {frame : Frame} {value : Json} (stores : frame.Stores levels)
    (stored : Stored levels value)
    : (frame.add value).Stores levels := by
  cases frame with
  | array items => exact List.forall_mem_cons.mpr ⟨stored, stores⟩
  | object members name => exact List.forall_mem_cons.mpr ⟨stored, stores⟩

theorem Frame.Stores.rename {frame : Frame} (stores : frame.Stores levels) (name : String)
    : (frame.rename name).Stores levels := by
  cases frame <;> exact stores

/-- A container that is closed is a value of one more level. -/
theorem Frame.Stores.close {frame : Frame} (stores : frame.Stores levels)
    : Stored (levels + 1) frame.close := by
  cases frame with
  | array items => exact .array fun item among => stores item (List.mem_reverse.mp among)
  | object members name =>
      exact .ofMembers fun member among => stores member (List.mem_reverse.mp among)

theorem addValue_stores (stores : StackStores levels stack) {room : Nat} {value : Json}
    (fits : levels = stack.length + room) (stored : Stored room value)
    : (addValue value stack).Stores levels := by
  cases stack with
  | nil =>
      obtain rfl : levels = room := by simpa using fits
      exact stored
  | cons frame below =>
      obtain ⟨⟨inside, within, holds⟩, rest⟩ := stores
      obtain rfl : inside = room := by
        rw [List.length_cons] at fits
        omega
      exact ⟨⟨inside, within, holds.add stored⟩, rest⟩

/-- A value of no levels fits wherever a value is begun. -/
theorem addValue_stores_plain (stores : StackStores levels stack) {value : Json}
    (stored : ∀ room, Stored room value)
    : (addValue value stack).Stores levels := by
  obtain ⟨room, fits⟩ := stores.exists_room
  exact addValue_stores stores fits (stored room)

theorem closeFrame_stores (stores : StackStores levels stack) {step : Step Frame Json}
    (taken : closeFrame stack = .ok step)
    : step.Stores levels := by
  cases stack with
  | nil => cases taken
  | cons frame below =>
      obtain ⟨⟨room, fits, holds⟩, rest⟩ := stores
      cases taken
      exact addValue_stores rest (by omega) holds.close

theorem nameMember_stores (stores : StackStores levels stack) {t : Token} {step : Step Frame Json}
    (taken : nameMember t stack = .ok step)
    : step.Stores levels := by
  rw [nameMember.eq_def] at taken
  split at taken
  · obtain ⟨⟨room, fits, holds⟩, rest⟩ := stores
    cases taken
    exact ⟨⟨room, fits, holds.rename _⟩, rest⟩
  · cases taken
  · cases taken

/-- A token that begins a value, by cases on the token. -/
theorem beginValue_stores (stores : StackStores levels stack) {t : Token} {step : Step Frame Json}
    (taken : beginValue (levels + 1) stack t = .ok step)
    : step.Stores levels := by
  have opened (room : stack.length + 2 ≤ levels + 1) {frame : Frame}
      (holds : ∀ inside, frame.Stores inside)
      : StackStores levels (frame :: stack) :=
    ⟨⟨levels - (stack.length + 1), by omega, holds _⟩, stores⟩
  cases t with
  | word word fault =>
      cases fault with
      | some fault => cases taken
      | none =>
          cases word <;> cases taken
          · exact addValue_stores_plain stores fun _ => .null
          · exact addValue_stores_plain stores fun _ => .bool true
          · exact addValue_stores_plain stores fun _ => .bool false
  | number literal =>
      obtain ⟨n, read, rfl⟩ := map_eq_ok_iff.mp taken
      refine addValue_stores_plain stores fun _ => ?_
      cases n with
      | integer i => exact .integer (isWord_of_toNumber read)
      | float negative x => exact .float negative x
  | string text fault =>
      obtain ⟨s, _, rfl⟩ := map_eq_ok_iff.mp taken
      exact addValue_stores_plain stores fun _ => .string s
  | beginArray =>
      simp only [beginValue] at taken
      split at taken
      · next room =>
          cases taken
          exact opened room fun _ => List.forall_mem_nil _
      · cases taken
  | beginObject =>
      simp only [beginValue] at taken
      split at taken
      · next room =>
          cases taken
          exact opened room fun _ => List.forall_mem_nil _
      · cases taken
  | endArray | endObject | comma | colon | other => cases taken

/-- One token keeps what is allowed, by cases on what may come next. -/
theorem readStep_stores (stores : StackStores levels stack) {want : Want} {t : Token}
    {step : Step Frame Json} (taken : readStep (levels + 1) stack want t = .ok step)
    : step.Stores levels := by
  rw [readStep.eq_def] at taken
  split at taken
  · exact beginValue_stores stores taken
  · exact closeFrame_stores stores taken
  · exact beginValue_stores stores taken
  · exact closeFrame_stores stores taken
  · exact nameMember_stores stores taken
  · exact nameMember_stores stores taken
  · cases taken
    exact stores
  · cases taken
  · cases taken
    exact stores
  · exact closeFrame_stores stores taken
  · cases taken
    exact stores
  · exact closeFrame_stores stores taken
  · cases taken

/-- A reading keeps what is allowed, by induction on the tokens. -/
theorem readValue_stores (stores : StackStores levels stack) {want : Want} {ts rest : List Token}
    {value : Json} (read : readValue (levels + 1) stack want ts = .ok (value, rest))
    : Stored levels value := by
  induction ts generalizing stack want with
  | nil => cases read
  | cons t ts ih =>
      rw [readValue, runSteps] at read
      split at read
      · cases read
      · next done taken =>
          cases read
          exact readStep_stores stores taken
      · next stack want taken => exact ih (readStep_stores stores taken) read

end Steps

/-- Whatever text is read as a document, the document is held with at most 127 levels. -/
theorem stored_of_parse {text : String} {document : Json} (read : parse text = .ok document)
    : Stored 127 document := by
  obtain ⟨⟨value, rest⟩, taken, ends⟩ := bind_eq_ok_iff.mp read
  have nothing : StackStores 127 [] := trivial
  have stored : Stored 127 value := readValue_stores nothing taken
  cases rest with
  | nil =>
      cases ends
      exact stored
  | cons t rest => cases ends

end Courier.Json
