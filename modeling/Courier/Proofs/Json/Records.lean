import Courier.Proofs.Checks
import Courier.Proofs.Json.Grammar

/-! Records that are written as objects. A record is filled member by member: every name must be a
text, a field has one value at most, which its reader accepts, and all other members are passed
over.
-/

namespace Courier.Json

variable {α β σ : Type}

-----------------------------------------------------------------------------------------
-- Readers of whole values
-----------------------------------------------------------------------------------------

namespace Reader

/-- What a reader makes of the front of tokens. -/
def taken (reader : Reader α) (ts : List Token) : Except Fault α := (reader ts).map (·.1)

/-- A reader takes every well-formed value as a whole or refuses it, whatever follows. -/
def Whole (reader : Reader α) : Prop :=
  ∀ ts, WellFormed ts → ∀ rest, reader (ts ++ rest) = (reader.taken ts).map (·, rest)

theorem taken_of_takes {reader : Reader α} {ts : List Token} {result : Except Fault α}
    (takes : ∀ rest, reader (ts ++ rest) = result.map (·, rest))
    : reader.taken ts = result := by
  have alone := takes []
  rw [List.append_nil] at alone
  rw [taken, alone]
  cases result <;> rfl

/-- What does not depend on what follows is what is taken of the value alone. -/
theorem whole_of_takes {reader : Reader α}
    (takes
      : ∀ ts, WellFormed ts
        → ∃ result : Except Fault α, ∀ rest, reader (ts ++ rest) = result.map (·, rest))
    : reader.Whole := by
  intro ts formed rest
  obtain ⟨result, same⟩ := takes ts formed
  rw [taken_of_takes same, same]

theorem value_takes (outside : Nat) {ts : List Token} (formed : WellFormed ts)
    : ∃ result : Except Fault Json,
        (result = .ok (.bool true) ↔ ts = [.word .true none])
        ∧ ∀ rest, value outside (ts ++ rest) = result.map (·, rest) := by
  obtain ⟨result, literal, reads⟩ := formed.reads (depthLimit - outside) []
  refine ⟨result, literal, fun rest => (reads rest).trans ?_⟩
  cases result <;> rfl

theorem whole_value (outside : Nat) : (value outside).Whole :=
  whole_of_takes fun _ formed => (value_takes outside formed).imp fun _ => And.right

/-- Only one word is read as the value true. -/
theorem taken_value_eq_true_iff (outside : Nat) {ts : List Token} (formed : WellFormed ts)
    : (value outside).taken ts = .ok (.bool true) ↔ ts = [.word .true none] := by
  obtain ⟨result, literal, takes⟩ := value_takes outside formed
  rw [taken_of_takes takes, literal]

/-- A reader that decides at the first token, and takes no container, takes whole values. -/
theorem whole_of_first {reader : Reader α} {array object : Fault}
    (first : ∀ t rest, reader (t :: rest) = (reader.taken [t]).map (·, rest))
    (refusesArray : reader.taken [.beginArray] = .error array)
    (refusesObject : reader.taken [.beginObject] = .error object)
    : reader.Whole := by
  refine whole_of_takes fun ts formed => ?_
  cases formed with
  | word | number | string => exact ⟨_, first _⟩
  | @array items =>
      refine ⟨.error array, fun rest => ?_⟩
      cases items <;> exact (first .beginArray _).trans (by rw [refusesArray]; rfl)
  | @object members =>
      refine ⟨.error object, fun rest => ?_⟩
      cases members <;> exact (first .beginObject _).trans (by rw [refusesObject]; rfl)

theorem whole_string : string.Whole := by
  refine whole_of_first (fun t rest => ?_) rfl rfl
  cases t with
  | string text fault => cases text <;> rfl
  | _ => rfl

theorem taken_map (reader : Reader α) (f : α → β) (ts : List Token)
    : taken (reader.map f) ts = (reader.taken ts).map f := by
  rw [taken, taken, Reader.map]
  cases reader ts <;> rfl

theorem isOk_taken_map (reader : Reader α) (f : α → β) (ts : List Token)
    : (taken (reader.map f) ts).isOk = (reader.taken ts).isOk := by
  rw [taken_map]
  cases reader.taken ts <;> rfl

theorem Whole.map {reader : Reader α} (whole : reader.Whole) (f : α → β)
    : (reader.map f).Whole := by
  refine whole_of_takes fun ts formed => ⟨(reader.taken ts).map f, fun rest => ?_⟩
  rw [Reader.map, whole ts formed rest]
  cases reader.taken ts <;> rfl

/-- A value that is not null is read as it is without the choice of null. -/
theorem optional_eq_map (reader : Reader α) {ts : List Token} (formed : WellFormed ts)
    (other : ts ≠ [.word .null none]) (rest : List Token)
    : optional reader (ts ++ rest) = reader.map some (ts ++ rest) := by
  cases formed with
  | word word =>
      cases word with
      | null => exact absurd rfl other
      | true | false => rfl
  | number | string => rfl
  | @array items => cases items <;> rfl
  | @object members => cases members <;> rfl

theorem Whole.optional {reader : Reader α} (whole : reader.Whole) : (optional reader).Whole := by
  refine whole_of_takes fun ts formed => ?_
  by_cases null : ts = [.word .null none]
  · subst null
    exact ⟨.ok none, fun rest => rfl⟩
  · refine ⟨(reader.map some).taken ts, fun rest => ?_⟩
    rw [optional_eq_map reader formed null, whole.map some ts formed]

/-- The values that an optional text has: null or a text. -/
def IsOptionalText (ts : List Token) : Prop :=
  ts = [.word .null none] ∨ ∃ s, ts = [.string (.ok s) none]

theorem optional_string_isOk_iff {ts : List Token} (formed : WellFormed ts)
    : ((Reader.optional string).taken ts).isOk = true ↔ IsOptionalText ts := by
  rw [IsOptionalText]
  cases formed with
  | word word =>
      cases word with
      | null => exact iff_of_true rfl (.inl rfl)
      | true | false => exact iff_of_false Bool.false_ne_true (by simp)
  | number => exact iff_of_false Bool.false_ne_true (by simp)
  | string text =>
      cases text with
      | error fault => exact iff_of_false Bool.false_ne_true (by simp)
      | ok s => exact iff_of_true rfl (.inr ⟨s, rfl⟩)
  | @array items =>
      cases items <;> exact iff_of_false Bool.false_ne_true (by simp [arrayTokens])
  | @object members =>
      cases members <;> exact iff_of_false Bool.false_ne_true (by simp [objectTokens])

-----------------------------------------------------------------------------------------
-- The members of a record
-----------------------------------------------------------------------------------------

variable (fields : List (Field σ))

/-- What a member fills in. -/
def fill (filled : Filled σ) (own : Member) : Except Fault (Filled σ) := do
  let name ← own.name
  match Field.find? fields name with
  | some field =>
    if filled.seen.contains name then .error .mismatch
    else (taken (field.read filled.value) own.value).map (⟨·, name :: filled.seen⟩)
  | none => .ok filled

variable {fields}

theorem Field.of_find? {name : String} {field : Field σ}
    (known : Field.find? fields name = some field)
    : field ∈ fields ∧ field.name = name := by
  rw [Field.find?] at known
  exact ⟨List.mem_of_find?_eq_some known, by simpa using List.find?_some known⟩

section Fill

variable {filled : Filled σ} {name : String} {ts : List Token}

theorem fill_of_seen {field : Field σ} (known : Field.find? fields name = some field)
    (seen : name ∈ filled.seen)
    : fill fields filled ⟨.ok name, ts⟩ = .error .mismatch := by
  simp [fill, bind, Except.bind, known, seen]

theorem fill_of_unseen {field : Field σ} (known : Field.find? fields name = some field)
    (unseen : name ∉ filled.seen)
    : fill fields filled ⟨.ok name, ts⟩
      = (taken (field.read filled.value) ts).map (⟨·, name :: filled.seen⟩) := by
  simp [fill, bind, Except.bind, known, unseen]

theorem fill_of_unknown (unknown : Field.find? fields name = none)
    : fill fields filled ⟨.ok name, ts⟩ = .ok filled := by
  simp [fill, bind, Except.bind, unknown]

/-- All fields of a record take whole values. -/
def WholeFields (fields : List (Field σ)) : Prop :=
  ∀ name field, Field.find? fields name = some field → ∀ s, (field.read s).Whole

/-- From its colon on, a member is filled in and nothing behind it is touched. -/
theorem member_eq_fill (whole : WholeFields fields) (formed : WellFormed ts) (rest : List Token)
    : member fields name filled (.colon :: (ts ++ rest))
      = (fill fields filled ⟨.ok name, ts⟩).map (·, rest) := by
  cases known : Field.find? fields name with
  | some field =>
      by_cases seen : name ∈ filled.seen
      · rw [fill_of_seen known seen, member, known]
        simp only [List.contains_iff_mem.mpr seen]
        rfl
      · have reads := whole name field known filled.value ts formed rest
        rw [fill_of_unseen known seen, member, known]
        simp only [List.contains_eq_mem, seen, decide_false, expect, isColon, bind, Except.bind,
          Bool.false_eq_true, if_false, if_true, reads]
        cases taken (field.read filled.value) ts <;> rfl
  | none =>
      have skips : skip (ts ++ rest) = .ok rest := formed.skips [] rest
      rw [fill_of_unknown known, member, known]
      simp only [expect, isColon, bind, Except.bind, if_true, skips]
      rfl

end Fill

theorem length_le_laterMembers (members : List Member)
    : members.length ≤ (laterMembers members).length := by
  induction members with
  | nil => exact Nat.zero_le _
  | cons own members ih =>
      simp only [laterMembers, List.length_cons, List.length_append]
      omega

/-- What comes after a member that is filled in: the end of the record, or another member. -/
theorem members_cons (whole : WholeFields fields) {own : Member} (formed : WellFormed own.value)
    (fuel : Nat) (start : Filled σ) (tail : List Token)
    : members fields (fuel + 1) start
        (.string own.name none :: .colon :: (own.value ++ tail))
      = fill fields start own >>= fun filled =>
        match tail with
        | [] => .error .unfinished
        | .endObject :: ts => .ok (filled, ts)
        | .comma :: ts => members fields fuel filled ts
        | _ :: _ => .error .malformed := by
  obtain ⟨named, ts⟩ := own
  cases named with
  | error fault => rfl
  | ok name =>
      rw [members, member_eq_fill whole formed]
      cases fill fields start ⟨.ok name, ts⟩ with
      | error fault => rfl
      | ok filled =>
          simp only [Except.map, bind, Except.bind]
          split <;> simp_all

/-- Members fill a record one after another, by induction on those that come after the first. -/
theorem members_eq_foldlM (whole : WholeFields fields) {own : Member} {later : List Member}
    (formed : ∀ m ∈ own :: later, WellFormed m.value) {fuel : Nat}
    (enough : later.length < fuel) (start : Filled σ) (rest : List Token)
    : members fields fuel start
        (.string own.name none :: .colon :: (own.value ++ (laterMembers later ++ rest)))
      = ((own :: later).foldlM (fill fields) start).map (·, rest) := by
  induction later generalizing own fuel start with
  | nil =>
      obtain ⟨fuel, rfl⟩ := Nat.exists_eq_add_one_of_ne_zero (Nat.ne_zero_of_lt enough)
      rw [members_cons whole (formed own List.mem_cons_self), List.foldlM_cons]
      cases fill fields start own <;> rfl
  | cons next later ih =>
      obtain ⟨fuel, rfl⟩ := Nat.exists_eq_add_one_of_ne_zero (Nat.ne_zero_of_lt enough)
      rw [members_cons whole (formed own List.mem_cons_self), List.foldlM_cons, laterMembers]
      cases fill fields start own with
      | error fault => rfl
      | ok filled =>
          have onward := ih (fun m among => formed m (List.mem_cons_of_mem _ among))
            (Nat.lt_of_succ_lt_succ enough) filled
          simpa [bind, Except.bind] using onward

/-- A record that is written as an object is filled by all its members. -/
theorem filled_objectTokens (whole : WholeFields fields) {own : List Member}
    (formed : ∀ m ∈ own, WellFormed m.value) (start : σ) (rest : List Token)
    : Reader.filled start fields (objectTokens own ++ rest)
      = (own.foldlM (fill fields) ⟨start, []⟩).map (·, rest) := by
  cases own with
  | nil => rfl
  | cons first later =>
      have enough : later.length < (objectTokens (first :: later) ++ rest).tail.length := by
        have longer := length_le_laterMembers later
        simp only [objectTokens, List.cons_append, List.tail_cons, List.length_cons,
          List.length_append]
        omega
      have whole := members_eq_foldlM whole formed enough ⟨start, []⟩ rest
      rw [← whole, objectTokens, List.cons_append, List.cons_append, List.cons_append,
        List.append_assoc]
      rfl

end Reader

-----------------------------------------------------------------------------------------
-- Objects
-----------------------------------------------------------------------------------------

/-- A text is an object that is spelled as the grammar of JSON has it, with these members. -/
structure IsObject (text : String) (members : List Member) : Prop where
  tokens : Token.ofChars text.toList = objectTokens members
  formed (member : Member) : member ∈ members → WellFormed member.value

/-- The values that members give to a name. -/
def valuesOf (name : String) (members : List Member) : List (List Token) :=
  (members.filter fun member => member.name.toOption == some name).map (·.value)

theorem valuesOf_cons_self {own : Member} {name : String} (named : own.name = .ok name)
    (members : List Member)
    : valuesOf name (own :: members) = own.value :: valuesOf name members := by
  simp [valuesOf, named, Except.toOption]

theorem valuesOf_cons_of_ne {own : Member} {name other : String} (named : own.name = .ok other)
    (differs : other ≠ name) (members : List Member)
    : valuesOf name (own :: members) = valuesOf name members := by
  simp [valuesOf, named, differs, Except.toOption]

theorem wellFormed_of_valuesOf {members : List Member} {name : String} {ts : List Token}
    (formed : ∀ m ∈ members, WellFormed m.value) (among : ts ∈ valuesOf name members)
    : WellFormed ts := by
  obtain ⟨own, given, rfl⟩ := List.mem_map.mp among
  exact formed own (List.mem_filter.mp given).1

namespace Reader

variable {fields : List (Field σ)} {text : String} {members : List Member}

theorem run_record_of_isObject (whole : WholeFields fields) (object : IsObject text members)
    (start : σ)
    : (record start fields).run text
      = (members.foldlM (fill fields) ⟨start, []⟩).map Filled.value := by
  have read := filled_objectTokens whole object.formed start []
  rw [List.append_nil] at read
  rw [run, object.tokens, record, Reader.map, read]
  cases members.foldlM (fill fields) ⟨start, []⟩ <;> rfl

theorem run_recordWith_of_isObject (whole : WholeFields fields) (object : IsObject text members)
    (required : List String) (start : σ)
    : (recordWith required start fields).run text
      = members.foldlM (fill fields) ⟨start, []⟩ >>= fun filled =>
        if required.all filled.seen.contains then .ok filled.value else .error .mismatch := by
  have read := filled_objectTokens whole object.formed start []
  rw [List.append_nil] at read
  rw [run, object.tokens, recordWith, read]
  cases members.foldlM (fill fields) ⟨start, []⟩ with
  | error fault => rfl
  | ok filled =>
      simp only [Except.map, bind, Except.bind]
      by_cases complete : required.all filled.seen.contains = true
      · rw [if_pos complete, if_pos complete]
        rfl
      · rw [if_neg complete, if_neg complete]

-----------------------------------------------------------------------------------------
-- What fills a record
-----------------------------------------------------------------------------------------

/-- All that a member can do to a record: it is passed over, or it gives its first value to a
field. -/
theorem fill_eq_ok_iff {filled next : Filled σ} {own : Member}
    : fill fields filled own = .ok next
      ↔ ∃ name,
        own.name = .ok name
        ∧ (Field.find? fields name = none ∧ filled = next
          ∨ ∃ field s,
            Field.find? fields name = some field
            ∧ name ∉ filled.seen
            ∧ taken (field.read filled.value) own.value = .ok s
            ∧ ⟨s, name :: filled.seen⟩ = next) := by
  obtain ⟨named, ts⟩ := own
  cases named with
  | error fault => exact iff_of_false nofun (by simp)
  | ok name =>
      cases known : Field.find? fields name with
      | none => simp [fill_of_unknown known, known]
      | some field =>
          by_cases seen : name ∈ filled.seen
          · simp [fill_of_seen known seen, known, seen]
          · simp [fill_of_unseen known seen, known, seen, map_eq_ok_iff]

/-- The values that a field can have been given: none, or one that it accepts. -/
def Fits (accepts : List Token → Prop) (values : List (List Token)) : Prop :=
  values = [] ∨ ∃ ts, accepts ts ∧ values = [ts]

theorem fits_cons_iff {accepts : List Token → Prop} {ts : List Token} {values : List (List Token)}
    : Fits accepts (ts :: values) ↔ accepts ts ∧ values = [] := by
  simp [Fits]

/-- A field of a name accepts such values, whatever its record holds. -/
def Accepting (fields : List (Field σ)) (accepts : String → List Token → Prop) : Prop :=
  ∀ name field, Field.find? fields name = some field
    → ∀ s ts, WellFormed ts → ((taken (field.read s) ts).isOk = true ↔ accepts name ts)

/-- What is to be filled in after a field has its value: all as before, but that field no more. -/
theorem fits_after {accepts : String → List Token → Prop} {own : Member} {name : String}
    {field : Field σ} {seen : List String} (named : own.name = .ok name)
    (known : Field.find? fields name = some field)
    : (∀ n, (Field.find? fields n).isSome = true
        → Fits (fun ts => n ∉ seen ∧ accepts n ts) (valuesOf n (own :: members)))
      ↔ (name ∉ seen ∧ accepts name own.value)
        ∧ ∀ n, (Field.find? fields n).isSome = true
          → Fits (fun ts => n ∉ name :: seen ∧ accepts n ts) (valuesOf n members) := by
  constructor
  · intro fits
    have own_fits := fits name (by simp [known])
    rw [valuesOf_cons_self named, fits_cons_iff] at own_fits
    refine ⟨own_fits.1, fun n among => ?_⟩
    by_cases same : name = n
    · exact .inl (same ▸ own_fits.2)
    · have other := fits n among
      rw [valuesOf_cons_of_ne named same] at other
      simpa [Fits, List.mem_cons, Ne.symm same] using other
  · rintro ⟨own_fits, fits⟩ n among
    have other := fits n among
    by_cases same : name = n
    · subst same
      rw [valuesOf_cons_self named, fits_cons_iff]
      exact ⟨own_fits, by simpa [Fits] using other⟩
    · rw [valuesOf_cons_of_ne named same]
      simpa [Fits, List.mem_cons, Ne.symm same] using other

/-- A record is filled exactly when every name is a text and every field is given at most one value
that it accepts, by induction on the members. -/
theorem foldlM_fill_iff {accepts : String → List Token → Prop}
    (accepting : Accepting fields accepts) (formed : ∀ m ∈ members, WellFormed m.value)
    (filled : Filled σ)
    : (∃ out, members.foldlM (fill fields) filled = .ok out)
      ↔ (∀ m ∈ members, ∃ name, m.name = .ok name)
        ∧ ∀ name,
          (Field.find? fields name).isSome = true
          → Fits (fun ts => name ∉ filled.seen ∧ accepts name ts) (valuesOf name members) := by
  induction members generalizing filled with
  | nil =>
      refine iff_of_true ⟨filled, rfl⟩ ⟨nofun, fun name _ => .inl rfl⟩
  | cons own members ih =>
      have onward := ih fun m among => formed m (List.mem_cons_of_mem _ among)
      rw [List.forall_mem_cons]
      obtain ⟨named, ts⟩ := own
      cases named with
      | error fault => exact iff_of_false nofun fun fills => nomatch fills.1.1
      | ok name =>
          rw [List.foldlM_cons]
          cases known : Field.find? fields name with
          | none =>
              have same (n : String) (among : (Field.find? fields n).isSome = true)
                  : valuesOf n (⟨.ok name, ts⟩ :: members) = valuesOf n members := by
                refine valuesOf_cons_of_ne rfl ?_ members
                rintro rfl
                simp [known] at among
              rw [fill_of_unknown known]
              refine (onward filled).trans (and_congr (by simp) ?_)
              exact forall₂_congr fun n among => by rw [same n among]
          | some field =>
              rw [fits_after rfl known]
              by_cases seen : name ∈ filled.seen
              · rw [fill_of_seen known seen]
                exact iff_of_false nofun fun fills => fills.2.1.1 seen
              · have accept := accepting name field known filled.value ts
                  (formed _ List.mem_cons_self)
                rw [fill_of_unseen known seen, ← accept]
                cases taken (field.read filled.value) ts with
                | error fault => exact iff_of_false nofun fun fills => nomatch fills.2.1.2
                | ok s =>
                    refine (onward ⟨s, name :: filled.seen⟩).trans (and_congr (by simp) ?_)
                    exact (and_iff_right ⟨seen, rfl⟩).symm

/-- A record that has received nothing is filled exactly when every name is a text and every field
is given at most one value that it accepts. -/
theorem foldlM_fill_start_iff {accepts : String → List Token → Prop}
    (accepting : Accepting fields accepts) (formed : ∀ m ∈ members, WellFormed m.value) (start : σ)
    : (∃ out, members.foldlM (fill fields) ⟨start, []⟩ = .ok out)
      ↔ (∀ m ∈ members, ∃ name, m.name = .ok name)
        ∧ ∀ name,
          (Field.find? fields name).isSome = true
          → Fits (accepts name) (valuesOf name members) := by
  have filled_iff := foldlM_fill_iff accepting formed ⟨start, []⟩
  simpa only [List.not_mem_nil, not_false_eq_true, true_and] using filled_iff

/-- What a filled record holds of a field is the value that the members give to it, or else what the
record held before, by induction on the members. -/
theorem held_of_foldlM_fill (get : σ → β) (name : String) (holds : List Token → β → Prop)
    (gives
      : ∀ field, Field.find? fields name = some field
        → ∀ s s' ts, taken (field.read s) ts = .ok s' → holds ts (get s'))
    (keeps
      : ∀ other field, Field.find? fields other = some field
        → other ≠ name
        → ∀ s s' ts, taken (field.read s) ts = .ok s' → get s' = get s)
    (known : (Field.find? fields name).isSome = true)
    {filled out : Filled σ} (fills : members.foldlM (fill fields) filled = .ok out)
    : match (valuesOf name members).getLast? with
      | none => get out.value = get filled.value
      | some ts => holds ts (get out.value) := by
  induction members generalizing filled with
  | nil =>
      cases fills
      rfl
  | cons own members ih =>
      rw [List.foldlM_cons, bind_eq_ok_iff] at fills
      obtain ⟨next, first, later⟩ := fills
      have rest := ih later
      obtain ⟨n, named, ⟨unknown, rfl⟩ | ⟨field, s, found, _, reads, rfl⟩⟩ :=
        fill_eq_ok_iff.mp first
      · have differs : n ≠ name := by
          rintro rfl
          simp [unknown] at known
        rwa [valuesOf_cons_of_ne named differs]
      · by_cases same : n = name
        · subst same
          rw [valuesOf_cons_self named]
          cases values : valuesOf n members with
          | nil =>
              rw [values] at rest
              exact rest ▸ gives field found filled.value s own.value reads
          | cons value others =>
              have last := List.getLast?_eq_some_getLast (List.cons_ne_nil value others)
              rw [values, last] at rest
              rwa [List.getLast?_cons_cons, last]
        · rw [valuesOf_cons_of_ne named same]
          cases given : (valuesOf name members).getLast? with
          | none =>
              rw [given] at rest
              exact rest.trans (keeps n field found same filled.value s own.value reads)
          | some value => rwa [given] at rest

/-- The fields that have had a value are those that members name, beside those that had one before,
by induction on the members. -/
theorem mem_seen_iff_of_foldlM_fill {name : String}
    (known : (Field.find? fields name).isSome = true) {filled out : Filled σ}
    (fills : members.foldlM (fill fields) filled = .ok out)
    : name ∈ out.seen ↔ name ∈ filled.seen ∨ valuesOf name members ≠ [] := by
  induction members generalizing filled with
  | nil =>
      cases fills
      simp [valuesOf]
  | cons own members ih =>
      rw [List.foldlM_cons, bind_eq_ok_iff] at fills
      obtain ⟨next, first, later⟩ := fills
      rw [ih later]
      obtain ⟨n, named, ⟨unknown, rfl⟩ | ⟨field, s, found, _, reads, rfl⟩⟩ :=
        fill_eq_ok_iff.mp first
      · have differs : n ≠ name := by
          rintro rfl
          simp [unknown] at known
        rw [valuesOf_cons_of_ne named differs]
      · by_cases same : n = name
        · subst same
          simp [valuesOf_cons_self named]
        · rw [valuesOf_cons_of_ne named same, List.mem_cons, or_iff_right (Ne.symm same)]

end Reader

end Courier.Json
