import Courier.Proofs.Json.Records

/-! The readers that settings are made of. Each of them takes one value as a whole or refuses it,
and so does a record of such readers, whether it is written as an object or as an array.
-/

namespace Courier.Json.Reader

variable {α β σ : Type}

-----------------------------------------------------------------------------------------
-- Plain values
-----------------------------------------------------------------------------------------

/-- A value begins with a token that does not close an array. -/
theorem first_of_wellFormed {ts : List Token} (formed : WellFormed ts)
    : ∃ t rest, ts = t :: rest ∧ t ≠ .endArray := by
  cases formed with
  | word | number | string => exact ⟨_, _, rfl, nofun⟩
  | @array items => cases items <;> exact ⟨_, _, rfl, nofun⟩
  | @object members => cases members <;> exact ⟨_, _, rfl, nofun⟩

theorem whole_bool : bool.Whole := by
  refine whole_of_first (fun t rest => ?_) rfl rfl
  cases t with
  | word word fault => cases word <;> cases fault <;> rfl
  | _ => rfl

theorem whole_null : null.Whole := by
  refine whole_of_first (fun t rest => ?_) rfl rfl
  cases t with
  | word word fault => cases word <;> cases fault <;> rfl
  | _ => rfl

theorem whole_natural (bound : Nat) : (natural bound).Whole := by
  refine whole_of_first (fun t rest => ?_) rfl rfl
  cases t with
  | number literal =>
      simp only [taken, natural]
      split
      · split <;> rfl
      · rfl
      · rfl
  | _ => rfl

/-- The reader of what a value stands for, which may be nothing. -/
def meaning (reader : Reader α) (choose : α → Except Fault β) : Reader β := fun ts => do
  let (a, rest) ← reader ts
  let b ← choose a
  return (b, rest)

theorem taken_meaning (reader : Reader α) (choose : α → Except Fault β) (ts : List Token)
    : taken (reader.meaning choose) ts = reader.taken ts >>= choose := by
  rw [taken, taken, meaning]
  cases reader ts with
  | error fault => rfl
  | ok read =>
      simp only [bind, Except.bind, Except.map]
      cases choose read.1 <;> rfl

theorem Whole.meaning {reader : Reader α} (whole : reader.Whole) (choose : α → Except Fault β)
    : (reader.meaning choose).Whole := by
  refine whole_of_takes fun ts formed => ⟨reader.taken ts >>= choose, fun rest => ?_⟩
  rw [Reader.meaning, whole ts formed rest]
  cases reader.taken ts with
  | error fault => rfl
  | ok a =>
      simp only [bind, Except.bind, Except.map]
      cases choose a <;> rfl

/-- A choice takes whole values: it may be written as an object of one member, which is null. -/
theorem whole_choice (choose : String → Option α) : (choice choose).Whole := by
  refine whole_of_takes fun ts formed => ?_
  cases formed with
  | word | number => exact ⟨.error .malformed, fun rest => rfl⟩
  | string text =>
      cases text with
      | error fault => exact ⟨.error fault, fun rest => rfl⟩
      | ok name =>
          refine ⟨named choose name, fun rest => ?_⟩
          simp only [List.singleton_append, choice, string, bind, Except.bind]
          cases named choose name <;> rfl
  | @array items => cases items <;> exact ⟨.error .malformed, fun rest => rfl⟩
  | @object members each =>
      cases members with
      | nil => exact ⟨.error (Token.mismatch _), fun rest => rfl⟩
      | cons member members =>
          obtain ⟨named, value⟩ := member
          have takesNull := whole_null value (each _ List.mem_cons_self)
          cases named with
          | error fault => exact ⟨.error fault, fun rest => rfl⟩
          | ok name =>
              simp only [objectTokens, List.cons_append, List.append_assoc, choice, string, bind,
                Except.bind, expect, isColon, if_true, takesNull]
              cases Reader.named choose name with
              | error fault => exact ⟨.error fault, fun rest => rfl⟩
              | ok a =>
                  cases null.taken value with
                  | error fault => exact ⟨.error fault, fun rest => rfl⟩
                  | ok =>
                      cases members with
                      | nil => exact ⟨.ok a, fun rest => rfl⟩
                      | cons => exact ⟨.error .malformed, fun rest => rfl⟩

-----------------------------------------------------------------------------------------
-- Records
-----------------------------------------------------------------------------------------

variable {fields : List (Field σ)}

/-- A reading that comes to the same whatever is behind it, and leaves that. -/
def Spares (read : List Token → Except Fault (β × List Token)) : Prop :=
  ∃ result : Except Fault β, ∀ rest, read rest = result.map (·, rest)

/-- What is read behind a value is read there whatever the value is. -/
theorem Whole.spares {reader : Reader α} (whole : reader.Whole) {ts behind : List Token}
    (formed : WellFormed ts) {next : α → Reader β}
    (onward : ∀ a, Spares fun rest => next a (behind ++ rest))
    : Spares fun rest => reader (ts ++ (behind ++ rest)) >>= fun (a, ts) => next a ts := by
  simp only [whole ts formed]
  cases reader.taken ts with
  | error fault => exact ⟨.error fault, fun rest => rfl⟩
  | ok a => exact onward a

theorem items_first (field : Field σ) (start : Filled σ) {t : Token} (other : t ≠ .endArray)
    (ts : List Token)
    : items (field :: fields) true start (t :: ts)
      = field.read start.value (t :: ts) >>= fun (s, ts) =>
        items fields false ⟨s, field.name :: start.seen⟩ ts := by
  rw [items]
  · rfl
  · exact other

/-- The items of a record that is written as an array, after the first, are taken up to the end of
the array or refused, by induction on them. -/
theorem items_laterItems (whole : ∀ field ∈ fields, ∀ s, (field.read s).Whole)
    {later : List (List Token)} (formed : ∀ item ∈ later, WellFormed item) (start : Filled σ)
    : Spares fun rest => items fields false start (laterItems later ++ rest) := by
  induction later generalizing fields start with
  | nil =>
      refine ⟨.ok start, fun rest => ?_⟩
      cases fields <;> rfl
  | cons item later ih =>
      cases fields with
      | nil => exact ⟨.error .malformed, fun rest => rfl⟩
      | cons field fields =>
          have reads := whole field List.mem_cons_self start.value
          have onward (s : σ) := ih (fun field among => whole field (List.mem_cons_of_mem _ among))
            (fun item among => formed item (List.mem_cons_of_mem _ among))
            ⟨s, field.name :: start.seen⟩
          simp only [laterItems, List.cons_append, List.append_assoc]
          exact reads.spares (formed item List.mem_cons_self) onward

/-- A record that is written as an array is taken as a whole or refused. -/
theorem filled_arrayTokens (whole : ∀ field ∈ fields, ∀ s, (field.read s).Whole)
    {own : List (List Token)} (formed : ∀ item ∈ own, WellFormed item) (start : σ)
    : Spares fun rest => filled start fields (arrayTokens own ++ rest) := by
  cases own with
  | nil =>
      refine ⟨.ok ⟨start, []⟩, fun rest => ?_⟩
      cases fields <;> rfl
  | cons item later =>
      obtain ⟨t, ts, rfl, other⟩ := first_of_wellFormed (formed item List.mem_cons_self)
      cases fields with
      | nil =>
          refine ⟨.error .malformed, fun rest => ?_⟩
          cases t with
          | endArray => exact absurd rfl other
          | _ => rfl
      | cons field fields =>
          have reads := whole field List.mem_cons_self start
          have onward (s : σ) := items_laterItems
            (fun field among => whole field (List.mem_cons_of_mem _ among))
            (fun item among => formed item (List.mem_cons_of_mem _ among)) ⟨s, [field.name]⟩
          have first (rest : List Token)
              : filled start (field :: fields) (arrayTokens ((t :: ts) :: later) ++ rest)
                = _ :=
            items_first field ⟨start, []⟩ other (ts ++ laterItems later ++ rest)
          simp only [first, List.append_assoc]
          exact reads.spares (formed (t :: ts) List.mem_cons_self) onward

theorem wholeFields_of_forall (whole : ∀ field ∈ fields, ∀ s, (field.read s).Whole)
    : WholeFields fields :=
  fun _ field known => whole field (Field.of_find? known).1

/-- A record whose fields take whole values takes whole values. -/
theorem whole_record (whole : ∀ field ∈ fields, ∀ s, (field.read s).Whole) (start : σ)
    : (record start fields).Whole := by
  have takes {ts : List Token} (fills : Spares fun rest => filled start fields (ts ++ rest))
      : Spares fun rest => record start fields (ts ++ rest) := by
    obtain ⟨result, same⟩ := fills
    refine ⟨result.map Filled.value, fun rest => ?_⟩
    have taken : filled start fields (ts ++ rest) = result.map (·, rest) := same rest
    simp only [record, Reader.map, taken]
    cases result <;> rfl
  refine whole_of_takes fun ts formed => takes ?_
  cases formed with
  | word | number | string => exact ⟨.error (Token.mismatch _), fun rest => rfl⟩
  | array each => exact filled_arrayTokens whole each start
  | object each => exact ⟨_, filled_objectTokens (wholeFields_of_forall whole) each start⟩

/-- A record that is written as an object holds what its members fill in. -/
theorem taken_record_objectTokens (whole : WholeFields fields) {own : List Member}
    (formed : ∀ member ∈ own, WellFormed member.value) (start : σ)
    : (record start fields).taken (objectTokens own)
      = (own.foldlM (fill fields) ⟨start, []⟩).map Filled.value := by
  refine taken_of_takes fun rest => ?_
  rw [record, Reader.map, filled_objectTokens whole formed]
  cases own.foldlM (fill fields) ⟨start, []⟩ <;> rfl

/-- A reader of whole values reads the compact form of a document as it takes its tokens. -/
theorem Whole.run_compact {reader : Reader α} (whole : reader.Whole) {levels : Nat} {j : Json}
    (legible : Legible levels j)
    : reader.run j.compact = reader.taken j.tokens := by
  have lexed : Token.ofChars j.compact.toList = j.tokens ++ [] := by
    simpa [compact] using legible.spells_compact [] endsNumber_nil
  rw [run, lexed, whole j.tokens legible.wellFormed]
  cases reader.taken j.tokens <;> rfl

end Courier.Json.Reader
