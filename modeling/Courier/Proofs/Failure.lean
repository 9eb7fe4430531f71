import Courier.Failure
import Mathlib.Data.List.Induction
import Mathlib.Data.List.Nodup
import Mathlib.Data.String.Basic
import Mathlib.Tactic.SplitIfs

/-! What an error map becomes. Its faults are sorted by their fields, and those of one field keep
their order. A list that is sorted so is known by the faults of each field alone, and so the order
in which the entries of a map are walked leaves no trace. Only the rules that fields break
themselves become faults: what is wrong inside of a record or a list is not told.
-/

namespace Courier

-----------------------------------------------------------------------------------------
-- Sorted faults
-----------------------------------------------------------------------------------------

namespace FieldFault

/-- The fields of faults never decrease. -/
def InOrder (faults : List FieldFault) : Prop :=
  faults.Pairwise (·.field ≤ ·.field)

/-- The faults of one field, as they come. -/
def ofField (field : String) (faults : List FieldFault) : List FieldFault :=
  faults.filter (·.field = field)

theorem ofField_append (field : String) (faults others : List FieldFault)
    : ofField field (faults ++ others) = ofField field faults ++ ofField field others :=
  List.filter_append ..

/-- Where all fields are greater than one, no fault is of that one. -/
theorem ofField_eq_nil {field : String} {faults : List FieldFault}
    (greater : ∀ fault ∈ faults, field < fault.field)
    : ofField field faults = [] := by
  apply List.filter_eq_nil_iff.mpr
  intro fault among
  simpa using (greater fault among).ne'

/-- In order, the faults from one that is greater on have greater fields. -/
theorem InOrder.greater {field : String} {first : FieldFault} {rest : List FieldFault}
    (sorted : InOrder (first :: rest)) (less : field < first.field)
    : ∀ fault ∈ first :: rest, field < fault.field := by
  intro fault among
  rcases List.mem_cons.mp among with rfl | later
  · exact less
  · exact less.trans_le (List.rel_of_pairwise_cons sorted later)

/-- Faults in order are known by the faults of each field, by induction on the first of two lists:
the two start with the same field, or one has a field that the other has not. -/
theorem InOrder.eq_of_ofField {faults others : List FieldFault}
    (sorted : InOrder faults) (othersSorted : InOrder others)
    (same : ∀ field, ofField field faults = ofField field others)
    : faults = others := by
  induction faults generalizing others with
  | nil =>
      cases others with
      | nil => rfl
      | cons first rest => simpa [ofField] using same first.field
  | cons fault faults ih =>
      cases others with
      | nil => simpa [ofField] using same fault.field
      | cons first rest =>
          rcases lt_trichotomy fault.field first.field with less | equal | greater
          · have none := ofField_eq_nil (othersSorted.greater less)
            simpa [ofField, none] using (same fault.field).trans none
          · have heads := same fault.field
            simp only [ofField, List.filter_cons, equal, decide_true, if_true] at heads
            obtain rfl : fault = first := (List.cons.inj heads).1
            have tails (field : String) : ofField field faults = ofField field rest := by
              have all := same field
              simp only [ofField, List.filter_cons] at all
              split_ifs at all
              · exact (List.cons.inj all).2
              · exact all
            rw [ih sorted.of_cons othersSorted.of_cons tails]
          · have none := ofField_eq_nil (sorted.greater greater)
            simpa [ofField, none] using (same first.field).symm.trans none

end FieldFault

namespace Failure

open FieldFault (InOrder ofField)

theorem perm_insertFault (fault : FieldFault) (faults : List FieldFault)
    : (insertFault fault faults).Perm (fault :: faults) := by
  induction faults with
  | nil => exact .refl _
  | cons first rest ih =>
      rw [insertFault]
      split
      · exact .refl _
      · exact (ih.cons first).trans (.swap ..)

theorem inOrder_insertFault {faults : List FieldFault} (sorted : InOrder faults)
    (fault : FieldFault)
    : InOrder (insertFault fault faults) := by
  induction faults with
  | nil => exact List.pairwise_singleton _ _
  | cons first rest ih =>
      rw [insertFault]
      split
      · rename_i less
        refine List.pairwise_cons.mpr ⟨fun other among => ?_, sorted⟩
        exact (sorted.greater less other among).le
      · rename_i notLess
        refine List.pairwise_cons.mpr ⟨fun other among => ?_, ih sorted.of_cons⟩
        rcases List.mem_cons.mp ((perm_insertFault fault rest).mem_iff.mp among) with rfl | later
        · exact not_lt.mp notLess
        · exact List.rel_of_pairwise_cons sorted later

/-- A fault is put behind those of its field. -/
theorem ofField_insertFault {faults : List FieldFault} (sorted : InOrder faults)
    (fault : FieldFault) (field : String)
    : ofField field (insertFault fault faults) = ofField field (faults ++ [fault]) := by
  induction faults with
  | nil => rfl
  | cons first rest ih =>
      rw [insertFault]
      split
      · rename_i less
        rw [FieldFault.ofField_append]
        by_cases its : fault.field = field
        · have alone := FieldFault.ofField_eq_nil (sorted.greater (its ▸ less))
          rw [alone]
          simpa [ofField, its] using alone
        · simp [ofField, its]
      · have below := ih sorted.of_cons
        simp only [ofField, List.cons_append, List.filter_cons] at below ⊢
        rw [below]

/-- Faults are sorted one after another. -/
theorem sortFaults_concat (faults : List FieldFault) (fault : FieldFault)
    : sortFaults (faults ++ [fault]) = insertFault fault (sortFaults faults) :=
  List.foldl_append ..

/-- Sorting loses no fault and doubles none, by induction from the end. -/
theorem perm_sortFaults (faults : List FieldFault) : (sortFaults faults).Perm faults := by
  induction faults using List.reverseRecOn with
  | nil => exact .refl _
  | append_singleton faults fault ih =>
      rw [sortFaults_concat]
      have inserted := (perm_insertFault fault (sortFaults faults)).trans (ih.cons fault)
      exact inserted.trans (List.perm_append_singleton fault faults).symm

theorem inOrder_sortFaults (faults : List FieldFault) : InOrder (sortFaults faults) := by
  induction faults using List.reverseRecOn with
  | nil => exact .nil
  | append_singleton faults fault ih =>
      rw [sortFaults_concat]
      exact inOrder_insertFault ih fault

/-- The faults of one field keep their order, by induction from the end. -/
theorem ofField_sortFaults (faults : List FieldFault) (field : String)
    : ofField field (sortFaults faults) = ofField field faults := by
  induction faults using List.reverseRecOn with
  | nil => rfl
  | append_singleton faults fault ih =>
      rw [sortFaults_concat, ofField_insertFault (inOrder_sortFaults faults),
        FieldFault.ofField_append, FieldFault.ofField_append, ih]

end Failure

-----------------------------------------------------------------------------------------
-- Entries of fields
-----------------------------------------------------------------------------------------

namespace ErrorMap

open FieldFault (InOrder ofField)

namespace FieldEntries

variable {entries walked : FieldEntries}

/-- No field has two entries. -/
def Distinct (entries : FieldEntries) : Prop :=
  (entries.map Prod.fst).Nodup

/-- The faults of one field come from the entries of that field. -/
theorem ofField_faults (entries : FieldEntries) (field : String)
    : ofField field entries.faults = FieldEntries.faults (entries.filter (·.1 = field)) := by
  rw [ofField, FieldEntries.faults, List.filter_flatMap]
  induction entries with
  | nil => rfl
  | cons entry entries ih =>
      obtain ⟨key, breaches⟩ := entry
      rw [List.flatMap_cons, ih, List.filter_cons]
      by_cases its : key = field
      · simp [FieldEntries.faults, its, List.filter_map, Function.comp_def]
      · simp [FieldEntries.faults, its, List.filter_map, Function.comp_def]

/-- A field has one entry at most. -/
theorem Distinct.pairwise_filter (distinct : entries.Distinct) (field : String)
    : (entries.filter (·.1 = field)).Pairwise fun _ _ => False := by
  have apart := (List.pairwise_map.mp distinct).filter (·.1 = field)
  refine apart.imp_of_mem fun {entry other} among otherAmong differ => differ ?_
  have first := (List.mem_filter.mp among).2
  have second := (List.mem_filter.mp otherAmong).2
  exact (of_decide_eq_true first).trans (of_decide_eq_true second).symm

/-- The entries of a field are the same in whatever order the fields are walked. -/
theorem Distinct.filter_eq (distinct : entries.Distinct) (reorders : walked.Perm entries)
    (field : String)
    : walked.filter (·.1 = field) = entries.filter (·.1 = field) := by
  have walkedDistinct : walked.Distinct := (reorders.map Prod.fst).nodup_iff.mpr distinct
  exact List.Perm.eq_of_pairwise (fun _ _ _ _ never => never.elim)
    (walkedDistinct.pairwise_filter field) (distinct.pairwise_filter field)
    (reorders.filter _)

theorem Distinct.filter_of_mem (distinct : entries.Distinct) {field : String}
    {breaches : List Breach} (among : (field, breaches) ∈ entries)
    : entries.filter (·.1 = field) = [(field, breaches)] := by
  have found : (field, breaches) ∈ entries.filter (·.1 = field) :=
    List.mem_filter.mpr ⟨among, decide_eq_true rfl⟩
  have single := distinct.pairwise_filter field
  rcases cut : entries.filter (·.1 = field) with _ | ⟨entry, _ | ⟨other, rest⟩⟩
  · rw [cut] at found
    cases found
  · rw [cut] at found
    rw [List.mem_singleton.mp found]
    exact cut
  · rw [cut] at single
    exact (List.rel_of_pairwise_cons single List.mem_cons_self).elim

/-- However the fields are walked, their faults are sorted into the same list. -/
theorem Distinct.sortFaults_eq (distinct : entries.Distinct) (reorders : walked.Perm entries)
    : Failure.sortFaults walked.faults = Failure.sortFaults entries.faults := by
  apply (Failure.inOrder_sortFaults _).eq_of_ofField (Failure.inOrder_sortFaults _)
  intro field
  rw [Failure.ofField_sortFaults, Failure.ofField_sortFaults, ofField_faults, ofField_faults,
    distinct.filter_eq reorders]

/-- Sorting keeps the faults of an entry, rule by rule. -/
theorem Distinct.ofField_of_mem (distinct : entries.Distinct) {field : String}
    {breaches : List Breach} (among : (field, breaches) ∈ entries)
    : ofField field (Failure.sortFaults entries.faults) = breaches.map (⟨field, ·.message⟩) := by
  rw [Failure.ofField_sortFaults, ofField_faults, distinct.filter_of_mem among]
  simp [FieldEntries.faults]

/-- A fault is of a field with an entry. -/
theorem exists_of_mem_faults {fault : FieldFault} (listed : fault ∈ entries.faults)
    : ∃ breaches, (fault.field, breaches) ∈ entries := by
  obtain ⟨⟨field, breaches⟩, entry, named⟩ := List.mem_flatMap.mp listed
  obtain ⟨breach, _, rfl⟩ := List.mem_map.mp named
  exact ⟨breaches, entry⟩

/-- Where each entry says one thing, the faults have the fields of the entries. -/
theorem map_field_faults (single : ∀ entry ∈ entries, ∃ breach, entry.2 = [breach])
    : entries.faults.map (·.field) = entries.map Prod.fst := by
  induction entries with
  | nil => rfl
  | cons entry entries ih =>
      obtain ⟨breach, only⟩ := single entry List.mem_cons_self
      have rest := ih fun other among => single other (List.mem_cons_of_mem _ among)
      rw [List.map_cons, ← rest, FieldEntries.faults, List.flatMap_cons, List.map_append, only]
      rfl

/-- Where each entry says one thing, the sorted faults have fields that increase. -/
theorem Distinct.increasing (distinct : entries.Distinct)
    (single : ∀ entry ∈ entries, ∃ breach, entry.2 = [breach])
    : (Failure.sortFaults entries.faults).Pairwise (·.field < ·.field) := by
  have same := (Failure.perm_sortFaults entries.faults).map (·.field)
  rw [map_field_faults single] at same
  have apart := List.pairwise_map.mp (same.nodup_iff.mpr distinct)
  exact ((Failure.inOrder_sortFaults _).and apart).imp fun both => lt_of_le_of_ne both.1 both.2

end FieldEntries

-----------------------------------------------------------------------------------------
-- Error maps
-----------------------------------------------------------------------------------------

variable {errors walked : ErrorMap}

/-- No field has two entries. -/
def Distinct (errors : ErrorMap) : Prop :=
  (errors.map Prod.fst).Nodup

/-- A rule is broken somewhere in what a map holds: at a field, or inside of a record or a list that
stands there. -/
inductive Holds (breach : Breach) : ErrorMap → Prop
  | rules {errors : ErrorMap} {field : String} {breaches : List Breach}
    (entry : (field, .rules breaches) ∈ errors) (broken : breach ∈ breaches)
    : Holds breach errors
  | record {errors inner : ErrorMap} {field : String} (entry : (field, .record inner) ∈ errors)
    (inside : Holds breach inner)
    : Holds breach errors
  | items {errors inner : ErrorMap} {field : String} {places : List (Nat × ErrorMap)} {place : Nat}
    (entry : (field, .items places) ∈ errors) (item : (place, inner) ∈ places)
    (inside : Holds breach inner)
    : Holds breach errors

/-- A list of faults has what the fields of a map break themselves, and nothing else: it is in
order, the rules that a field breaks itself are found at the field, each of them once, and nothing
is found of a field that holds a record or a list. -/
structure Lists (errors : ErrorMap) (faults : List FieldFault) : Prop where
  inOrder : InOrder faults
  all : ∀ field breaches,
    (field, .rules breaches) ∈ errors → ofField field faults = breaches.map (⟨field, ·.message⟩)
  noneInside : ∀ field error,
    (field, error) ∈ errors → (∀ breaches, error ≠ .rules breaches) → ofField field faults = []
  noOther : ∀ fault ∈ faults, ∃ breaches, (fault.field, .rules breaches) ∈ errors

theorem mem_fieldEntries_iff {field : String} {breaches : List Breach}
    : (field, breaches) ∈ errors.fieldEntries ↔ (field, .rules breaches) ∈ errors := by
  rw [fieldEntries, List.mem_filterMap]
  constructor
  · rintro ⟨⟨key, rules | inner | places⟩, among, kept⟩
    · cases kept
      exact among
    · cases kept
    · cases kept
  · exact fun among => ⟨_, among, rfl⟩

/-- The fields that break rules themselves are some of the fields, by induction on the map. -/
theorem map_fst_fieldEntries (errors : ErrorMap)
    : (errors.fieldEntries.map Prod.fst).Sublist (errors.map Prod.fst) := by
  induction errors with
  | nil => exact .slnil
  | cons entry errors ih =>
      obtain ⟨field, breaches | inner | places⟩ := entry
      · exact ih.cons_cons field
      · exact ih.cons field
      · exact ih.cons field

theorem Distinct.fieldEntries (distinct : errors.Distinct) : errors.fieldEntries.Distinct :=
  (map_fst_fieldEntries errors).nodup distinct

/-- However a map is walked, its failure is the same. -/
theorem Distinct.ofErrors_eq (distinct : errors.Distinct) (reorders : walked.Perm errors)
    : Failure.ofErrors walked = Failure.ofErrors errors :=
  congrArg Failure.invalidFields
    (distinct.fieldEntries.sortFaults_eq (reorders.filterMap _))

theorem Distinct.lists (distinct : errors.Distinct)
    : errors.Lists (Failure.sortFaults errors.faults) := by
  have noOther (fault : FieldFault) (among : fault ∈ Failure.sortFaults errors.faults)
      : ∃ breaches, (fault.field, .rules breaches) ∈ errors := by
    have listed := (Failure.perm_sortFaults _).mem_iff.mp among
    obtain ⟨breaches, entry⟩ := FieldEntries.exists_of_mem_faults listed
    exact ⟨breaches, mem_fieldEntries_iff.mp entry⟩
  refine ⟨Failure.inOrder_sortFaults _, fun field breaches among => ?_, ?_, noOther⟩
  · exact distinct.fieldEntries.ofField_of_mem (mem_fieldEntries_iff.mpr among)
  · intro field error among inside
    apply List.filter_eq_nil_iff.mpr
    intro fault listed its
    obtain ⟨breaches, entry⟩ := noOther fault listed
    rw [of_decide_eq_true its] at entry
    -- A field has one entry, so its own rules are what stands there.
    have same := List.inj_on_of_nodup_map distinct among entry rfl
    exact inside breaches (congrArg Prod.snd same)

/-- An error map of which each rule is broken inside of a record, or inside of a list. -/
def nested : ErrorMap :=
  [("otp", .record [("pin_length", .rules [⟨"range", none⟩])]),
    ("recipients", .items [(0, [("number", .rules [⟨"length", none⟩])])])]

/-- Two rules are broken, and nothing is told of either. -/
theorem nested_untold
    : nested.Distinct
      ∧ nested.Holds ⟨"range", none⟩
      ∧ nested.Holds ⟨"length", none⟩
      ∧ Failure.ofErrors nested = .invalidFields [] := by
  refine ⟨?_, ?_, ?_, rfl⟩
  · simp [Distinct, nested]
  · exact .record (.head _) (.rules (.head _) (.head _))
  · exact .items (.tail _ (.head _)) (.head _) (.rules (.head _) (.head _))

end ErrorMap

end Courier
