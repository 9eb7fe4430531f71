import Courier.Proofs.Config.Sources

/-! Which keys count. Settings are taken from the sections of a tree, so a key that leads into no
section changes nothing, and neither does a variable with such a key.
-/

namespace Courier

-----------------------------------------------------------------------------------------
-- Sections
-----------------------------------------------------------------------------------------

/-- A record is taken from the entries of its fields, by induction on the fields. -/
theorem Codec.convertTable_congr {σ : Type} {entries others : List (String × Config.Node)}
    {fields : List (Codec.Field σ)}
    (same : ∀ field ∈ fields,
      Config.Node.find? field.name entries = Config.Node.find? field.name others)
    (start : σ)
    : Codec.convertTable entries fields start = Codec.convertTable others fields start := by
  induction fields generalizing start with
  | nil => rfl
  | cons field fields ih =>
      obtain ⟨first, rest⟩ := List.forall_mem_cons.mp same
      rw [Codec.convertTable, Codec.convertTable, first]
      cases Config.Node.find? field.name others with
      | none => exact ih rest start
      | some node => exact congrArg (field.convert start node).bind (funext (ih rest))

/-- The names of the sections of the settings. -/
def Settings.sections : List String :=
  ["application", "logger", "http", "defaults", "termii", "smarthive"]

namespace Config

open Courier.Text (Utf8.text?)

/-- Two tables in which the sections of the settings are the same. -/
inductive Node.SameSections : Node → Node → Prop
  | tables {entries others : List (String × Node)}
    (same : ∀ name ∈ Settings.sections, find? name entries = find? name others)
    : SameSections (.table entries) (.table others)

theorem Loader.settingsOf_congr {tree other : Node} (same : tree.SameSections other)
    : settingsOf tree = settingsOf other := by
  cases same with
  | @tables entries others same =>
      have converts
          : Settings.codec.convert (.table entries) = Settings.codec.convert (.table others) := by
        apply Codec.convertTable_congr
        simpa [Settings.sections, Codec.Field.of] using same
      rw [settingsOf, settingsOf, converts]

-----------------------------------------------------------------------------------------
-- Keys
-----------------------------------------------------------------------------------------

namespace KeyPath

/-- Every key begins with a name. -/
theorem ofKey_eq_cons (key : String) : ∃ name path, ofKey key = .name name :: path := by
  rw [ofKey, parse?]
  rcases key.toList.span isNameChar with ⟨_ | ⟨first, chars⟩, rest⟩
  · exact ⟨key, [], rfl⟩
  · dsimp only
    cases steps? rest.length rest with
    | none => exact ⟨key, [], rfl⟩
    | some path => exact ⟨String.ofList (first :: chars), path, rfl⟩

/-- A key leads into a section of the settings. -/
def IsSectional (key : String) : Prop :=
  ∃ name ∈ Settings.sections, (ofKey key).head? = some (.name name)

instance decidableIsSectional : DecidablePred IsSectional := fun _ =>
  inferInstanceAs (Decidable (∃ name ∈ Settings.sections, _))

end KeyPath

namespace Node

open KeyPath (IsSectional ofKey ofKey_eq_cons)

variable {tree other : Node} {change : Node → Node} {key : String}

/-- A change along a key keeps sections the same in which it is made on both sides. -/
theorem SameSections.update (same : tree.SameSections other)
    : (Node.update change (ofKey key) tree).SameSections
        (Node.update change (ofKey key) other) := by
  obtain ⟨name, path, spelled⟩ := ofKey_eq_cons key
  cases same with
  | @tables mine others same =>
      rw [spelled, Node.update, Node.update]
      refine .tables fun part listed => ?_
      by_cases changed : name = part
      · subst changed
        rw [find?_setEntry_self, find?_setEntry_self]
        simp only [entries, same name listed]
      · rw [find?_setEntry_of_ne changed, find?_setEntry_of_ne changed]
        exact same part listed

/-- A change along a key that leads into no section keeps them all. -/
theorem SameSections.update_left (same : tree.SameSections other) (outside : ¬ IsSectional key)
    : (Node.update change (ofKey key) tree).SameSections other := by
  obtain ⟨name, path, spelled⟩ := ofKey_eq_cons key
  cases same with
  | @tables mine others same =>
      rw [spelled, Node.update]
      refine .tables fun part listed => ?_
      have unchanged : name ≠ part := by
        rintro rfl
        exact outside ⟨name, listed, by rw [spelled]; rfl⟩
      rw [find?_setEntry_of_ne unchanged]
      exact same part listed

/-- The keys of a document that lead into no section can be left out, by induction on the keys. -/
theorem SameSections.mergeSource (same : tree.SameSections other) (document : Document)
    : (Node.mergeSource document tree).SameSections
        (Node.mergeSource (document.filter (IsSectional ·.1)) other) := by
  induction document generalizing tree other with
  | nil => exact same
  | cons entry document ih =>
      by_cases inside : IsSectional entry.1
      · rw [List.filter_cons_of_pos (by simpa using inside)]
        exact ih same.update
      · rw [List.filter_cons_of_neg (by simpa using inside)]
        exact ih (same.update_left inside)

theorem SameSections.refl (entries : List (String × Node))
    : (table entries).SameSections (table entries) :=
  .tables fun _ _ => rfl

theorem table_mergeSource (document : Document) (entries : List (String × Node))
    : ∃ whole, mergeSource document (.table entries) = .table whole := by
  induction document generalizing entries with
  | nil => exact ⟨entries, rfl⟩
  | cons entry document ih =>
      obtain ⟨name, path, spelled⟩ := ofKey_eq_cons entry.1
      simp only [mergeSource, List.foldl_cons, spelled]
      exact ih _

end Node

/-- The tree of files is a table, by induction on the files. -/
theorem Loader.table_of_mergeSources {disk : Disk} {sources : List Source}
    {entries : List (String × Node)} {tree : Node}
    (merged : mergeSources disk sources (.table entries) = .ok tree)
    : ∃ whole, tree = .table whole := by
  induction sources generalizing entries with
  | nil => exact ⟨entries, (Except.ok.inj merged).symm⟩
  | cons source sources ih =>
      obtain ⟨document, -, merged⟩ := bind_eq_ok_iff.mp merged
      obtain ⟨whole, table⟩ := Node.table_mergeSource document entries
      rw [table] at merged
      exact ih merged

-----------------------------------------------------------------------------------------
-- Variables
-----------------------------------------------------------------------------------------

namespace Loader

open KeyPath (IsSectional)

/-- A variable that changes nothing: it is empty, or its name is no key, or it is a text with a key
that leads into no section. -/
def IsIdle (var : String × List UInt8) : Prop :=
  var.2 = [] ∨ ∀ key, key? var.1 = some key → (Utf8.text? var.2).isSome ∧ ¬ IsSectional key

/-- The entries of variables that lead into sections are made by those that are not idle, by
induction on the variables. -/
theorem readVariables_filter_idle (keep : String × List UInt8 → Bool) {vars : Variables}
    (idle : ∀ var ∈ vars, keep var = false → IsIdle var)
    : (readVariables (vars.filter keep)).map (·.filter (IsSectional ·.1))
      = (readVariables vars).map (·.filter (IsSectional ·.1)) := by
  induction vars with
  | nil => rfl
  | cons var vars ih =>
      obtain ⟨own, rest⟩ := List.forall_mem_cons.mp idle
      rcases var with ⟨name, octets⟩
      have later := error_or_ok_of_map_eq (ih rest)
      cases kept : keep (name, octets) with
      | true =>
          rw [List.filter_cons_of_pos kept, readVariables, readVariables]
          split
          · exact ih rest
          · split
            · rfl
            · obtain ⟨fault, fails, fails'⟩ | ⟨document, document', reads, reads', same⟩ := later
              · rw [fails, fails']
              · rw [reads, reads']
                simp only [Except.map, List.filter_cons, same]
      | false =>
          rw [List.filter_cons_of_neg (by simp [kept]), ih rest, readVariables]
          cases spelled : key? name with
          | none => simp
          | some key =>
              by_cases empty : octets = []
              · simp [empty]
              · obtain ⟨isText, outside⟩ := (own kept).resolve_left empty key spelled
                obtain ⟨text, isText⟩ := Option.isSome_iff_exists.mp isText
                simp only [List.isEmpty_iff, empty, if_false, isText]
                cases readVariables vars with
                | error fault => rfl
                | ok document =>
                    simp only [Except.map]
                    rw [List.filter_cons_of_neg (by simpa using outside)]

/-- Idle variables can be left out. -/
theorem load_filter_idle (loader : Loader) (keep : String × List UInt8 → Bool) {vars : Variables}
    (idle : ∀ var ∈ vars, keep var = false → IsIdle var) (disk : Disk)
    : loader.load (vars.filter keep) disk = loader.load vars disk := by
  rw [load, load, tree, tree]
  cases checkRequired disk loader.sources with
  | error fault => rfl
  | ok checked =>
      cases merged : mergeSources disk loader.sources (.table []) with
      | error fault => rfl
      | ok filed =>
          obtain ⟨whole, rfl⟩ := table_of_mergeSources merged
          have left (document : Document) :=
            settingsOf_congr ((Node.SameSections.refl whole).mergeSource document)
          obtain ⟨fault, fails, fails'⟩ | ⟨document, document', reads, reads', same⟩ :=
            error_or_ok_of_map_eq (readVariables_filter_idle keep idle)
          · rw [fails, fails']
          · have converts : settingsOf (Node.mergeSource document (.table whole))
                = settingsOf (Node.mergeSource document' (.table whole)) := by
              rw [left document, left document', same]
            simp only [reads, reads', bind, Except.bind, pure, Except.pure, converts]

end Loader

end Config

end Courier
