import Courier.Config.Loader
import Courier.Proofs.Checks
import Courier.Proofs.Settings.Leaves

/-! What the sources of settings give: a variable gives a text to the leaf it is named for, and a
file gives what its document says.
-/

namespace Courier

theorem Disk.isFile_iff {disk : Disk} {path : String}
    : disk.isFile path = true ↔ ∃ place octets, disk.resolve path = .ok (place, .file octets) := by
  rw [isFile]
  split
  · next place octets stands => exact iff_of_true rfl ⟨place, octets, stands⟩
  · next other => exact iff_of_false nofun fun ⟨place, octets, stands⟩ => other place octets stands

namespace Config

open Courier.Text (dropTrailing lowerText Utf8.dropMark Utf8.read Utf8.text?)

-----------------------------------------------------------------------------------------
-- What variables give
-----------------------------------------------------------------------------------------

namespace Variables

/-- The name, in small letters, of the variable for a path of names. -/
def nameOf (path : List String) : String :=
  "sms_dispatch_" ++ String.intercalate "__" path

/-- The paths of variables that select what is loaded and hold no setting. -/
def selectors : List (List String) :=
  [["config_dir"], ["config_file"], ["app_env"]]

/-- The paths of all variables of the program. -/
def paths : List (List String) :=
  selectors ++ Settings.leaves.map Leaf.path

/-- Every variable of the program is a selector or named for a leaf of the settings. -/
def Known (vars : Variables) : Prop :=
  ∀ var ∈ vars,
    "sms_dispatch_".toList <+: (lowerText var.1).toList
    → ∃ path ∈ paths, lowerText var.1 = nameOf path

instance (vars : Variables) : Decidable vars.Known :=
  inferInstanceAs (Decidable (∀ var ∈ vars, _ → ∃ path ∈ paths, lowerText var.1 = nameOf path))

/-- The text that variables give to a path: that of the last one named for it that is not empty. -/
def given? (vars : Variables) (path : List String) : Option String :=
  vars.reverse.findSome? fun var =>
    if lowerText var.1 = nameOf path ∧ var.2 ≠ [] then Utf8.text? var.2 else none

end Variables

namespace Document

/-- A text under the key of another path gives nothing. -/
theorem givenAlong?_text (path other : List String) (text : String)
    : givenAlong? path (other.map .name) (.text text)
      = if other = path then some (.text text) else none := by
  induction other generalizing path with
  | nil => cases path <;> simp [givenAlong?, Node.given?]
  | cons n other ih =>
      cases path with
      | nil => simp [givenAlong?]
      | cons name path =>
          simp only [List.map_cons, givenAlong?, ih, List.cons.injEq]
          split <;> simp_all

/-- A text fits every path that its own does not lead through, or lead on from. -/
theorem fitsAlong_text {path other : List String} (text : String)
    (apart : other = path ∨ ¬ other <+: path ∧ ¬ path <+: other)
    : fitsAlong path (other.map .name) (.text text) = true := by
  induction other generalizing path with
  | nil =>
      cases path with
      | nil => rfl
      | cons name path => simp at apart
  | cons n other ih =>
      cases path with
      | nil => simp at apart
      | cons name path =>
          simp only [List.map_cons, fitsAlong, Bool.or_eq_true, bne_iff_ne, ne_eq]
          by_cases same : n = name
          · refine .inr (ih ?_)
            simpa [same, List.cons_prefix_cons] using apart
          · exact .inl same

end Document

namespace Variables

theorem given?_cons (var : String × List UInt8) (vars : Variables) (path : List String)
    : given? (var :: vars) path
      = (given? vars path).or
          (if lowerText var.1 = nameOf path ∧ var.2 ≠ [] then Utf8.text? var.2 else none) := by
  simp [given?, List.findSome?_append]

/-- The key that a lower-case name spells behind the common beginning. -/
def keyOf (name : String) : String :=
  String.ofList (Loader.keyChars (name.toList.drop Loader.variableStart.length))

theorem toList_nameOf (path : List String)
    : (nameOf path).toList
      = "sms_dispatch_".toList ++ List.intercalate "__".toList (path.map String.toList) := by
  rw [nameOf, String.toList_append, String.toList_intercalate]

/-- The variable for a path has a key that spells the path. -/
theorem ofKey_keyOf
    : ∀ path ∈ paths, KeyPath.ofKey (keyOf (nameOf path)) = path.map .name := by
  -- on characters, which evaluate far faster than texts
  simp only [KeyPath.ofKey, KeyPath.parse?, keyOf, toList_nameOf, String.toList_ofList]
  decide

/-- Variables for different paths have different names. -/
theorem eq_of_nameOf_eq {path other : List String} (listed : path ∈ paths) (among : other ∈ paths)
    (same : nameOf path = nameOf other)
    : path = other := by
  have spelled := ofKey_keyOf path listed
  rw [same, ofKey_keyOf other among] at spelled
  exact ((List.map_inj_right fun _ _ => Step.name.inj).mp spelled).symm

/-- No path of a variable leads through that of a leaf, or on from it. -/
theorem apart_of_ne
    : ∀ path ∈ paths, ∀ leaf ∈ Settings.leaves,
        path = leaf.path ∨ ¬ path <+: leaf.path ∧ ¬ leaf.path <+: path := by
  decide

theorem path_mem_paths {leaf : Leaf Settings} (among : leaf ∈ Settings.leaves)
    : leaf.path ∈ paths :=
  List.mem_append_right selectors (List.mem_map_of_mem among)

/-- A name without the common beginning is that of no path. -/
theorem ne_nameOf_of_key?_eq_none {name : String} (none : Loader.key? name = none)
    (path : List String)
    : lowerText name ≠ nameOf path := by
  intro named
  have begins : "sms_dispatch_".toList <+: (lowerText name).toList := by
    rw [named, nameOf, String.toList_append]
    exact List.prefix_append _ _
  simp only [Loader.key?, List.isPrefixOf_iff_prefix, ite_eq_right_iff, reduceCtorEq,
    imp_false] at none
  exact none begins

/-- A name with the common beginning spells a key. -/
theorem prefix_of_key?_eq_some {name key : String} (spelled : Loader.key? name = some key)
    : "sms_dispatch_".toList <+: (lowerText name).toList ∧ key = keyOf (lowerText name) := by
  simp only [Loader.key?, List.isPrefixOf_iff_prefix] at spelled
  split at spelled
  · next begins => exact ⟨begins, (Option.some.inj spelled).symm⟩
  · cases spelled

/-- The first of the variables is left out, or makes the first entry. -/
theorem readVariables_cons {name : String} {octets : List UInt8} {vars : Variables}
    {document : Document} (entries : Loader.readVariables ((name, octets) :: vars) = .ok document)
    : (octets = [] ∨ Loader.key? name = none) ∧ Loader.readVariables vars = .ok document
      ∨ ∃ key text later,
          octets ≠ [] ∧ Loader.key? name = some key ∧ Utf8.text? octets = some text
          ∧ Loader.readVariables vars = .ok later ∧ document = (key, .text text) :: later := by
  rw [Loader.readVariables] at entries
  by_cases empty : octets = []
  · exact .inl ⟨.inl empty, by simpa [empty] using entries⟩
  · rw [if_neg (by simpa using empty)] at entries
    cases spelled : Loader.key? name with
    | none => exact .inl ⟨.inr rfl, by simpa [spelled] using entries⟩
    | some key =>
        rw [spelled] at entries
        cases isText : Utf8.text? octets with
        | none => simp [isText] at entries
        | some text =>
            rw [isText] at entries
            obtain ⟨later, read, made⟩ := map_eq_ok_iff.mp entries
            exact .inr ⟨key, text, later, empty, rfl, rfl, read, made.symm⟩

/-- The entries of variables give to a leaf the text that the variables give, and fit it, by
induction on the variables. -/
theorem Known.given?_readVariables {vars : Variables} {document : Document} (known : vars.Known)
    (entries : Loader.readVariables vars = .ok document) {leaf : Leaf Settings}
    (among : leaf ∈ Settings.leaves)
    : document.given? leaf.path = (vars.given? leaf.path).map .text
      ∧ document.fits leaf.path = true := by
  induction vars generalizing document with
  | nil =>
      obtain rfl := Except.ok.inj entries
      exact ⟨rfl, rfl⟩
  | cons var vars ih =>
      obtain ⟨own, rest⟩ := List.forall_mem_cons.mp known
      rw [given?_cons]
      rcases readVariables_cons entries with
        ⟨skipped, later⟩ | ⟨key, text, later, filled, spelled, isText, read, rfl⟩
      · -- left out: then it gives nothing to any path either
        have idle : ¬ (lowerText var.1 = nameOf leaf.path ∧ var.2 ≠ []) := by
          rintro ⟨named, filled⟩
          exact ne_nameOf_of_key?_eq_none (skipped.resolve_left filled) _ named
        rw [if_neg idle, Option.or_none]
        exact ih rest later
      · obtain ⟨begins, rfl⟩ := prefix_of_key?_eq_some spelled
        obtain ⟨path, listed, named⟩ := own begins
        obtain ⟨given, fit⟩ := ih rest read
        have same : nameOf path = nameOf leaf.path ↔ path = leaf.path :=
          ⟨eq_of_nameOf_eq listed (path_mem_paths among), congrArg nameOf⟩
        have fits := Document.fitsAlong_text text (apart_of_ne path listed leaf among)
        rw [Document.given?_cons, Document.fits, List.all_cons, Bool.and_eq_true, named,
          ofKey_keyOf path listed, Document.givenAlong?_text, given, isText, Option.map_or]
        refine ⟨?_, fits, fit⟩
        by_cases own : path = leaf.path <;> simp [same, own, filled]

/-- Variables without a value make no entries. -/
theorem readVariables_filter (vars : Variables)
    : Loader.readVariables (vars.filter (!·.2.isEmpty)) = Loader.readVariables vars := by
  induction vars with
  | nil => rfl
  | cons var vars ih =>
      by_cases empty : var.2.isEmpty = true
      · rw [List.filter_cons_of_neg (by simp [empty]), ih, Loader.readVariables, if_pos empty]
      · rw [List.filter_cons_of_pos (by simp [empty]), Loader.readVariables,
          Loader.readVariables, ih]

end Variables

-----------------------------------------------------------------------------------------
-- What files give
-----------------------------------------------------------------------------------------

namespace Loader

/-- The document of the file at a path; where there is no file, the empty one. -/
def fileDocument (disk : Disk) (path : String) : Document :=
  match disk.resolve path with
  | .ok (_, .file octets) => (Toml.parse? (Utf8.read (Utf8.dropMark octets))).getD []
  | _ => []

/-- The path of the file that is read when there is none at a path. -/
def longer (path : String) : String :=
  dropTrailing '/' path ++ ".toml"

/-- A source that can be read has the document of its file. -/
theorem eq_fileDocument_of_readSource {disk : Disk} {source : Source} {document : Document}
    (alone : disk.isFile (longer source.path) = false)
    (entries : readSource disk source = .ok document)
    : document = fileDocument disk source.path := by
  rw [longer] at alone
  rw [readSource, locate] at entries
  cases file : disk.isFile source.path with
  | false =>
      have missing (place : Disk.Place) (octets : List UInt8)
          : disk.resolve source.path ≠ .ok (place, .file octets) :=
        fun stands => by simp [Disk.isFile_iff.mpr ⟨place, octets, stands⟩] at file
      simp only [file, alone, Bool.false_eq_true, if_false] at entries
      rw [fileDocument]
      split at entries
      · cases entries
      · split
        · next place octets stands => exact absurd stands (missing place octets)
        · exact (Except.ok.inj entries).symm
  | true =>
      obtain ⟨place, octets, stands⟩ := Disk.isFile_iff.mp file
      have read : disk.read source.path = .ok octets := by
        simp [Disk.read, stands, bind, Except.bind, pure, Except.pure]
      simp only [file, if_true, read, readDocument] at entries
      simp only [fileDocument, stands]
      split at entries
      · next parsed =>
          rw [parsed]
          exact (Except.ok.inj entries).symm
      · cases entries

end Loader

end Config

end Courier
