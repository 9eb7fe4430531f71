import Courier.Proofs.Config.Precedence
import Courier.Proofs.Config.Sections
import Courier.Proofs.Disk.Paths

/-! What loading depends on. Only the files of a loader are looked at, so the test environment never
sees the local file, and a single file is loaded alike whatever directory and environment are
selected beside it.
-/

namespace Courier.Config.Loader

open Courier.Disk (IsFileName dropTrailing_append getLast?_of_target names_append)
open Courier.Text (Utf8.text?)

variable {disk other : Disk} {loader : Loader} {vars : Variables}

-----------------------------------------------------------------------------------------
-- Trees that agree
-----------------------------------------------------------------------------------------

/-- Two trees have the same at the end of a path and, unless that is a file, at the end of the path
that is tried in its place. -/
structure AgreeAt (disk other : Disk) (path : String) : Prop where
  own : disk.look? path = other.look? path
  instead : disk.isFile path = false → disk.look? (longer path) = other.look? (longer path)

instance decidableAgreeAt (disk other : Disk) (path : String)
    : Decidable (AgreeAt disk other path) :=
  decidable_of_iff (_ ∧ (_ → _)) ⟨fun ⟨own, instead⟩ => ⟨own, instead⟩, fun h => ⟨h.1, h.2⟩⟩

theorem isFile_congr {path : String} (same : disk.look? path = other.look? path)
    : disk.isFile path = other.isFile path := by
  rw [Bool.eq_iff_iff, Disk.isFile_iff_look?, Disk.isFile_iff_look?, same]

/-- The same octets are read from a file that two trees have at the end of a path. -/
theorem read_congr {path : String} (same : disk.look? path = other.look? path)
    (file : disk.isFile path = true)
    : disk.read path = other.read path := by
  obtain ⟨octets, stands⟩ := Disk.isFile_iff_look?.mp file
  rw [Disk.read_of_look? stands, Disk.read_of_look? (same.symm.trans stands)]

theorem readSource_congr {source : Source} (agree : AgreeAt disk other source.path)
    : readSource disk source = readSource other source := by
  simp only [readSource, locate, ← longer.eq_def, ← isFile_congr agree.own]
  cases file : disk.isFile source.path with
  | true => simp only [if_true, read_congr agree.own file]
  | false =>
      have same := agree.instead file
      simp only [Bool.false_eq_true, if_false, ← isFile_congr same]
      cases longerFile : disk.isFile (longer source.path) with
      | true => simp only [if_true, read_congr same longerFile]
      | false => rfl

/-- The files that must be there are there in both trees or in none, by induction on the sources. -/
theorem checkRequired_congr {sources : List Source}
    (agree : ∀ source ∈ sources, AgreeAt disk other source.path)
    : checkRequired disk sources = checkRequired other sources := by
  induction sources with
  | nil => rfl
  | cons source sources ih =>
      obtain ⟨first, rest⟩ := List.forall_mem_cons.mp agree
      rw [checkRequired, checkRequired, Disk.hasPath_eq, Disk.hasPath_eq, first.own, ih rest]

/-- The same entries are read from the sources in both trees, by induction on the sources. -/
theorem mergeSources_congr {sources : List Source}
    (agree : ∀ source ∈ sources, AgreeAt disk other source.path) (tree : Node)
    : mergeSources disk sources tree = mergeSources other sources tree := by
  induction sources generalizing tree with
  | nil => rfl
  | cons source sources ih =>
      obtain ⟨first, rest⟩ := List.forall_mem_cons.mp agree
      rw [mergeSources, mergeSources, readSource_congr first]
      exact congrArg _ (funext fun entries => ih rest _)

/-- Loading looks at the files of the loader only. -/
theorem load_congr (agree : ∀ file ∈ loader.files, AgreeAt disk other file)
    : loader.load vars disk = loader.load vars other := by
  have sources : ∀ source ∈ loader.sources, AgreeAt disk other source.path := by
    simpa [files_eq] using agree
  rw [load, load, tree, tree, checkRequired_congr sources, mergeSources_congr sources]

/-- Loaders with the same sources load the same. -/
theorem load_congr_sources {loader' : Loader} (same : loader.sources = loader'.sources)
    : loader.load vars disk = loader'.load vars disk := by
  rw [load, load, tree, tree, same]

-----------------------------------------------------------------------------------------
-- Files of a directory
-----------------------------------------------------------------------------------------

/-- The paths of the files in a directory begin alike and end in the names of the files. -/
theorem join_eq (directory : String)
    : ∃ above : List Char,
        (above = [] ∨ above.getLast? = some '/')
        ∧ ∀ file, join directory file = String.ofList (above ++ file.toList) := by
  by_cases whole : directory = "" ∨ directory.toList.getLast? = some '/'
  · refine ⟨directory.toList, whole.imp_left (by simp), fun file => ?_⟩
    rw [join, if_pos (by simpa using whole), String.ofList_append, String.ofList_toList,
      String.ofList_toList]
  · refine ⟨directory.toList ++ ['/'], .inr List.getLast?_concat, fun file => ?_⟩
    rw [join, if_neg (by simpa using whole), String.ofList_append, String.ofList_append,
      String.ofList_toList, String.ofList_toList]

/-- The path that is tried in the place of a file leads into the same directory. -/
theorem longer_join (directory : String) {file : String} (fileName : IsFileName file)
    : longer (join directory file) = join directory (file ++ ".toml") := by
  obtain ⟨above, -, joined⟩ := join_eq directory
  rw [longer, joined, dropTrailing_append fileName, joined, String.toList_append,
    ← List.append_assoc]
  symm
  rw [String.ofList_append, String.ofList_toList]

theorem names_join (directory : String) {file : String} (fileName : IsFileName file)
    : ∃ steps, (Disk.names (join directory file)).1 = steps ++ [file] := by
  obtain ⟨above, divided, joined⟩ := join_eq directory
  rw [joined]
  exact names_append fileName above divided

/-- A file that is written into a directory leaves what stands under other names there. -/
theorem look?_put_join {directory file name : String} {place : Disk.Place}
    (written : disk.target (join directory file) = .ok place)
    (undirected : disk.find? place ≠ some .directory) (octets : List UInt8)
    (fileName : IsFileName file) (otherName : IsFileName name) (apart : name ≠ file)
    : (disk.put place (.file octets)).look? (join directory name)
      = disk.look? (join directory name) := by
  obtain ⟨steps, ends⟩ := names_join directory otherName
  obtain ⟨_, reached⟩ := names_join directory fileName
  refine Disk.look?_put undirected octets ends otherName.plain ?_
  rw [getLast?_of_target reached fileName.plain written]
  exact fun same => apart (Option.some.inj same).symm

/-- The test environment does not see what is written to the local file. -/
theorem load_put_local {place : Disk.Place} (layered : loader.file = none)
    (test : loader.environment = .test)
    (written : disk.target (join loader.directory "local.toml") = .ok place)
    (undirected : disk.find? place ≠ some .directory) (octets : List UInt8)
    : loader.load vars (disk.put place (.file octets)) = loader.load vars disk := by
  have unseen {name : String} (otherName : IsFileName name) (apart : name ≠ "local.toml") :=
    look?_put_join written undirected octets (by decide) otherName apart
  have agree (name : String) (otherName : IsFileName name)
      (longerName : IsFileName (name ++ ".toml"))
      (apart : name ≠ "local.toml") (longerApart : name ++ ".toml" ≠ "local.toml")
      : AgreeAt (disk.put place (.file octets)) disk (join loader.directory name) := by
    refine ⟨unseen otherName apart, fun _ => ?_⟩
    rw [longer_join loader.directory otherName]
    exact unseen longerName longerApart
  apply load_congr
  simp only [files, layered, test, if_true, List.nil_append, List.forall_mem_cons]
  exact ⟨agree "test.toml" (by decide) (by decide) (by decide) (by decide),
    agree "default.toml" (by decide) (by decide) (by decide) (by decide), nofun⟩

-----------------------------------------------------------------------------------------
-- A single file
-----------------------------------------------------------------------------------------

/-- The loader that the variables ask for, with the environment and the file that are given. -/
def selected (vars : Variables) (environment : Option Environment) (file : Option String)
    : Except Fault Loader := do
  let loader ← ofVariables vars
  return (loader.withEnvironment environment).withFile file

/-- The file is the one that is given, or the one that the variables name. -/
theorem file_of_selected {environment : Option Environment} {file : Option String}
    (selects : selected vars environment file = .ok loader)
    : loader.file = file.or (vars.find? fileVariable) := by
  obtain ⟨plain, asked, selects⟩ := bind_eq_ok_iff.mp selects
  obtain rfl := Except.ok.inj selects
  have named : plain.file = vars.find? fileVariable := by
    rw [ofVariables] at asked
    split at asked
    · cases asked
    · obtain ⟨own, -, asked⟩ := bind_eq_ok_iff.mp asked
      obtain rfl := Except.ok.inj asked
      rfl
  cases environment <;> cases file <;> first | exact named | rfl

/-- Nothing is selected where the variables name both a directory and a file. -/
theorem selected_of_bothNamed (directory : (vars.find? directoryVariable).isSome = true)
    (named : (vars.find? fileVariable).isSome = true) (environment : Option Environment)
    (file : Option String)
    : selected vars environment file = .error bothNamed := by
  rw [selected, ofVariables]
  simp only [directory, named, Bool.and_self, if_true]
  rfl

/-- The names of the variables that select a directory and an environment. -/
def sideNames : List String := [directoryVariable, Environment.variableName]

/-- The variables without those that select a directory and an environment. -/
def withoutSides (vars : Variables) : Variables := vars.filter (!sideNames.contains ·.1)

/-- The selection of a directory and an environment is written in texts. -/
def SidesAreTexts (vars : Variables) : Prop :=
  ∀ var ∈ vars, var.1 ∈ sideNames → (Utf8.text? var.2).isSome

instance decidableSidesAreTexts : DecidablePred SidesAreTexts := fun vars =>
  inferInstanceAs (Decidable (∀ var ∈ vars, _))

/-- The keys of the selecting variables lead into no section. -/
theorem sideNames_outside
    : ∀ name ∈ sideNames, (key? name).any (KeyPath.IsSectional ·) = false := by
  decide

theorem load_withoutSides (texts : SidesAreTexts vars)
    : loader.load (withoutSides vars) disk = loader.load vars disk := by
  apply load_filter_idle
  intro var among left
  have side : var.1 ∈ sideNames := by simpa using left
  refine .inr fun key spelled => ⟨texts var among side, ?_⟩
  have outside := sideNames_outside var.1 side
  rw [spelled] at outside
  exact of_decide_eq_false outside

/-- A single file is loaded alike by all loaders of it. -/
theorem load_congr_file {loader' : Loader} {path : String} (file : loader.file = some path)
    (file' : loader'.file = some path) (agree : AgreeAt disk other path)
    : loader.load vars disk = loader'.load vars other := by
  have single : loader.sources = loader'.sources := by rw [sources, sources, file, file']
  rw [load_congr_sources single]
  apply load_congr
  simpa [files, file'] using agree

-----------------------------------------------------------------------------------------
-- Isolation
-----------------------------------------------------------------------------------------

end Courier.Config.Loader
