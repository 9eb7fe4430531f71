import Courier.Disk.Basic
import Courier.Proofs.Checks

/-! What stands at the end of a path, and what a file that is written elsewhere leaves as it was.
-/

namespace Courier.Disk

open Courier.Text

variable {disk other : Disk} {path : String} {place : Place} {entry : Entry}

-----------------------------------------------------------------------------------------
-- Ends of paths
-----------------------------------------------------------------------------------------

/-- What stands at the end of a path, if anything does. -/
def look? (disk : Disk) (path : String) : Option Entry :=
  (disk.resolve path).toOption.map (·.2)

theorem hasPath_eq (disk : Disk) (path : String)
    : disk.hasPath path = (disk.look? path).isSome := by
  rw [hasPath, look?]
  cases disk.resolve path <;> rfl

/-- There is a file at the end of a path when octets stand there, and those are read. -/
theorem isFile_iff_look?
    : disk.isFile path = true ↔ ∃ octets, disk.look? path = some (.file octets) := by
  rw [isFile, look?]
  rcases disk.resolve path with fault | ⟨place, entry⟩
  · exact iff_of_false nofun nofun
  · cases entry with
    | file octets => exact iff_of_true rfl ⟨octets, rfl⟩
    | directory | sink | full => exact iff_of_false nofun nofun

theorem read_of_look? {octets : List UInt8} (stands : disk.look? path = some (.file octets))
    : disk.read path = .ok octets := by
  rw [look?] at stands
  rw [read]
  rcases resolved : disk.resolve path with fault | ⟨place, entry⟩
  · simp [resolved, Except.toOption] at stands
  · obtain rfl : entry = .file octets := by simpa [resolved, Except.toOption] using stands
    rfl

/-- What stands at the end of a path stands at the place where the walk along its names ends. -/
theorem look?_eq_some_iff
    : disk.look? path = some entry
      ↔ path ≠ ""
        ∧ ((names path).2 = true → entry = .directory)
        ∧ ∃ place, disk.walk (origin path) (names path).1 = .ok place
            ∧ disk.find? place = some entry := by
  rw [look?, resolve]
  by_cases empty : path = ""
  · simp [empty, Except.toOption]
  · rw [if_neg (by simpa using empty)]
    rcases names path with ⟨steps, wantsDirectory⟩
    dsimp only
    cases walked : disk.walk (origin path) steps with
    | error fault => simp [bind, Except.bind, Except.toOption, empty]
    | ok place =>
        simp only [bind, Except.bind, pure, Except.pure]
        rcases found : disk.find? place with _ | (_ | content | _ | _)
        all_goals cases wantsDirectory <;> simp [Except.toOption, empty, found] <;> grind

-----------------------------------------------------------------------------------------
-- Walks
-----------------------------------------------------------------------------------------

/-- A name that leads to an entry of its own in a directory. -/
def IsPlain (name : String) : Prop :=
  name ≠ "." ∧ name ≠ ".."

instance decidableIsPlain : DecidablePred IsPlain := fun _ =>
  inferInstanceAs (Decidable (_ ∧ _))

/-- A walk goes on only from a directory. -/
theorem walk_cons_eq_ok_iff {name : String} {steps : List String} {start : Place}
    : disk.walk start (name :: steps) = .ok place
      ↔ disk.find? start = some .directory
        ∧ disk.walk
            (if name = "." then start else if name = ".." then start.dropLast else start ++ [name])
            steps
          = .ok place := by
  rw [walk]
  rcases disk.find? start with _ | (_ | content | _ | _)
  case some.directory =>
    simp only [beq_iff_eq, true_and]
    split
    · rfl
    · split <;> rfl
  all_goals simp

theorem walk_nil_eq_ok_iff {start : Place}
    : disk.walk start [] = .ok place ↔ start = place ∧ (disk.find? place).isSome = true := by
  rw [walk]
  cases found : disk.find? start with
  | none =>
      refine iff_of_false nofun ?_
      rintro ⟨rfl, stands⟩
      simp [found] at stands
  | some entry =>
      rw [Except.ok.injEq]
      refine ⟨?_, And.left⟩
      rintro rfl
      exact ⟨rfl, by rw [found]; rfl⟩

/-- The place where a walk ends has the last of its names, by induction on the names before it. -/
theorem getLast?_of_walk {steps : List String} {name : String} {start : Place}
    (plain : IsPlain name) (walked : disk.walk start (steps ++ [name]) = .ok place)
    : place.getLast? = some name := by
  induction steps generalizing start with
  | nil =>
      obtain ⟨-, walked⟩ := walk_cons_eq_ok_iff.mp walked
      rw [if_neg plain.1, if_neg plain.2] at walked
      obtain ⟨rfl, -⟩ := walk_nil_eq_ok_iff.mp walked
      exact List.getLast?_concat
  | cons step steps ih => exact ih (walk_cons_eq_ok_iff.mp walked).2

-----------------------------------------------------------------------------------------
-- Files written elsewhere
-----------------------------------------------------------------------------------------

theorem find?_put_self (disk : Disk) (place : Place) (entry : Entry)
    : (disk.put place entry).find? place = some entry := by
  rcases disk with ⟨entries⟩
  simp only [put, find?]
  induction entries with
  | nil => simp [put.go]
  | cons first rest ih =>
      rw [put.go]
      split
      · simp
      · next apart => rwa [List.find?_cons_of_neg (by simpa using apart)]

theorem find?_put_of_ne {elsewhere : Place} (apart : elsewhere ≠ place) (entry : Entry)
    : (disk.put place entry).find? elsewhere = disk.find? elsewhere := by
  rcases disk with ⟨entries⟩
  simp only [put, find?]
  induction entries with
  | nil => simp [put.go, apart.symm]
  | cons first rest ih =>
      rw [put.go]
      split
      · next same =>
          have away : first.1 ≠ elsewhere :=
            fun taken => apart (taken.symm.trans (beq_iff_eq.mp same))
          rw [List.find?_cons_of_neg (by simpa using apart.symm),
            List.find?_cons_of_neg (by simpa using away)]
      · simp only [List.find?_cons]
        split
        · rfl
        · exact ih

/-- A file that is written where no directory is turns no walk that ends elsewhere, by induction on
the names: the walk goes through directories, of which the written place is none. -/
theorem walk_put_eq_ok_iff {written : Place} {octets : List UInt8}
    (undirected : disk.find? written ≠ some .directory) (apart : place ≠ written)
    {steps : List String} {start : Place}
    : (disk.put written (.file octets)).walk start steps = .ok place
      ↔ disk.walk start steps = .ok place := by
  have directory_iff (through : Place)
      : (disk.put written (.file octets)).find? through = some .directory
        ↔ disk.find? through = some .directory := by
    by_cases same : through = written
    · subst same
      rw [find?_put_self]
      exact iff_of_false nofun undirected
    · rw [find?_put_of_ne same]
  induction steps generalizing start with
  | nil => rw [walk_nil_eq_ok_iff, walk_nil_eq_ok_iff, find?_put_of_ne apart]
  | cons step steps ih =>
      rw [walk_cons_eq_ok_iff, walk_cons_eq_ok_iff, directory_iff]
      exact and_congr_right fun _ => ih

/-- A file that is written under one name leaves what stands at paths that end in another one. -/
theorem look?_put {written : Place} {steps : List String} {name : String}
    (undirected : disk.find? written ≠ some .directory) (octets : List UInt8)
    (ends : (names path).1 = steps ++ [name]) (plain : IsPlain name)
    (apart : written.getLast? ≠ some name)
    : (disk.put written (.file octets)).look? path = disk.look? path := by
  refine Option.ext fun entry => ?_
  rw [look?_eq_some_iff, look?_eq_some_iff, ends]
  refine and_congr_right fun _ => and_congr_right fun _ => exists_congr fun place => ?_
  by_cases same : place = written
  · subst same
    have astray {tree : Disk} (walked : tree.walk (origin path) (steps ++ [name]) = .ok place)
        : False :=
      apart (getLast?_of_walk plain walked)
    exact iff_of_false (fun stands => astray stands.1) fun stands => astray stands.1
  · rw [walk_put_eq_ok_iff undirected same, find?_put_of_ne same]

-----------------------------------------------------------------------------------------
-- Names of paths
-----------------------------------------------------------------------------------------

theorem splitOn_ne_nil (c : Char) (cs : List Char) : splitOn c cs ≠ [] := by
  cases cs with
  | nil => exact List.cons_ne_nil _ _
  | cons x xs =>
      rw [splitOn]
      split
      · exact List.cons_ne_nil _ _
      · split <;> exact List.cons_ne_nil _ _

theorem splitOn_of_notMem {c : Char} {cs : List Char} (absent : c ∉ cs) : splitOn c cs = [cs] := by
  induction cs with
  | nil => rfl
  | cons x xs ih =>
      have other : x ≠ c := fun same => absent (same ▸ List.mem_cons_self)
      rw [splitOn, if_neg (by simpa using other), ih fun found => absent (.tail x found)]

/-- A text is split on each side of an occurrence on its own, by induction on the part before it. -/
theorem splitOn_append_cons (c : Char) (xs ys : List Char)
    : splitOn c (xs ++ c :: ys) = splitOn c xs ++ splitOn c ys := by
  induction xs with
  | nil => simp [splitOn]
  | cons x xs ih =>
      rw [List.cons_append, splitOn, splitOn, ih]
      split
      · rfl
      · cases parts : splitOn c xs with
        | nil => exact absurd parts (splitOn_ne_nil c xs)
        | cons part parts => rfl

/-- A name of a file in a directory. -/
structure IsFileName (name : String) : Prop where
  filled : name ≠ ""
  plain : IsPlain name
  undivided : '/' ∉ name.toList

instance decidableIsFileName (name : String) : Decidable (IsFileName name) :=
  decidable_of_iff (name ≠ "" ∧ IsPlain name ∧ '/' ∉ name.toList)
    ⟨fun h => ⟨h.1, h.2.1, h.2.2⟩, fun h => ⟨h.filled, h.plain, h.undivided⟩⟩

/-- The names of a path end in what comes after its last slash. -/
theorem names_append {name : String} (fileName : IsFileName name) (above : List Char)
    (divided : above = [] ∨ above.getLast? = some '/')
    : ∃ steps, (names (String.ofList (above ++ name.toList))).1 = steps ++ [name] := by
  have kept : [String.ofList name.toList].filter (· != "") = [name] := by
    simp [fileName.filled]
  rcases divided with rfl | slash
  · refine ⟨[], ?_⟩
    rw [names, List.nil_append, String.toList_ofList, splitOn_of_notMem fileName.undivided]
    exact kept
  · obtain ⟨init, rfl⟩ := List.getLast?_eq_some_iff.mp slash
    refine ⟨((splitOn '/' init).map String.ofList).filter (· != ""), ?_⟩
    rw [names, String.toList_ofList, List.append_assoc, List.singleton_append,
      splitOn_append_cons, splitOn_of_notMem fileName.undivided, List.map_append,
      List.filter_append]
    exact congrArg _ kept

/-- The place at which a path ends has the last of its names. -/
theorem getLast?_of_target {steps : List String} {name : String}
    (ends : (names path).1 = steps ++ [name]) (plain : IsPlain name)
    (reaches : disk.target path = .ok place)
    : place.getLast? = some name := by
  rw [target] at reaches
  split at reaches
  · cases reaches
  · simp only [ends, List.getLast?_concat, List.dropLast_concat] at reaches
    rw [if_neg (by simpa using ⟨plain.1, plain.2⟩)] at reaches
    obtain ⟨parent, -, reaches⟩ := bind_eq_ok_iff.mp reaches
    split at reaches
    · obtain rfl := Except.ok.inj reaches
      exact List.getLast?_concat
    · cases reaches

/-- A path that ends in a name has no slash at its end. -/
theorem dropTrailing_append {name : String} (fileName : IsFileName name) (above : List Char)
    : dropTrailing '/' (String.ofList (above ++ name.toList))
      = String.ofList (above ++ name.toList) := by
  have filled : name.toList ≠ [] := by simpa using fileName.filled
  obtain ⟨init, last, spelled⟩ : ∃ init last, name.toList = init ++ [last] :=
    ⟨_, _, (List.dropLast_concat_getLast filled).symm⟩
  have other : last ≠ '/' := by
    rintro rfl
    exact fileName.undivided (by simp [spelled])
  rw [dropTrailing, String.toList_ofList, spelled, ← List.append_assoc, List.reverse_concat,
    List.dropWhile_cons_of_neg (by simpa using other), ← List.reverse_concat, List.reverse_reverse]

end Courier.Disk
