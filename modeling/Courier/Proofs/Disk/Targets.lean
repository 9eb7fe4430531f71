import Courier.Disk.Handle
import Courier.Proofs.Disk.Paths

/-! Files that are opened to be written. The place that a path leads to stays the same while its
file is written, what is written there is read along the path, and the directories that are made for
a file change nothing that stood before.
-/

namespace Courier.Disk

open Courier.Text

variable {disk after : Disk} {path : String} {place : Place}

-----------------------------------------------------------------------------------------
-- Targets
-----------------------------------------------------------------------------------------

/-- A path that need not lead to a directory ends in a plain name. -/
theorem exists_name_of_not_wantsDirectory (undirected : (names path).2 = false)
    : ∃ steps name, (names path).1 = steps ++ [name] ∧ IsPlain name := by
  have parted : (splitOn '/' path.toList).map String.ofList ≠ [] := by
    simpa using splitOn_ne_nil '/' path.toList
  rcases List.eq_nil_or_concat ((splitOn '/' path.toList).map String.ofList) with
    none | ⟨init, last, parts⟩
  · exact absurd none parted
  · simp only [names, parts, List.concat_eq_append, List.getLastD_concat, Bool.or_eq_false_iff,
      beq_eq_false_iff_ne] at undirected ⊢
    obtain ⟨⟨filled, here⟩, above⟩ := undirected
    refine ⟨init.filter (· != ""), last, ?_, here, above⟩
    simp [List.filter_append, filled]

/-- A walk that ends with a plain name enters a directory, by induction on the names before it. -/
theorem walk_concat_eq_ok_iff {steps : List String} {name : String} {start : Place}
    (plain : IsPlain name)
    : disk.walk start (steps ++ [name]) = .ok place
      ↔ ∃ parent,
        disk.walk start steps = .ok parent
        ∧ disk.find? parent = some .directory
        ∧ parent ++ [name] = place
        ∧ (disk.find? place).isSome = true := by
  induction steps generalizing start with
  | nil =>
      rw [List.nil_append, walk_cons_eq_ok_iff, if_neg plain.1, if_neg plain.2,
        walk_nil_eq_ok_iff]
      constructor
      · intro walked
        obtain ⟨directory, same, stands⟩ := walked
        refine ⟨start, walk_nil_eq_ok_iff.mpr ⟨rfl, ?_⟩, directory, same, stands⟩
        rw [directory]
        rfl
      · intro walked
        obtain ⟨parent, here, directory, same, stands⟩ := walked
        obtain ⟨rfl, -⟩ := walk_nil_eq_ok_iff.mp here
        exact ⟨directory, same, stands⟩
  | cons step steps ih =>
      simp only [List.cons_append, walk_cons_eq_ok_iff, ih]
      constructor
      · intro walked
        obtain ⟨directory, parent, rest⟩ := walked
        exact ⟨parent, ⟨directory, rest.1⟩, rest.2⟩
      · intro walked
        obtain ⟨parent, ⟨directory, first⟩, rest⟩ := walked
        exact ⟨directory, parent, first, rest⟩

/-- The target of a path that ends in a plain name is that name in a directory. -/
theorem target_eq_ok_iff {steps : List String} {name : String}
    (ends : (names path).1 = steps ++ [name]) (plain : IsPlain name)
    : disk.target path = .ok place
      ↔ path ≠ ""
        ∧ ∃ parent,
          disk.walk (origin path) steps = .ok parent
          ∧ disk.find? parent = some .directory
          ∧ parent ++ [name] = place := by
  rw [target]
  by_cases empty : path = ""
  · simp [empty]
  · have dotless : (name == "." || name == "..") = false := by simp [plain.1, plain.2]
    simp only [beq_iff_eq, empty, if_false, ends, List.getLast?_concat, List.dropLast_concat,
      dotless, Bool.false_eq_true, bind_eq_ok_iff, ne_eq, not_false_eq_true, true_and]
    refine exists_congr fun parent => and_congr_right fun _ => ?_
    rcases disk.find? parent with _ | (_ | content | _ | _)
    case some.directory => simp [pure, Except.pure]
    all_goals simp

/-- A path leads to the place where its file is written also after that. -/
theorem target_put (undirected : (names path).2 = false) (reaches : disk.target path = .ok place)
    (free : disk.find? place ≠ some .directory) (octets : List UInt8)
    : (disk.put place (.file octets)).target path = .ok place := by
  obtain ⟨steps, name, ends, plain⟩ := exists_name_of_not_wantsDirectory undirected
  obtain ⟨filled, parent, walked, directory, same⟩ := (target_eq_ok_iff ends plain).mp reaches
  have apart : parent ≠ place := by
    intro here
    exact free (here ▸ directory)
  apply (target_eq_ok_iff ends plain).mpr
  refine ⟨filled, parent, (walk_put_eq_ok_iff free apart).mpr walked, ?_, same⟩
  rw [find?_put_of_ne apart, directory]

/-- The file at the place that a path leads to is read along the path. -/
theorem read_of_target {octets : List UInt8} (undirected : (names path).2 = false)
    (reaches : disk.target path = .ok place) (stands : disk.find? place = some (.file octets))
    : disk.read path = .ok octets := by
  obtain ⟨steps, name, ends, plain⟩ := exists_name_of_not_wantsDirectory undirected
  obtain ⟨filled, parent, walked, directory, same⟩ := (target_eq_ok_iff ends plain).mp reaches
  apply read_of_look?
  apply look?_eq_some_iff.mpr
  refine ⟨filled, fun wanted => absurd (undirected.symm.trans wanted) nofun, place, ?_, stands⟩
  rw [ends]
  apply (walk_concat_eq_ok_iff plain).mpr
  refine ⟨parent, walked, directory, same, ?_⟩
  rw [stands]
  rfl

-----------------------------------------------------------------------------------------
-- Directories that are made
-----------------------------------------------------------------------------------------

/-- A tree has grown by directories where nothing stood. -/
def Grows (disk after : Disk) : Prop :=
  ∀ place,
    after.find? place = disk.find? place
    ∨ disk.find? place = none ∧ after.find? place = some .directory

theorem Grows.refl (disk : Disk) : Grows disk disk :=
  fun _ => .inl rfl

theorem Grows.trans {later : Disk} (first : Grows disk after) (second : Grows after later)
    : Grows disk later := by
  intro place
  rcases second place with same | ⟨none, made⟩
  · exact same ▸ first place
  · rcases first place with same | ⟨free, made'⟩
    · exact .inr ⟨same.symm.trans none, made⟩
    · exact absurd (none.symm.trans made') nofun

/-- A walk goes on in a tree that has grown, by induction on the names. -/
theorem Grows.walk {steps : List String} {start : Place} (grows : Grows disk after)
    (walked : disk.walk start steps = .ok place)
    : after.walk start steps = .ok place := by
  have kept {place : Place} {entry : Entry} (stands : disk.find? place = some entry)
      : after.find? place = some entry := by
    rcases grows place with same | ⟨none, -⟩
    · exact same.trans stands
    · exact absurd (none.symm.trans stands) nofun
  induction steps generalizing start with
  | nil =>
      obtain ⟨here, stands⟩ := walk_nil_eq_ok_iff.mp walked
      obtain ⟨entry, found⟩ := Option.isSome_iff_exists.mp stands
      apply walk_nil_eq_ok_iff.mpr
      exact ⟨here, Option.isSome_iff_exists.mpr ⟨entry, kept found⟩⟩
  | cons step steps ih =>
      obtain ⟨directory, rest⟩ := walk_cons_eq_ok_iff.mp walked
      exact walk_cons_eq_ok_iff.mpr ⟨kept directory, ih rest⟩

theorem grows_of_makeDirectory (made : disk.makeDirectory path = .ok after)
    : Grows disk after := by
  obtain ⟨place, -, made⟩ := bind_eq_ok_iff.mp made
  cases found : disk.find? place with
  | some entry =>
      rw [found] at made
      cases made
  | none =>
      rw [found] at made
      obtain rfl := Except.ok.inj made
      intro other
      by_cases same : other = place
      · subst same
        exact .inr ⟨found, find?_put_self ..⟩
      · exact .inl (find?_put_of_ne same _)

/-- Making directories changes nothing that stands, by induction on the bound of their number. -/
theorem grows_of_makeDirectoriesWithin {fuel : Nat}
    (made : makeDirectoriesWithin fuel disk path = .ok after)
    : Grows disk after := by
  induction fuel generalizing disk after path with
  | zero => cases made
  | succ fuel ih =>
      rw [makeDirectoriesWithin] at made
      split at made
      · cases made
        exact .refl disk
      · cases once : disk.makeDirectory path with
        | ok first =>
            rw [once] at made
            cases made
            exact grows_of_makeDirectory once
        | error fault =>
            simp only [once] at made
            split at made
            · split at made
              · cases made
              · obtain ⟨between, above, made⟩ := bind_eq_ok_iff.mp made
                have first := ih above
                cases twice : between.makeDirectory path with
                | ok last =>
                    rw [twice] at made
                    cases made
                    exact first.trans (grows_of_makeDirectory twice)
                | error other =>
                    simp only [twice] at made
                    split at made <;> cases made
                    exact first
            · split at made <;> cases made
              exact .refl disk

theorem grows_of_makeDirectories (made : disk.makeDirectories path = .ok after)
    : Grows disk after :=
  grows_of_makeDirectoriesWithin made

-----------------------------------------------------------------------------------------
-- Opened files
-----------------------------------------------------------------------------------------

/-- The octets of the file at a place, if there is one. -/
def contentAt (disk : Disk) (place : Place) : List UInt8 :=
  match disk.find? place with
  | some (.file content) => content
  | _ => []

/-- A place of files: no device stands there. -/
def IsOrdinary (disk : Disk) (place : Place) : Prop :=
  disk.find? place ≠ some .sink ∧ disk.find? place ≠ some .full

theorem Grows.contentAt (grows : Grows disk after) (place : Place)
    : after.contentAt place = disk.contentAt place := by
  rcases grows place with same | ⟨none, made⟩
  · simp only [Disk.contentAt, same]
  · simp only [Disk.contentAt, none, made]

theorem Grows.isOrdinary (grows : Grows disk after) (ordinary : disk.IsOrdinary place)
    : after.IsOrdinary place := by
  rcases grows place with same | ⟨none, made⟩
  · rwa [IsOrdinary, same]
  · simp [IsOrdinary, made]

/-- What is read along a path before its directories are made stands at the place that it leads to
then. -/
theorem contentAt_of_read {octets : List UInt8} (undirected : (names path).2 = false)
    (grows : Grows disk after) (reaches : after.target path = .ok place)
    (ordinary : disk.IsOrdinary place) (reads : disk.read path = .ok octets)
    : disk.contentAt place = octets := by
  obtain ⟨steps, name, ends, plain⟩ := exists_name_of_not_wantsDirectory undirected
  obtain ⟨⟨other, entry⟩, resolved, held⟩ := bind_eq_ok_iff.mp reads
  have stands : disk.look? path = some entry := by
    rw [look?, resolved]
    rfl
  obtain ⟨filled, -, elsewhere, walked, found⟩ := look?_eq_some_iff.mp stands
  rw [ends] at walked
  obtain ⟨parent, walked, directory, here, -⟩ :=
    (walk_concat_eq_ok_iff plain).mp (grows.walk walked)
  have reached := (target_eq_ok_iff ends plain).mpr ⟨filled, parent, walked, directory, here⟩
  obtain rfl := Except.ok.inj (reached.symm.trans reaches)
  cases entry with
  | file content =>
      cases held
      simp only [contentAt, found]
  | directory => cases held
  | sink => exact absurd found ordinary.1
  | full => exact absurd found ordinary.2

/-- A file that is opened stands where its path leads, with what it held or empty. -/
theorem openFile_spec {append : Bool} {handle : Handle}
    (opened : disk.openFile path append = .ok (handle, after))
    (ordinary : disk.IsOrdinary handle.place)
    : (names path).2 = false
      ∧ disk.target path = .ok handle.place
      ∧ disk.find? handle.place ≠ some .directory
      ∧ handle.append = append
      ∧ handle.position = 0
      ∧ after
        = disk.put handle.place (.file (if append then disk.contentAt handle.place else [])) := by
  obtain ⟨place, reaches, opened⟩ := bind_eq_ok_iff.mp opened
  cases undirected : (names path).2 with
  | true =>
      -- only a device is opened along such a path
      rcases found : disk.find? place with _ | (_ | content | _ | _)
      all_goals
        simp only [found, undirected, if_true] at opened
        cases opened
      · exact absurd found ordinary.1
      · exact absurd found ordinary.2
  | false =>
      rcases found : disk.find? place with _ | (_ | content | _ | _)
      all_goals
        simp only [found, undirected, Bool.false_eq_true, if_false] at opened
        cases opened
      · refine ⟨rfl, reaches, by simp [found], rfl, rfl, ?_⟩
        simp [contentAt, found]
      · refine ⟨rfl, reaches, by simp [found], rfl, rfl, ?_⟩
        simp [contentAt, found]
      · exact absurd found ordinary.1
      · exact absurd found ordinary.2

theorem overwrite_length (content data : List UInt8)
    : overwrite content content.length data = content ++ data := by
  simp [overwrite]

/-- What is written at the end of a file follows its content. -/
theorem writeThrough_atEnd {handle : Handle} {content : List UInt8}
    (stands : disk.find? handle.place = some (.file content))
    (atEnd : handle.append = false → handle.position = content.length) (data : List UInt8)
    : disk.writeThrough handle data
      = (.ok data.length, disk.put handle.place (.file (content ++ data)),
        { handle with position := content.length + data.length }) := by
  have position : (if handle.append then content.length else handle.position) = content.length := by
    cases appends : handle.append with
    | true => rfl
    | false => exact atEnd appends
  rw [writeThrough, stands]
  dsimp only
  rw [position, overwrite_length]

end Courier.Disk
