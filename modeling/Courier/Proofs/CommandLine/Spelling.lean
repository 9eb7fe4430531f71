import Courier.CommandLine.Usage
import Courier.Proofs.Checks
import Mathlib.Data.List.Nodup
import Mathlib.Data.List.TakeDrop
import Mathlib.Data.List.TakeWhile

/-! The spelling of options. A value stands behind an equals sign or in an argument of its own, and
options are read one after another. However they are spelled, what has been read is one entry for
each of them.
-/

namespace Courier.CommandLine

-----------------------------------------------------------------------------------------
-- Spelled options
-----------------------------------------------------------------------------------------

/-- An option that is given, with its value if it takes one. -/
inductive Item
  | flag (name : String)
  | value (name text : String)
  deriving DecidableEq, Repr

namespace Item

/-- What is noted of an item that was read. -/
def entry : Item → String × String
  | flag name => (name, "")
  | value name text => (name, text)

/-- The arguments that spell an item. A value that could be taken for an option cannot stand in an
argument of its own. -/
inductive Spells : Item → List String → Prop
  | flag {name : String} : Spells (flag name) ["--" ++ name]
  | attached {name text : String} : Spells (value name text) ["--" ++ name ++ "=" ++ text]
  | apart {name text : String} (plain : text = "-" ∨ text.toList.head? ≠ some '-')
    : Spells (value name text) ["--" ++ name, text]

end Item

/-- The arguments that spell items one after another. -/
inductive Spelled : List Item → List String → Prop
  | nil : Spelled [] []
  | cons {item : Item} {items : List Item} {args later : List String} (first : item.Spells args)
    (rest : Spelled items later)
    : Spelled (item :: items) (args ++ later)

-----------------------------------------------------------------------------------------
-- Readings
-----------------------------------------------------------------------------------------

namespace Reading

/-- A reading is worth some entries when these are what it has given once its pending value has been
looked at. -/
def Worth (reading : Reading) (given : List (String × String)) : Prop :=
  reading.settle = .ok ⟨given, none⟩

variable {reading : Reading} {given : List (String × String)}

theorem worth_start : Worth {} [] := rfl

theorem Worth.not_waiting (worth : reading.Worth given) : reading.isWaiting = false := by
  obtain ⟨entries, pending⟩ := reading
  rcases pending with _ | ⟨option, _ | value⟩
  · rfl
  · cases worth
  · rfl

/-- A name among the entries is found with its value when no name is there twice. -/
theorem find?_eq_some_iff (distinct : (given.map Prod.fst).Nodup) {name value : String}
    : Reading.find? ⟨given, none⟩ name = some value ↔ (name, value) ∈ given := by
  simp only [find?, Option.map_eq_some_iff]
  constructor
  · rintro ⟨⟨key, text⟩, found, rfl⟩
    have same : key = name := by simpa using List.find?_some found
    rw [← same]
    exact List.mem_of_find?_eq_some found
  · intro among
    cases found : given.find? (·.1 == name) with
    | none => simpa using List.find?_eq_none.mp found _ among
    | some entry =>
        have same : entry.1 = name := by simpa using List.find?_some found
        have is := List.inj_on_of_nodup_map distinct (List.mem_of_find?_eq_some found) among same
        exact ⟨entry, rfl, congrArg Prod.snd is⟩

end Reading

namespace Level

variable {level : Level} {reading : Reading} {given : List (String × String)}

/-- The options of a level have names of their own without an equals sign, and no command begins
with a hyphen. -/
structure Regular (level : Level) : Prop where
  distinct : (level.options.map OptionSpec.name).Nodup
  named : ∀ option ∈ level.options, option.name ≠ ""
  unequalled : ∀ option ∈ level.options, '=' ∉ option.name.toList
  unhyphened : ∀ name ∈ level.commands, name.toList.head? ≠ some '-'

/-- The option that a name stands for. -/
def option? (level : Level) (name : String) : Option OptionSpec :=
  level.options.find? (·.name.toList == name.toList)

/-- An item is taken when its name stands for an option of its kind, the check of which gives the
value back as it is. -/
def Takes (level : Level) : Item → Prop
  | .flag name => ∃ option, level.option? name = some option ∧ option.role = .flag
  | .value name text =>
    ∃ option check,
      level.option? name = some option ∧ option.role = .value check ∧ check text = .ok text

theorem option?_name {name : String} {option : OptionSpec}
    (found : level.option? name = some option)
    : option ∈ level.options ∧ option.name = name := by
  rw [option?] at found
  have same : option.name.toList = name.toList := by simpa using List.find?_some found
  exact ⟨List.mem_of_find?_eq_some found, String.toList_inj.mp same⟩

/-- An option is the one that its name stands for. -/
theorem option?_of_mem (regular : level.Regular) {option : OptionSpec}
    (among : option ∈ level.options)
    : level.option? option.name = some option := by
  cases found : level.option? option.name with
  | none => simpa using List.find?_eq_none.mp found option among
  | some other =>
      obtain ⟨otherAmong, same⟩ := option?_name found
      rw [List.inj_on_of_nodup_map regular.distinct otherAmong among same]

/-- An argument with two hyphens and something behind them is read as an option. -/
theorem read_hyphens (regular : level.Regular) (settled : reading.isWaiting = false)
    {body : String} (filled : body ≠ "") (args : List String)
    : level.read reading (("--" ++ body) :: args)
      = (level.readLong reading body.toList >>= fun next => level.read next args) := by
  have spelled : ("--" ++ body).toList = '-' :: '-' :: body.toList := by
    rw [String.toList_append]
    rfl
  have noCommand : level.commands.contains ("--" ++ body) = false := by
    rw [List.contains_eq_mem, decide_eq_false_iff_not]
    intro among
    apply regular.unhyphened _ among
    rw [spelled]
    rfl
  obtain ⟨c, cs, more⟩ := List.exists_cons_of_ne_nil (mt String.toList_eq_nil_iff.mp filled)
  rw [read.eq_def]
  simp only [settled, noCommand, spelled, more]
  rfl

/-- An argument that is not an option goes to the option that waits for its value. -/
theorem read_apart {option : OptionSpec} {text : String}
    (plain : text = "-" ∨ text.toList.head? ≠ some '-') (args : List String)
    : level.read ⟨given, some (option, none)⟩ (text :: args)
      = level.read ⟨given, some (option, some text)⟩ args := by
  rw [read.eq_def]
  simp only [Reading.isWaiting, Bool.not_true, Bool.false_and]
  rcases plain with rfl | plain
  · rfl
  · rcases spelled : text.toList with _ | ⟨c, cs⟩
    · rfl
    · have other : c ≠ '-' := by
        rintro rfl
        exact plain (by rw [spelled]; rfl)
      simp [other]

theorem span_name {name : List Char} (unequalled : '=' ∉ name) (value : List Char)
    : name.span (· != '=') = (name, [])
      ∧ (name ++ '=' :: value).span (· != '=') = (name, '=' :: value) := by
  have all : ∀ c ∈ name, (c != '=') = true := by
    intro c among
    simpa using fun is : c = '=' => unequalled (is ▸ among)
  constructor
  · rw [List.span_eq_takeWhile_dropWhile, List.takeWhile_eq_self_iff.mpr all,
      List.dropWhile_eq_nil_iff.mpr all]
  · rw [List.span_eq_takeWhile_dropWhile, List.takeWhile_append_of_pos all,
      List.dropWhile_append_of_pos all]
    simp

section Long

variable {option : OptionSpec} (regular : level.Regular)
  (found : level.option? option.name = some option)

include regular found

/-- An option that takes no value is given by its name. -/
theorem readLong_flag (flag : option.role = .flag)
    : level.readLong reading option.name.toList = reading.take option "" := by
  have unequalled := regular.unequalled option (option?_name found).1
  rw [option?] at found
  simp only [readLong, (span_name unequalled []).1, found, flag]

/-- An option that takes a value waits for it when its name stands alone. -/
theorem readLong_value {check : String → Except UsageFault String}
    (valued : option.role = .value check)
    : level.readLong reading option.name.toList = reading.await option := by
  have unequalled := regular.unequalled option (option?_name found).1
  rw [option?] at found
  simp only [readLong, (span_name unequalled []).1, found, valued]

/-- The value of an option may stand behind an equals sign. -/
theorem readLong_attached {check : String → Except UsageFault String}
    (valued : option.role = .value check) (text : String)
    : level.readLong reading (option.name ++ "=" ++ text).toList = reading.take option text := by
  have unequalled := regular.unequalled option (option?_name found).1
  have spelled : (option.name ++ "=" ++ text).toList
      = option.name.toList ++ '=' :: text.toList := by
    simp
  rw [option?] at found
  simp only [readLong, spelled, (span_name unequalled text.toList).2, found, valued,
    String.ofList_toList]

end Long

end Level

namespace Reading

variable {reading : Reading} {given : List (String × String)} {option : OptionSpec}

theorem has_eq_false_iff {name : String}
    : Reading.has ⟨given, none⟩ name = false ↔ name ∉ given.map Prod.fst := by
  simp only [has, find?, Option.isSome_map, Option.isSome_eq_false_iff, Option.isNone_iff_eq_none,
    List.find?_eq_none, beq_iff_eq, List.mem_map, not_exists, not_and]

/-- An option that takes no value is given once. -/
theorem give_flag (flag : option.role = .flag) (fresh : option.name ∉ given.map Prod.fst)
    : Reading.give ⟨given, none⟩ option "" = .ok ⟨given ++ [(option.name, "")], none⟩ := by
  simp [give, has_eq_false_iff.mpr fresh, flag]

/-- An option is given what its check makes of a value, once. -/
theorem give_value {check : String → Except UsageFault String} {value text : String}
    (valued : option.role = .value check) (passes : check value = .ok text)
    (fresh : option.name ∉ given.map Prod.fst)
    : Reading.give ⟨given, none⟩ option value
      = .ok ⟨given ++ [(option.name, text)], none⟩ := by
  simp [give, has_eq_false_iff.mpr fresh, valued, passes, Except.map]

theorem Worth.take_eq (worth : reading.Worth given) (value : String)
    : reading.take option value = Reading.give ⟨given, none⟩ option value := by
  rw [take, worth]
  rfl

theorem Worth.await_eq (worth : reading.Worth given)
    : reading.await option = .ok ⟨given, some (option, none)⟩ := by
  rw [await, worth]
  rfl

end Reading

namespace Level

variable {level : Level} {reading : Reading} {given : List (String × String)}

/-- An item that is spelled adds its entry. -/
theorem read_item (regular : level.Regular) {item : Item} {args : List String}
    (spells : item.Spells args) (takes : level.Takes item) (worth : reading.Worth given)
    (fresh : item.entry.1 ∉ given.map Prod.fst)
    : ∃ next : Reading,
      next.Worth (given ++ [item.entry])
        ∧ ∀ rest, level.read reading (args ++ rest) = level.read next rest := by
  have settled := worth.not_waiting
  cases spells with
  | @flag name =>
      obtain ⟨option, found, flag⟩ := takes
      obtain ⟨among, rfl⟩ := option?_name found
      refine ⟨⟨given ++ [(option.name, "")], none⟩, rfl, fun rest => ?_⟩
      rw [List.singleton_append, read_hyphens regular settled (regular.named option among),
        readLong_flag regular found flag, worth.take_eq, Reading.give_flag flag fresh]
      rfl
  | @attached name text =>
      obtain ⟨option, check, found, valued, passes⟩ := takes
      obtain ⟨-, rfl⟩ := option?_name found
      refine ⟨⟨given ++ [(option.name, text)], none⟩, rfl, fun rest => ?_⟩
      have filled : option.name ++ "=" ++ text ≠ "" := by
        intro empty
        simpa using congrArg String.toList empty
      have spelled : "--" ++ option.name ++ "=" ++ text = "--" ++ (option.name ++ "=" ++ text) := by
        simp [String.append_assoc]
      rw [List.singleton_append, spelled, read_hyphens regular settled filled,
        readLong_attached regular found valued, worth.take_eq,
        Reading.give_value valued passes fresh]
      rfl
  | @apart name text plain =>
      obtain ⟨option, check, found, valued, passes⟩ := takes
      obtain ⟨among, rfl⟩ := option?_name found
      refine ⟨⟨given, some (option, some text)⟩, Reading.give_value valued passes fresh,
        fun rest => ?_⟩
      rw [List.cons_append, read_hyphens regular settled (regular.named option among),
        readLong_value regular found valued, worth.await_eq]
      exact read_apart plain rest

/-- Items that are spelled one after another add their entries, by induction on them. -/
theorem read_spelled (regular : level.Regular) {items : List Item} {args : List String}
    (spelled : Spelled items args) (takes : ∀ item ∈ items, level.Takes item)
    (worth : reading.Worth given)
    (distinct : ((given ++ items.map Item.entry).map Prod.fst).Nodup)
    : ∃ next : Reading,
      next.Worth (given ++ items.map Item.entry)
        ∧ ∀ rest, level.read reading (args ++ rest) = level.read next rest := by
  induction spelled generalizing reading given with
  | nil => exact ⟨reading, by simpa using worth, fun _ => rfl⟩
  | @cons item items args later first _ ih =>
      have split : given ++ (item :: items).map Item.entry
          = given ++ [item.entry] ++ items.map Item.entry := by
        simp
      rw [split] at distinct ⊢
      have front : ((given ++ [item.entry]).map Prod.fst).Nodup := by
        rw [List.map_append] at distinct
        exact (List.nodup_append.mp distinct).1
      have fresh : item.entry.1 ∉ given.map Prod.fst := by
        rw [List.map_append] at front
        have apart := (List.nodup_append.mp front).2.2
        exact fun among => apart _ among _ (List.mem_singleton_self _) rfl
      obtain ⟨middle, middleWorth, skips⟩ :=
        read_item regular first (takes item List.mem_cons_self) worth fresh
      obtain ⟨next, nextWorth, skipsAll⟩ :=
        ih (fun other among => takes other (List.mem_cons_of_mem _ among)) middleWorth distinct
      refine ⟨next, nextWorth, fun rest => ?_⟩
      rw [List.append_assoc, skips, skipsAll]

end Level

end Courier.CommandLine
