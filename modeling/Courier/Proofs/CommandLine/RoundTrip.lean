import Courier.Proofs.CommandLine.Acceptance
import Courier.Proofs.CommandLine.Spelling

/-! The round trip of command lines. Whatever can be said on a command line is understood as it was
meant: in any order of the options, with each value in either of its places, and with the option for
a dry run before or after the command.
-/

namespace Courier

open Courier.CommandLine (Item Spelled)
open Courier.Config (Environment)

-----------------------------------------------------------------------------------------
-- The options of a command line
-----------------------------------------------------------------------------------------

namespace CommandLine.Item

/-- The item of an option whose value may be left out. -/
def ofText (name : String) (text : Option String) : List Item :=
  (text.map (value name)).toList

/-- The item of an option without a value. -/
def ofFlag (name : String) (given : Bool) : List Item :=
  if given then [flag name] else []

@[simp]
theorem mem_ofText {name : String} {text : Option String} {item : Item}
    : item ∈ ofText name text ↔ ∃ v ∈ text, value name v = item := by
  simp [ofText]

@[simp]
theorem mem_ofFlag {name : String} {given : Bool} {item : Item}
    : item ∈ ofFlag name given ↔ given = true ∧ flag name = item := by
  cases given <;> simp [ofFlag, eq_comm]

/-- The names of items. -/
def names (items : List Item) : List String := items.map (·.entry.1)

@[simp]
theorem entry_flag (name : String) : (flag name).entry = (name, "") := rfl

@[simp]
theorem entry_value (name text : String) : (value name text).entry = (name, text) := rfl

@[simp]
theorem entry_mem_ofText {name other text : String} {given : Option String}
    : (name, text) ∈ (ofText other given).map entry ↔ other = name ∧ given = some text := by
  cases given <;> simp [ofText, eq_comm]

@[simp]
theorem entry_mem_ofFlag {name other text : String} {given : Bool}
    : (name, text) ∈ (ofFlag other given).map entry
      ↔ given = true ∧ other = name ∧ "" = text := by
  cases given <;> simp [ofFlag, eq_comm]

@[simp]
theorem mem_names_ofText {name other : String} {text : Option String}
    : name ∈ names (ofText other text) ↔ other = name ∧ text.isSome = true := by
  cases text <;> simp [names, ofText, eq_comm]

@[simp]
theorem mem_names_ofFlag {name other : String} {given : Bool}
    : name ∈ names (ofFlag other given) ↔ other = name ∧ given = true := by
  cases given <;> simp [names, ofFlag, eq_comm]

@[simp]
theorem names_append (items others : List Item)
    : names (items ++ others) = names items ++ names others :=
  List.map_append

theorem names_ofText (name : String) (text : Option String)
    : (names (ofText name text)).Sublist [name] := by
  cases text with
  | none => exact List.nil_sublist _
  | some v => exact List.Sublist.refl _

theorem names_ofFlag (name : String) (given : Bool)
    : (names (ofFlag name given)).Sublist [name] := by
  cases given with
  | false => exact List.nil_sublist _
  | true => exact List.Sublist.refl _

end CommandLine.Item

open CommandLine.Item (ofText ofFlag names)

/-- The word for a route on the command line. -/
def SmartHive.Route.word : SmartHive.Route → String
  | transactional => "trx"
  | marketing => "mkt"

theorem SmartHive.Route.route?_word (route : SmartHive.Route)
    : CommandLine.route? route.word = some route := by
  cases route <;> rfl

theorem Config.Environment.ofName?_name (environment : Environment)
    : ofName? environment.name = some environment := by
  cases environment <;> rfl

namespace Command

def name : Command → String
  | sms .. => "sms"
  | otp .. => "otp"
  | verifyOtp .. => "verify-otp"
  | smarthive .. => "smarthive"
  | all .. => "all"

/-- The options that say a command. -/
def items : Command → List Item
  | sms recipient message => ofText "to" recipient ++ ofText "message" (some message)
  | otp recipient template => ofText "to" recipient ++ ofText "template" template
  | verifyOtp pinId pin => ofText "pin-id" (some pinId) ++ ofText "pin" (some pin)
  | smarthive recipient message flash route =>
    ofText "to" recipient ++ ofText "message" (some message) ++ ofFlag "flash" flash
      ++ ofText "route" (route.map SmartHive.Route.word)
  | all recipient => ofText "to" recipient

end Command

namespace CommandLine

/-- The options of the program that say a command line, without the one for a dry run. -/
def items (line : CommandLine) : List Item :=
  ofText "config" line.config ++ ofText "env" (line.env.map Environment.name)
    ++ ofFlag "verbose" line.verbose ++ ofFlag "quiet" line.quiet

/-- The arguments that say a command line: the name of the program, its options, and the command
with its options. The option for a dry run stands on either side of the command. -/
inductive Written (line : CommandLine) : List String → Prop
  | alone {program : String} {items : List Item} {args : List String} (bare : line.command = none)
    (order : items.Perm (line.items ++ ofFlag "dry-run" line.dryRun)) (spelled : Spelled items args)
    : line.Written (program :: args)
  | before {program : String} {command : Command} {items own : List Item}
    {args ownArgs : List String} (named : line.command = some command)
    (order : items.Perm (line.items ++ ofFlag "dry-run" line.dryRun)) (spelled : Spelled items args)
    (ownOrder : own.Perm command.items) (ownSpelled : Spelled own ownArgs)
    : line.Written (program :: args ++ command.name :: ownArgs)
  | after {program : String} {command : Command} {items own : List Item}
    {args ownArgs : List String} (named : line.command = some command)
    (order : items.Perm line.items) (spelled : Spelled items args)
    (ownOrder : own.Perm (command.items ++ ofFlag "dry-run" line.dryRun))
    (ownSpelled : Spelled own ownArgs)
    : line.Written (program :: args ++ command.name :: ownArgs)

-----------------------------------------------------------------------------------------
-- Levels and what they take
-----------------------------------------------------------------------------------------

theorem programLevel_regular (disk : Disk) : (programLevel disk).Regular where
  distinct := by
    change ["config", "env", "verbose", "quiet", "dry-run", "help", "version"].Nodup
    decide
  named := by simp [programLevel, dryRunOption, helpOption]
  unequalled := by simp [programLevel, dryRunOption, helpOption]
  unhyphened := by
    change ∀ name ∈ commandNames, _
    decide

theorem commandLevel_regular (name : String) : Level.Regular ⟨commandOptions name, []⟩ := by
  constructor
  all_goals simp only [commandOptions]
  · split_ifs <;> simp [toOption, messageOption, dryRunOption, helpOption]
  · split_ifs <;> simp [toOption, messageOption, dryRunOption, helpOption]
  · split_ifs <;> simp [toOption, messageOption, dryRunOption, helpOption]
  · simp

section Takes

variable {level : Level} (regular : level.Regular) {name : String} {letter : Option Char}

include regular

/-- An option that takes no value is taken by its name. -/
theorem takes_of_flag (among : ⟨name, letter, .flag⟩ ∈ level.options) : level.Takes (.flag name) :=
  ⟨_, Level.option?_of_mem regular among, rfl⟩

/-- A text that its check gives back is taken. -/
theorem takes_of_checked {check : String → Except String String} {text : String}
    (among : ⟨name, letter, checked check⟩ ∈ level.options) (passes : check text = .ok text)
    : level.Takes (.value name text) :=
  ⟨_, _, Level.option?_of_mem regular among, rfl, mapError_eq_ok_iff.mpr passes⟩

/-- A name that can be chosen is taken. -/
theorem takes_of_oneOf {α : Type} {choose : String → Option α} {text : String} {a : α}
    (among : ⟨name, letter, oneOf choose⟩ ∈ level.options) (chosen : choose text = some a)
    : level.Takes (.value name text) :=
  ⟨_, _, Level.option?_of_mem regular among, rfl, by simp [chosen]⟩

theorem takes_ofFlag (among : ⟨name, letter, .flag⟩ ∈ level.options) (given : Bool)
    : ∀ item ∈ ofFlag name given, level.Takes item := by
  intro item is
  obtain ⟨-, rfl⟩ := Item.mem_ofFlag.mp is
  exact takes_of_flag regular among

/-- Texts are taken that their check gives back. -/
theorem takes_ofText {check : String → Except String String} {text : Option String}
    (among : ⟨name, letter, checked check⟩ ∈ level.options) (passes : ∀ v ∈ text, check v = .ok v)
    : ∀ item ∈ ofText name text, level.Takes item := by
  intro item is
  obtain ⟨v, given, rfl⟩ := Item.mem_ofText.mp is
  exact takes_of_checked regular among (passes v given)

/-- Names of what can be chosen are taken. -/
theorem takes_ofChoice {α : Type} {choose : String → Option α} {word : α → String} {a : Option α}
    (among : ⟨name, letter, oneOf choose⟩ ∈ level.options)
    (chosen : ∀ a, choose (word a) = some a)
    : ∀ item ∈ ofText name (a.map word), level.Takes item := by
  intro item is
  obtain ⟨v, given, rfl⟩ := Item.mem_ofText.mp is
  obtain ⟨a, -, rfl⟩ := Option.map_eq_some_iff.mp given
  exact takes_of_oneOf regular among (chosen a)

end Takes

/-- The options of the program that say an accepted command line are taken. -/
theorem Accepted.takes {disk : Disk} {line : CommandLine} (accepted : line.Accepted disk)
    (dry : Bool)
    : ∀ item ∈ line.items ++ ofFlag "dry-run" dry, (programLevel disk).Takes item := by
  have regular := programLevel_regular disk
  simp only [items, List.forall_mem_append]
  refine ⟨⟨⟨⟨?_, ?_⟩, ?_⟩, ?_⟩, ?_⟩
  · exact takes_ofText regular (.head _) accepted.config
  · exact takes_ofChoice regular (.tail _ (.head _)) Environment.ofName?_name
  · exact takes_ofFlag regular (.tail _ (.tail _ (.head _))) line.verbose
  · exact takes_ofFlag regular (.tail _ (.tail _ (.tail _ (.head _)))) line.quiet
  · exact takes_ofFlag regular (.tail _ (.tail _ (.tail _ (.tail _ (.head _))))) dry

end CommandLine

namespace Command

open CommandLine

/-- The level at which the options of a command are read. -/
def level (command : Command) : Level := ⟨commandOptions command.name, []⟩

theorem takes_dryRun (command : Command) (dry : Bool)
    : ∀ item ∈ ofFlag "dry-run" dry, command.level.Takes item :=
  takes_ofFlag (commandLevel_regular _) (List.mem_append_right _ (.head _)) dry

/-- The options that say an accepted command are taken after its name. -/
theorem Accepted.takes {command : Command} (accepted : command.Accepted) (dry : Bool)
    : ∀ item ∈ command.items ++ ofFlag "dry-run" dry, command.level.Takes item := by
  have regular : command.level.Regular := commandLevel_regular _
  have one {text : String} {check : String → Except String String} (passes : check text = .ok text)
      : ∀ v ∈ some text, check v = .ok v := by
    rintro v is
    cases is
    exact passes
  refine List.forall_mem_append.mpr ⟨?_, command.takes_dryRun dry⟩
  cases command with
  | sms recipient message =>
      refine List.forall_mem_append.mpr ⟨?_, ?_⟩
      · exact takes_ofText regular (.head _) accepted.1
      · exact takes_ofText regular (.tail _ (.head _)) (one accepted.2)
  | otp recipient template =>
      refine List.forall_mem_append.mpr ⟨?_, ?_⟩
      · exact takes_ofText regular (.head _) accepted.1
      · exact takes_ofText regular (.tail _ (.head _)) accepted.2
  | verifyOtp pinId pin =>
      refine List.forall_mem_append.mpr ⟨?_, ?_⟩
      · exact takes_ofText regular (.head _) (one accepted.1)
      · exact takes_ofText regular (.tail _ (.head _)) (one accepted.2)
  | smarthive recipient message flash route =>
      simp only [items, List.forall_mem_append]
      refine ⟨⟨⟨?_, ?_⟩, ?_⟩, ?_⟩
      · exact takes_ofText regular (.head _) accepted.1
      · exact takes_ofText regular (.tail _ (.head _)) (one accepted.2)
      · exact takes_ofFlag regular (.tail _ (.tail _ (.head _))) flash
      · exact takes_ofChoice regular (.tail _ (.tail _ (.tail _ (.head _))))
          SmartHive.Route.route?_word
  | all recipient => exact takes_ofText regular (.head _) accepted

end Command

-----------------------------------------------------------------------------------------
-- What is read back
-----------------------------------------------------------------------------------------

namespace CommandLine

theorem distinct_items (line : CommandLine) (dry : Bool)
    : (names (line.items ++ ofFlag "dry-run" dry)).Nodup := by
  simp only [items, Item.names_append]
  have among :=
    ((((Item.names_ofText "config" line.config).append
      (Item.names_ofText "env" (line.env.map Environment.name))).append
        (Item.names_ofFlag "verbose" line.verbose)).append
          (Item.names_ofFlag "quiet" line.quiet)).append (Item.names_ofFlag "dry-run" dry)
  exact among.nodup (by decide)

section Found

variable {items whole : List Item} (order : items.Perm whole) {name : String}

include order

theorem distinct_of_perm (distinct : (names whole).Nodup)
    : ((items.map Item.entry).map Prod.fst).Nodup := by
  rw [List.map_map]
  exact (order.map _).nodup_iff.mpr distinct

/-- What is found under a name, whatever the order of the items. -/
theorem find?_of_perm (distinct : (names whole).Nodup) {text : Option String}
    (is : ∀ v, (name, v) ∈ whole.map Item.entry ↔ text = some v)
    : Reading.find? ⟨items.map Item.entry, none⟩ name = text := by
  ext v
  exact (Reading.find?_eq_some_iff (distinct_of_perm order distinct)).trans
    (((order.map Item.entry).mem_iff).trans (is v))

/-- What is given under a name, whatever the order of the items. -/
theorem has_of_perm {given : Bool} (is : name ∈ names whole ↔ given = true)
    : Reading.has ⟨items.map Item.entry, none⟩ name = given := by
  rw [Bool.eq_iff_iff, ← is, ← Bool.not_eq_false, Reading.has_eq_false_iff, not_not, List.map_map]
  exact (order.map _).mem_iff

end Found

theorem ofReading_items {line : CommandLine} {items : List Item} {dry : Bool}
    (order : items.Perm (line.items ++ ofFlag "dry-run" dry)) (command : Option Command)
    (dryRun : Bool)
    : ofReading ⟨items.map Item.entry, none⟩ command dryRun
      = { line with command, dryRun := dry || dryRun } := by
  have distinct := line.distinct_items dry
  have config : Reading.find? ⟨items.map Item.entry, none⟩ "config" = line.config :=
    find?_of_perm order distinct (by simp [CommandLine.items])
  have env : Reading.find? ⟨items.map Item.entry, none⟩ "env" = line.env.map Environment.name :=
    find?_of_perm order distinct (by simp [CommandLine.items])
  have verbose : Reading.has ⟨items.map Item.entry, none⟩ "verbose" = line.verbose :=
    has_of_perm order (by simp [CommandLine.items])
  have quiet : Reading.has ⟨items.map Item.entry, none⟩ "quiet" = line.quiet :=
    has_of_perm order (by simp [CommandLine.items])
  have isDry : Reading.has ⟨items.map Item.entry, none⟩ "dry-run" = dry :=
    has_of_perm order (by simp [CommandLine.items])
  have known : (line.env.map Environment.name).bind Environment.ofName? = line.env := by
    cases line.env with
    | none => rfl
    | some environment => exact environment.ofName?_name
  rw [ofReading, config, env, known, verbose, quiet, isDry]

/-- The options of the program are read to what is to be said, whatever follows them. -/
theorem Accepted.read {disk : Disk} {line : CommandLine} (accepted : line.Accepted disk)
    {dry : Bool} {items : List Item} {args : List String}
    (order : items.Perm (line.items ++ ofFlag "dry-run" dry)) (spelled : Spelled items args)
    : ∃ reading : Reading,
      reading.Worth (items.map Item.entry)
        ∧ ∀ rest, (programLevel disk).read {} (args ++ rest) = (programLevel disk).read reading rest
    := by
  have takes : ∀ item ∈ items, (programLevel disk).Takes item :=
    fun item among => accepted.takes dry item (order.mem_iff.mp among)
  have distinct := distinct_of_perm order (line.distinct_items dry)
  exact Level.read_spelled (programLevel_regular disk) spelled takes Reading.worth_start distinct

end CommandLine

namespace Command

open CommandLine

theorem distinct_items (command : Command) (dry : Bool)
    : (names (command.items ++ ofFlag "dry-run" dry)).Nodup := by
  have last := Item.names_ofFlag "dry-run" dry
  cases command with
  | sms recipient message =>
      simp only [items, Item.names_append]
      have among := (Item.names_ofText "to" recipient).append
        (Item.names_ofText "message" (some message))
      exact (among.append last).nodup (by decide)
  | otp recipient template =>
      simp only [items, Item.names_append]
      have among := (Item.names_ofText "to" recipient).append
        (Item.names_ofText "template" template)
      exact (among.append last).nodup (by decide)
  | verifyOtp pinId pin =>
      simp only [items, Item.names_append]
      have among := (Item.names_ofText "pin-id" (some pinId)).append
        (Item.names_ofText "pin" (some pin))
      exact (among.append last).nodup (by decide)
  | smarthive recipient message flash route =>
      simp only [items, Item.names_append]
      have among :=
        (((Item.names_ofText "to" recipient).append
          (Item.names_ofText "message" (some message))).append
            (Item.names_ofFlag "flash" flash)).append
              (Item.names_ofText "route" (route.map SmartHive.Route.word))
      exact (among.append last).nodup (by decide)
  | all recipient =>
      simp only [items, Item.names_append]
      exact ((Item.names_ofText "to" recipient).append last).nodup (by decide)

section ReadBack

variable {command : Command} {items : List Item} {dry : Bool}
  (order : items.Perm (command.items ++ ofFlag "dry-run" dry))

include order

theorem has_dryRun : Reading.has ⟨items.map Item.entry, none⟩ "dry-run" = dry := by
  apply has_of_perm order
  cases command <;> simp [Command.items]

/-- The options of a command are made into the command. -/
theorem commandOf_items : commandOf command.name ⟨items.map Item.entry, none⟩ = .ok command := by
  have distinct := command.distinct_items dry
  cases command with
  | sms recipient message =>
      have number : Reading.find? ⟨items.map Item.entry, none⟩ "to" = recipient :=
        find?_of_perm order distinct (by simp [Command.items])
      have text : Reading.find? ⟨items.map Item.entry, none⟩ "message" = some message :=
        find?_of_perm order distinct (by simp [Command.items])
      simp only [commandOf, number, text]
      rfl
  | otp recipient template =>
      have number : Reading.find? ⟨items.map Item.entry, none⟩ "to" = recipient :=
        find?_of_perm order distinct (by simp [Command.items])
      have text : Reading.find? ⟨items.map Item.entry, none⟩ "template" = template :=
        find?_of_perm order distinct (by simp [Command.items])
      simp only [commandOf, number, text]
      rfl
  | verifyOtp pinId pin =>
      have named : Reading.find? ⟨items.map Item.entry, none⟩ "pin-id" = some pinId :=
        find?_of_perm order distinct (by simp [Command.items])
      have given : Reading.find? ⟨items.map Item.entry, none⟩ "pin" = some pin :=
        find?_of_perm order distinct (by simp [Command.items])
      simp only [commandOf, named, given]
      rfl
  | smarthive recipient message flash route =>
      have number : Reading.find? ⟨items.map Item.entry, none⟩ "to" = recipient :=
        find?_of_perm order distinct (by simp [Command.items])
      have text : Reading.find? ⟨items.map Item.entry, none⟩ "message" = some message :=
        find?_of_perm order distinct (by simp [Command.items])
      have flashing : Reading.has ⟨items.map Item.entry, none⟩ "flash" = flash :=
        has_of_perm order (by simp [Command.items])
      have word : Reading.find? ⟨items.map Item.entry, none⟩ "route"
          = route.map SmartHive.Route.word :=
        find?_of_perm order distinct (by simp [Command.items])
      have known : (route.map SmartHive.Route.word).bind route? = route := by
        cases route with
        | none => rfl
        | some route => exact route.route?_word
      simp only [commandOf, number, text, flashing, word, known]
      rfl
  | all recipient =>
      have number : Reading.find? ⟨items.map Item.entry, none⟩ "to" = recipient :=
        find?_of_perm order distinct (by simp [Command.items])
      simp only [commandOf, number]
      rfl

end ReadBack

/-- A command is read from the arguments that say it, and whether it is a dry run. -/
theorem Accepted.read {command : Command} (accepted : command.Accepted) {dry : Bool}
    {items : List Item} {args : List String}
    (order : items.Perm (command.items ++ ofFlag "dry-run" dry)) (spelled : Spelled items args)
    : readCommand command.name args = .ok (command, dry) := by
  have takes : ∀ item ∈ items, command.level.Takes item :=
    fun item among => accepted.takes dry item (order.mem_iff.mp among)
  have distinct := distinct_of_perm order (command.distinct_items dry)
  obtain ⟨reading, worth, reads⟩ :=
    Level.read_spelled (commandLevel_regular command.name) spelled takes Reading.worth_start
      distinct
  have whole := reads []
  rw [List.append_nil] at whole
  refine bind_eq_ok_iff.mpr ⟨(reading, none), whole, ?_⟩
  refine bind_eq_ok_iff.mpr ⟨_, worth, bind_eq_ok_iff.mpr ⟨_, commandOf_items order, ?_⟩⟩
  exact congrArg (fun dryRun => Except.ok (command, dryRun)) (has_dryRun order)

end Command

namespace CommandLine

/-- The name of a command ends the options of the program. -/
theorem read_name (disk : Disk) (command : Command) {reading : Reading}
    (settled : reading.isWaiting = false) (args : List String)
    : (programLevel disk).read reading (command.name :: args)
      = .ok (reading, some (command.name, args)) := by
  have named : (programLevel disk).commands.contains command.name = true := by
    cases command <;> rfl
  have noHelp : (command.name == "help") = false := by
    cases command <;> rfl
  rw [Level.read.eq_def]
  simp only [settled, named, noHelp]
  rfl

/-- The options of the program and what continues them make a command line. -/
theorem readArguments_of_continues {disk : Disk} {line : CommandLine} {items : List Item}
    {args rest : List String} {after : Option (String × List String)} {dry dryRun : Bool}
    (accepted : line.Accepted disk) (order : items.Perm (line.items ++ ofFlag "dry-run" dry))
    (spelled : Spelled items args)
    (ends : ∀ reading : Reading,
      reading.isWaiting = false → (programLevel disk).read reading rest = .ok (reading, after))
    (continues : Continues after line.command dryRun) (either : (dry || dryRun) = line.dryRun)
    : readArguments disk (args ++ rest) = .ok line := by
  obtain ⟨reading, worth, reads⟩ := accepted.read order spelled
  have whole : (programLevel disk).read {} (args ++ rest) = .ok (reading, after) :=
    (reads rest).trans (ends reading worth.not_waiting)
  have made := ofReading_items order line.command dryRun
  rw [either] at made
  have verbose := congrArg CommandLine.verbose made
  have quiet := congrArg CommandLine.quiet made
  refine readArguments_eq_ok_iff.mpr
    ⟨reading, after, _, line.command, dryRun, whole, continues, worth, ?_, made⟩
  rintro ⟨isVerbose, isQuiet⟩
  exact accepted.oneVoice ⟨verbose.symm.trans isVerbose, quiet.symm.trans isQuiet⟩

/-- A command line is understood from the arguments that say it. -/
theorem parse_written {disk : Disk} {line : CommandLine} {args : List String}
    (accepted : line.Accepted disk) (written : line.Written args)
    : parse disk args = .ok line := by
  cases written with
  | @alone program items args bare order spelled =>
      have continues : Continues none line.command false := by
        rw [bare]
        exact .alone
      have read : readArguments disk (args ++ []) = .ok line :=
        readArguments_of_continues accepted order spelled (fun _ _ => rfl) continues
          (Bool.or_false _)
      rwa [List.append_nil] at read
  | @before program command items own args ownArgs named order spelled ownOrder ownSpelled =>
      have plain : own.Perm (command.items ++ ofFlag "dry-run" false) := by
        rwa [ofFlag, if_neg Bool.false_ne_true, List.append_nil]
      have continues : Continues (some (command.name, ownArgs)) line.command false := by
        rw [named]
        exact .command ((accepted.command command named).read plain ownSpelled)
      exact readArguments_of_continues accepted order spelled
        (fun _ settled => read_name disk command settled ownArgs) continues (Bool.or_false _)
  | @after program command items own args ownArgs named order spelled ownOrder ownSpelled =>
      have plain : items.Perm (line.items ++ ofFlag "dry-run" false) := by
        rwa [ofFlag, if_neg Bool.false_ne_true, List.append_nil]
      have continues : Continues (some (command.name, ownArgs)) line.command line.dryRun := by
        rw [named]
        exact .command ((accepted.command command named).read ownOrder ownSpelled)
      exact readArguments_of_continues accepted plain spelled
        (fun _ settled => read_name disk command settled ownArgs) continues (Bool.false_or _)

/-- A command line whose texts their checks give back is understood from all arguments that say it,
and every command line that is understood has such texts. -/
theorem parse_round_trips (disk : Disk)
    : (∀ line : CommandLine, line.Accepted disk →
        ∀ args, line.Written args → parse disk args = .ok line)
      ∧ ∀ args line, parse disk args = .ok line → line.Accepted disk :=
  ⟨fun _ accepted _ written => parse_written accepted written,
    fun _ _ parsed => accepted_of_parse parsed⟩

/-- A line with a file whose name has an equals sign, and a text that is a hyphen. -/
def hyphenated : CommandLine where
  command := some (.smarthive (some "+1 (202) 555-0100") "-" true (some .marketing))
  config := some "a=b.toml"
  env := some .staging
  verbose := true
  quiet := false
  dryRun := true

/-- The line is understood with its options in another order, values in either place and the option
for a dry run behind the command. -/
theorem parse_round_trips_hyphenated
    : let disk := Disk.start.put ["work", "a=b.toml"] (.file [])
      hyphenated.Accepted disk
        ∧ parse disk
            ["courier", "--verbose", "--env", "staging", "--config=a=b.toml", "smarthive",
              "--dry-run", "--route=mkt", "--message", "-", "--to=+1 (202) 555-0100", "--flash"]
          = .ok hyphenated := by
  intro disk
  have accepted : hyphenated.Accepted disk := by
    refine ⟨?_, by decide, ?_⟩
    · rintro path is
      cases is
      decide +kernel
    · rintro command is
      cases is
      refine ⟨?_, by decide⟩
      rintro number is
      cases is
      decide
  have order : List.Perm
      [.flag "verbose", .value "env" "staging", .value "config" "a=b.toml"] hyphenated.items := by
    decide
  have ownOrder : List.Perm
      [.flag "dry-run", .value "route" "mkt", .value "message" "-",
        .value "to" "+1 (202) 555-0100", .flag "flash"]
      ((Command.smarthive (some "+1 (202) 555-0100") "-" true (some .marketing)).items
        ++ ofFlag "dry-run" true) := by
    decide
  have spelled : Spelled [.flag "verbose", .value "env" "staging", .value "config" "a=b.toml"]
      ["--verbose", "--env", "staging", "--config=a=b.toml"] :=
    .cons .flag (.cons (.apart (by decide)) (.cons .attached .nil))
  have ownSpelled : Spelled
      [.flag "dry-run", .value "route" "mkt", .value "message" "-",
        .value "to" "+1 (202) 555-0100", .flag "flash"]
      ["--dry-run", "--route=mkt", "--message", "-", "--to=+1 (202) 555-0100", "--flash"] :=
    .cons .flag (.cons .attached (.cons (.apart (by decide)) (.cons .attached (.cons .flag .nil))))
  exact ⟨accepted, (parse_round_trips disk).1 hyphenated accepted _
    (.after rfl order spelled ownOrder ownSpelled)⟩

end CommandLine

end Courier
