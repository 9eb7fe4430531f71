import Courier.CommandLine.Basic
import Courier.Proofs.CommandLine.Numbers
import Mathlib.Data.List.DropRight

/-! What a command line holds. Whatever arguments are read, each text that comes out was given back
by the check of its option, and the check gives it back once more.
-/

namespace Courier

open Courier.Config (Environment)
open Courier.Text

-----------------------------------------------------------------------------------------
-- Checks of values that were checked
-----------------------------------------------------------------------------------------

namespace Text

/-- A text that begins with no blank still begins with none when its end is cut. -/
theorem dropWhile_of_prefix {cs start : List Char} (front : start <+: cs.dropWhile isBlank)
    : start.dropWhile isBlank = start := by
  cases start with
  | nil => rfl
  | cons c rest =>
      obtain ⟨after, whole⟩ := front
      have again := List.dropWhile_idempotent isBlank cs
      cases blank : isBlank c with
      | false => simp [blank]
      | true =>
          rw [← whole, List.cons_append, List.dropWhile_cons_of_pos blank] at again
          have shorter := (List.dropWhile_sublist isBlank (l := rest ++ after)).length_le
          rw [again, List.length_cons] at shorter
          omega

/-- A trimmed text has no blanks at its ends. -/
theorem trimChars_trimChars (cs : List Char) : trimChars (trimChars cs) = trimChars cs := by
  have cut : trimChars cs <+: cs.dropWhile isBlank := by
    rw [trimChars, ← List.reverse_suffix, List.reverse_reverse]
    exact List.dropWhile_suffix _
  rw [trimChars, dropWhile_of_prefix cut, trimChars, List.reverse_reverse,
    List.dropWhile_idempotent]

end Text

namespace CommandLine.Argument

variable {raw text : String}

theorem phone_again (passes : phone raw = .ok text) : phone text = .ok text := by
  obtain ⟨trimmed, kept⟩ := phone_eq_ok_iff.mp passes
  refine phone_eq_ok_iff.mpr ⟨?_, kept⟩
  rw [trimmed, trimChars_trimChars]

theorem message_eq_ok_iff : message raw = .ok text ↔ isBlankText text = false ∧ raw = text := by
  rw [message]
  split
  · rename_i blank
    refine iff_of_false nofun ?_
    rintro ⟨filled, rfl⟩
    exact Bool.false_ne_true (filled.symm.trans blank)
  · rename_i filled
    rw [Except.ok.injEq]
    refine ⟨?_, And.right⟩
    rintro rfl
    exact ⟨by simpa using filled, rfl⟩

theorem message_again (passes : message raw = .ok text) : message text = .ok text :=
  message_eq_ok_iff.mpr ⟨(message_eq_ok_iff.mp passes).1, rfl⟩

theorem pin_eq_ok_iff
    : pin raw = .ok text
      ↔ text.toList = trimChars raw.toList ∧ text ≠ "" ∧ ∀ c ∈ text.toList, isBlank c = false := by
  have spelled : text.toList = trimChars raw.toList
      ↔ String.ofList (trimChars raw.toList) = text :=
    ⟨fun same => by rw [← same, String.ofList_toList],
      fun same => by rw [← same, String.toList_ofList]⟩
  rw [pin, spelled]
  split
  · rename_i empty
    refine iff_of_false nofun ?_
    rintro ⟨rfl, filled, -⟩
    exact filled (by rw [List.isEmpty_iff.mp empty])
  · rename_i filled
    split
    · rename_i blank
      refine iff_of_false nofun ?_
      rintro ⟨rfl, -, none⟩
      obtain ⟨c, among, is⟩ := List.any_eq_true.mp blank
      rw [String.toList_ofList] at none
      exact Bool.false_ne_true ((none c among).symm.trans is)
    · rename_i none
      rw [Except.ok.injEq]
      refine ⟨?_, And.left⟩
      rintro rfl
      refine ⟨rfl, fun is => filled ?_, fun c among => ?_⟩
      · rw [String.ofList_eq_empty_iff.mp is]
        rfl
      · rw [String.toList_ofList] at among
        exact Bool.eq_false_iff.mpr fun blank => none (List.any_eq_true.mpr ⟨c, among, blank⟩)

theorem pin_again (passes : pin raw = .ok text) : pin text = .ok text := by
  obtain ⟨trimmed, kept⟩ := pin_eq_ok_iff.mp passes
  refine pin_eq_ok_iff.mpr ⟨?_, kept⟩
  rw [trimmed, trimChars_trimChars]

theorem configFile_again {disk : Disk} (passes : configFile disk raw = .ok text)
    : configFile disk text = .ok text := by
  have same : raw = text := by
    simp only [configFile] at passes
    split at passes
    · cases passes
    · split at passes
      · cases passes
      · split at passes
        · exact Except.ok.inj passes
        · cases passes
  rwa [same] at passes

end CommandLine.Argument

-----------------------------------------------------------------------------------------
-- Readings of a level
-----------------------------------------------------------------------------------------

namespace CommandLine

/-- Each entry of a reading is an option of the level with what its check gave back, and an option
that is pending is one of the level. -/
structure Level.Checked (level : Level) (reading : Reading) : Prop where
  given : ∀ name text, (name, text) ∈ reading.given →
    ∃ option ∈ level.options,
      option.name = name
        ∧ ∀ check, option.role = .value check → ∃ raw, check raw = .ok text
  pending : ∀ option value, reading.pending = some (option, value) → option ∈ level.options

namespace Level.Checked

variable {level : Level} {reading next : Reading} {option : OptionSpec}

theorem start : level.Checked {} where
  given := nofun
  pending := nofun

/-- An option that is given has what its check gave back. -/
theorem give (checked : level.Checked reading) (among : option ∈ level.options) {value : String}
    (gives : reading.give option value = .ok next)
    : level.Checked next := by
  have onto {text : String}
      (passes : ∀ check, option.role = .value check → ∃ raw, check raw = .ok text)
      : level.Checked { reading with given := reading.given ++ [(option.name, text)] } := by
    refine ⟨fun name other listed => ?_, checked.pending⟩
    rcases List.mem_append.mp listed with earlier | last
    · exact checked.given name other earlier
    · cases List.mem_singleton.mp last
      exact ⟨option, among, rfl, passes⟩
  rw [Reading.give] at gives
  split at gives
  · cases gives
  · split at gives
    · rename_i role
      cases gives
      exact onto fun check valued => nomatch role.symm.trans valued
    · cases gives
    · cases gives
    · rename_i check role
      obtain ⟨text, passes, rfl⟩ := map_eq_ok_iff.mp gives
      refine onto fun other valued => ⟨value, ?_⟩
      cases role.symm.trans valued
      exact passes

theorem settle (checked : level.Checked reading) (settles : reading.settle = .ok next)
    : level.Checked next := by
  rw [Reading.settle] at settles
  split at settles
  · cases settles
    exact checked
  · cases settles
  · rename_i option value pending
    have cleared : level.Checked { reading with pending := none } := ⟨checked.given, nofun⟩
    exact cleared.give (checked.pending option _ pending) settles

theorem take (checked : level.Checked reading) (among : option ∈ level.options) {value : String}
    (takes : reading.take option value = .ok next)
    : level.Checked next := by
  obtain ⟨settled, settles, gives⟩ := bind_eq_ok_iff.mp takes
  exact (checked.settle settles).give among gives

theorem await (checked : level.Checked reading) (among : option ∈ level.options)
    (awaits : reading.await option = .ok next)
    : level.Checked next := by
  obtain ⟨settled, settles, ends⟩ := bind_eq_ok_iff.mp awaits
  cases ends
  refine ⟨(checked.settle settles).given, fun other value pending => ?_⟩
  cases pending
  exact among

/-- The value that came for a pending option leaves it pending. -/
theorem fill (checked : level.Checked reading) {value : Option String}
    (pending : reading.pending = some (option, value)) (text : String)
    : level.Checked { reading with pending := some (option, some text) } := by
  refine ⟨checked.given, fun other value is => ?_⟩
  cases is
  exact checked.pending option value pending

theorem readLong (checked : level.Checked reading) {body : List Char}
    (reads : level.readLong reading body = .ok next)
    : level.Checked next := by
  simp only [Level.readLong] at reads
  split at reads
  · cases reads
  · rename_i option found
    have among := List.mem_of_find?_eq_some found
    split at reads
    · exact checked.await among reads
    · exact checked.take among reads
    · exact checked.take among reads
    · cases reads

/-- Letters are read one after another, by induction on them. -/
theorem readLetters (checked : level.Checked reading) {letters : List Char}
    (reads : level.readLetters reading letters = .ok next)
    : level.Checked next := by
  induction letters generalizing reading with
  | nil =>
      cases reads
      exact checked
  | cons c cs ih =>
      rw [Level.readLetters] at reads
      split at reads
      · cases reads
      · rename_i option found
        have among := List.mem_of_find?_eq_some found
        split at reads
        · exact checked.await among reads
        · exact checked.take among reads
        · exact checked.take among reads
        · obtain ⟨middle, takes, later⟩ := bind_eq_ok_iff.mp reads
          exact ih (checked.take among takes) later

/-- Arguments are read one after another, by induction on them. -/
theorem read (checked : level.Checked reading) {args : List String}
    {rest : Option (String × List String)} (reads : level.read reading args = .ok (next, rest))
    : level.Checked next := by
  induction args generalizing reading with
  | nil =>
      cases reads
      exact checked
  | cons arg args ih =>
      rw [Level.read.eq_def] at reads
      dsimp only at reads
      split at reads
      · split at reads
        · cases reads
        · cases reads
          exact checked
      · split at reads
        · split at reads
          · cases reads
            exact checked
          · cases reads
        · obtain ⟨middle, long, later⟩ := bind_eq_ok_iff.mp reads
          exact ih (checked.readLong long) later
        · obtain ⟨middle, letters, later⟩ := bind_eq_ok_iff.mp reads
          exact ih (checked.readLetters letters) later
        · split at reads
          · rename_i option pending
            exact ih (checked.fill pending arg) reads
          · cases reads

/-- What is found under a name was given back by the check of the option of that name. -/
theorem find? (checked : level.Checked reading) {name text : String}
    (found : reading.find? name = some text) {check : String → Except String String}
    (only : ∀ option ∈ level.options, option.name = name → option.role = CommandLine.checked check)
    : ∃ raw, check raw = .ok text := by
  obtain ⟨entry, isEntry, rfl⟩ := Option.map_eq_some_iff.mp found
  have same : entry.1 = name := by simpa using List.find?_some isEntry
  obtain ⟨option, among, named, passes⟩ :=
    checked.given entry.1 entry.2 (List.mem_of_find?_eq_some isEntry)
  obtain ⟨raw, accepts⟩ := passes _ (only option among (named.trans same))
  exact ⟨raw, mapError_eq_ok_iff.mp accepts⟩

end Level.Checked

end CommandLine

-----------------------------------------------------------------------------------------
-- Command lines
-----------------------------------------------------------------------------------------

open CommandLine in
/-- Each text of a command is one that the check of its option gives back. -/
def Command.Accepted : Command → Prop
  | .sms recipient message =>
    (∀ number ∈ recipient, Argument.phone number = .ok number)
    ∧ Argument.message message = .ok message
  | .otp recipient template =>
    (∀ number ∈ recipient, Argument.phone number = .ok number)
    ∧ ∀ text ∈ template, Argument.message text = .ok text
  | .verifyOtp pinId pin => Argument.pin pinId = .ok pinId ∧ Argument.pin pin = .ok pin
  | .smarthive recipient message _ _ =>
    (∀ number ∈ recipient, Argument.phone number = .ok number)
    ∧ Argument.message message = .ok message
  | .all recipient => ∀ number ∈ recipient, Argument.phone number = .ok number

namespace CommandLine

/-- Each text of a command line is one that the check of its option gives back, and the program is
not told both to say more and to say less. -/
structure Accepted (disk : Disk) (line : CommandLine) : Prop where
  config : ∀ path ∈ line.config, Argument.configFile disk path = .ok path
  oneVoice : ¬ (line.verbose = true ∧ line.quiet = true)
  command : ∀ command ∈ line.command, command.Accepted

/-- The check of an option with a text goes by its name. -/
theorem role_of_commandOptions {name : String} {option : OptionSpec}
    (among : option ∈ commandOptions name)
    : (option.name = "to" → option.role = checked Argument.phone)
      ∧ (option.name = "message" → option.role = checked Argument.message)
      ∧ (option.name = "template" → option.role = checked Argument.message)
      ∧ (option.name = "pin-id" → option.role = checked Argument.pin)
      ∧ (option.name = "pin" → option.role = checked Argument.pin) := by
  simp only [commandOptions] at among
  split_ifs at among
  all_goals
    simp only [List.cons_append, List.nil_append, List.mem_cons, List.not_mem_nil, or_false]
      at among
    rcases among with rfl | rfl | rfl | rfl | rfl | rfl
  all_goals simp [toOption, messageOption, dryRunOption, helpOption]

section Commands

variable {name text : String} {reading : Reading}
  (read : Level.Checked ⟨commandOptions name, []⟩ reading)

include read

theorem phone_of_checked (found : reading.find? "to" = some text)
    : Argument.phone text = .ok text := by
  obtain ⟨raw, passes⟩ := read.find? found fun _ among => (role_of_commandOptions among).1
  exact Argument.phone_again passes

theorem message_of_checked (found : reading.find? "message" = some text)
    : Argument.message text = .ok text := by
  obtain ⟨raw, passes⟩ := read.find? found fun _ among => (role_of_commandOptions among).2.1
  exact Argument.message_again passes

theorem template_of_checked (found : reading.find? "template" = some text)
    : Argument.message text = .ok text := by
  obtain ⟨raw, passes⟩ := read.find? found fun _ among => (role_of_commandOptions among).2.2.1
  exact Argument.message_again passes

theorem pinId_of_checked (found : reading.find? "pin-id" = some text)
    : Argument.pin text = .ok text := by
  obtain ⟨raw, passes⟩ := read.find? found fun _ among => (role_of_commandOptions among).2.2.2.1
  exact Argument.pin_again passes

theorem pin_of_checked (found : reading.find? "pin" = some text)
    : Argument.pin text = .ok text := by
  obtain ⟨raw, passes⟩ := read.find? found fun _ among => (role_of_commandOptions among).2.2.2.2
  exact Argument.pin_again passes

/-- The command that is made of a reading has texts that their checks give back. -/
theorem accepted_of_commandOf {command : Command} (made : commandOf name reading = .ok command)
    : command.Accepted := by
  have numbers : ∀ number ∈ reading.find? "to", Argument.phone number = .ok number :=
    fun _ found => phone_of_checked read found
  simp only [commandOf] at made
  split at made
  · obtain ⟨message, found, ends⟩ := bind_eq_ok_iff.mp made
    cases ends
    split at found
    · cases found
      exact ⟨numbers, message_of_checked read ‹_›⟩
    · cases found
  · split at made
    · cases made
      exact ⟨numbers, fun _ found => template_of_checked read found⟩
    · split at made
      · obtain ⟨pinId, foundId, later⟩ := bind_eq_ok_iff.mp made
        obtain ⟨pin, foundPin, ends⟩ := bind_eq_ok_iff.mp later
        cases ends
        split at foundId
        · split at foundPin
          · cases foundId
            cases foundPin
            exact ⟨pinId_of_checked read ‹_›, pin_of_checked read ‹_›⟩
          · cases foundPin
        · cases foundId
      · split at made
        · obtain ⟨message, found, ends⟩ := bind_eq_ok_iff.mp made
          cases ends
          split at found
          · cases found
            exact ⟨numbers, message_of_checked read ‹_›⟩
          · cases found
        · cases made
          exact numbers

end Commands

theorem accepted_of_readCommand {name : String} {args : List String} {command : Command}
    {dryRun : Bool} (reads : readCommand name args = .ok (command, dryRun))
    : command.Accepted := by
  obtain ⟨⟨reading, rest⟩, levels, later⟩ := bind_eq_ok_iff.mp reads
  obtain ⟨settled, settles, later⟩ := bind_eq_ok_iff.mp later
  obtain ⟨made, makes, ends⟩ := bind_eq_ok_iff.mp later
  cases ends
  exact accepted_of_commandOf ((Level.Checked.start.read levels).settle settles) makes

/-- What follows the options of the program: nothing, or a command with its arguments. -/
inductive Continues : Option (String × List String) → Option Command → Bool → Prop
  | alone : Continues none none false
  | command {name : String} {args : List String} {command : Command} {dryRun : Bool}
    (reads : readCommand name args = .ok (command, dryRun))
    : Continues (some (name, args)) (some command) dryRun

/-- The command line of what was read for the program and of the command. -/
def ofReading (reading : Reading) (command : Option Command) (dryRun : Bool) : CommandLine where
  command
  config := reading.find? "config"
  env := (reading.find? "env").bind Environment.ofName?
  verbose := reading.has "verbose"
  quiet := reading.has "quiet"
  dryRun := reading.has "dry-run" || dryRun

theorem readArguments_eq_ok_iff {disk : Disk} {args : List String} {line : CommandLine}
    : readArguments disk args = .ok line
      ↔ ∃ reading rest settled command dryRun,
        (programLevel disk).read {} args = .ok (reading, rest)
        ∧ Continues rest command dryRun
        ∧ reading.settle = .ok settled
        ∧ ¬ (settled.has "verbose" = true ∧ settled.has "quiet" = true)
        ∧ ofReading settled command dryRun = line := by
  have last (reading : Reading) (command : Option Command) (dryRun : Bool)
      : (reading.settle >>= fun settled =>
          if settled.has "verbose" && settled.has "quiet" then Except.error UsageFault.conflict
          else pure (ofReading settled command dryRun))
          = .ok line
        ↔ ∃ settled,
          reading.settle = .ok settled
          ∧ ¬ (settled.has "verbose" = true ∧ settled.has "quiet" = true)
          ∧ ofReading settled command dryRun = line := by
    rw [bind_eq_ok_iff]
    refine exists_congr fun settled => and_congr_right fun _ => ?_
    split
    · rename_i both
      exact iff_of_false nofun fun ends => ends.1 (by simpa using both)
    · rename_i apart
      constructor
      · intro is
        cases is
        exact ⟨by simpa using apart, rfl⟩
      · rintro ⟨-, rfl⟩
        rfl
  rw [readArguments, bind_eq_ok_iff]
  constructor
  · rintro ⟨⟨reading, _ | ⟨name, own⟩⟩, levels, later⟩
    · obtain ⟨settled, ends⟩ := (last reading none false).mp later
      exact ⟨reading, none, settled, none, false, levels, .alone, ends⟩
    · obtain ⟨_, continued, later⟩ := bind_eq_ok_iff.mp later
      obtain ⟨⟨command, dryRun⟩, reads, rfl⟩ := map_eq_ok_iff.mp continued
      obtain ⟨settled, ends⟩ := (last reading (some command) dryRun).mp later
      exact ⟨reading, some (name, own), settled, some command, dryRun, levels, .command reads, ends⟩
  · rintro ⟨reading, rest, settled, command, dryRun, levels, continues, ends⟩
    refine ⟨(reading, rest), levels, ?_⟩
    cases continues with
    | alone => exact (last reading none false).mpr ⟨settled, ends⟩
    | @command _ _ command _ reads =>
        dsimp only
        rw [reads]
        exact (last reading (some command) dryRun).mpr ⟨settled, ends⟩

/-- Whatever arguments are understood, each text is one that the check of its option gives back, and
the program is not told both to say more and to say less. -/
theorem accepted_of_parse {disk : Disk} {args : List String} {line : CommandLine}
    (parsed : parse disk args = .ok line)
    : line.Accepted disk := by
  obtain ⟨reading, rest, settled, command, dryRun, levels, continues, settles, oneVoice, rfl⟩ :=
    readArguments_eq_ok_iff.mp parsed
  have checked := (Level.Checked.start.read levels).settle settles
  refine ⟨fun path found => ?_, oneVoice, fun made is => ?_⟩
  · have only : ∀ option ∈ (programLevel disk).options,
        option.name = "config" → option.role = CommandLine.checked (Argument.configFile disk) := by
      simp [programLevel, dryRunOption, helpOption]
    obtain ⟨raw, passes⟩ := checked.find? found only
    exact Argument.configFile_again passes
  · cases continues with
    | alone => cases is
    | command reads =>
        cases is
        exact accepted_of_readCommand reads

end CommandLine

end Courier
