import Courier.Program
import Courier.Proofs.Settings.Validation

/-! Merging a command line into settings. Only the level of the log is overridden, and the checks
take one level for as good as another. So settings that hold still hold when they are merged, those
that do not are mended only where nothing but their level is wrong, and every other fault comes out
as it is.
-/

namespace Courier

open Courier.Config (Fault)

/-- A text that names a level of the log. -/
def Log.IsLevel (text : String) : Prop :=
  ∃ level, Log.Level.parse text = .ok level

-----------------------------------------------------------------------------------------
-- Settings with another level
-----------------------------------------------------------------------------------------

namespace Settings

open Courier.Log (IsLevel)

variable {settings : Settings} {level other : String}

/-- The settings with another level of the log, and with all else as it is. -/
def leveled (settings : Settings) (level : String) : Settings :=
  { settings with logger := { settings.logger with level } }

theorem leveled_leveled (settings : Settings) (level other : String)
    : (settings.leveled level).leveled other = settings.leveled other :=
  rfl

/-- Settings have the level that they have. -/
theorem leveled_self (settings : Settings) : settings.leveled settings.logger.level = settings :=
  rfl

/-- Whether a log has an output does not depend on its level. -/
theorem map_make (level other : Log.Level) (console : Option Log.Console)
    (file : Option Log.Target)
    : ((Log.Setup.make level console file).mapError (logFault "logger")).map (fun _ => ())
      = ((Log.Setup.make other console file).mapError (logFault "logger")).map fun _ => () := by
  unfold Log.Setup.make
  split <;> rfl

/-- The log of a section is checked alike with any two levels that there are. -/
theorem Logger.validate_level (logger : Logger) (known : IsLevel level) (knownOther : IsLevel other)
    : ({ logger with level } : Logger).validate
      = ({ logger with level := other } : Logger).validate := by
  obtain ⟨parsed, parses⟩ := known
  obtain ⟨parsedOther, parsesOther⟩ := knownOther
  simp only [validate, setup, parses, parsesOther]
  cases logger.file.target with
  | error fault => rfl
  | ok target => exact map_make ..

/-- Settings are checked alike with any two levels that there are: they hold with both, or have the
same fault with both. -/
theorem validate_leveled (settings : Settings) (known : IsLevel level) (knownOther : IsLevel other)
    : (settings.leveled level).validate = (settings.leveled other).validate := by
  simp only [validate, leveled, settings.logger.validate_level known knownOther]

/-- Settings that hold have a level that there is. -/
theorem isLevel_of_validate (valid : settings.validate = .ok ())
    : IsLevel settings.logger.level := by
  obtain ⟨setup, made, -⟩ := map_eq_ok_iff.mp (validate_eq_ok_iff.mp valid).1
  obtain ⟨level, parses, -⟩ := bind_eq_ok_iff.mp made
  exact ⟨level, mapError_eq_ok_iff.mp parses⟩

end Settings

-----------------------------------------------------------------------------------------
-- Merging
-----------------------------------------------------------------------------------------

namespace CommandLine

open Courier.Log (IsLevel)

variable {line : CommandLine} {base merged : Settings}

/-- The level that a command line makes of another one: `--verbose` goes before `--quiet`, and
without both the level stays. -/
def levelOver (line : CommandLine) (level : String) : String :=
  if line.verbose then "debug" else if line.quiet then "error" else level

theorem override_eq_leveled (line : CommandLine) (base : Settings)
    : line.override base = base.leveled (line.levelOver base.logger.level) := by
  rcases line with ⟨_, _, _, verbose, quiet, _⟩
  cases verbose <;> cases quiet <;> rfl

/-- A command line keeps the level, or has one that there is. -/
theorem levelOver_cases (line : CommandLine)
    : (¬ (line.verbose = true ∨ line.quiet = true) ∧ ∀ level, line.levelOver level = level)
      ∨ (line.verbose = true ∨ line.quiet = true)
        ∧ ∃ own, IsLevel own ∧ ∀ level, line.levelOver level = own := by
  have debug : IsLevel "debug" := ⟨.debug, rfl⟩
  have error : IsLevel "error" := ⟨.error, rfl⟩
  rcases line with ⟨_, _, _, verbose, quiet, _⟩
  cases verbose with
  | true => exact .inr ⟨.inl rfl, "debug", debug, fun _ => rfl⟩
  | false =>
      cases quiet with
      | true => exact .inr ⟨.inr rfl, "error", error, fun _ => rfl⟩
      | false => exact .inl ⟨by simp, fun _ => rfl⟩

theorem levelOver_levelOver (line : CommandLine) (level : String)
    : line.levelOver (line.levelOver level) = line.levelOver level := by
  obtain ⟨-, keeps⟩ | ⟨-, own, -, owns⟩ := line.levelOver_cases
  · rw [keeps, keeps]
  · rw [owns, owns]

theorem isLevel_levelOver (line : CommandLine) {level : String} (known : IsLevel level)
    : IsLevel (line.levelOver level) := by
  obtain ⟨-, keeps⟩ | ⟨-, own, ownKnown, owns⟩ := line.levelOver_cases
  · rwa [keeps]
  · rwa [owns]

/-- Merging checks the settings that are overridden. -/
theorem merge_eq (line : CommandLine) (base : Settings)
    : line.merge base
      = (base.leveled (line.levelOver base.logger.level)).validate.map fun _ =>
          base.leveled (line.levelOver base.logger.level) := by
  rw [merge, override_eq_leveled]
  cases (base.leveled (line.levelOver base.logger.level)).validate with
  | error fault => rfl
  | ok => rfl

theorem merge_eq_ok_iff
    : line.merge base = .ok merged
      ↔ merged = base.leveled (line.levelOver base.logger.level) ∧ merged.validate = .ok () := by
  rw [merge_eq, map_eq_ok_iff]
  constructor
  · rintro ⟨_, valid, rfl⟩
    exact ⟨rfl, valid⟩
  · rintro ⟨rfl, valid⟩
    exact ⟨(), valid, rfl⟩

theorem merge_eq_error_iff {fault : Fault}
    : line.merge base = .error fault
      ↔ (base.leveled (line.levelOver base.logger.level)).validate = .error fault := by
  rw [merge_eq]
  cases (base.leveled (line.levelOver base.logger.level)).validate with
  | error other =>
      constructor
      · exact fun same => congrArg _ (Except.error.inj same)
      · exact fun same => congrArg _ (Except.error.inj same)
  | ok => exact iff_of_false nofun nofun

/-- What a command line makes of settings, the base. The base itself stays what it is; what is made
of it has the level of the command line where there is one, and is the base in all else, so that
with the base's level it is the base again. It holds, and merging once more makes the same of it. -/
structure Merges (line : CommandLine) (base merged : Settings) : Prop where
  leveled : merged = base.leveled (line.levelOver base.logger.level)
  restored : merged.leveled base.logger.level = base
  valid : merged.validate = .ok ()
  again : line.merge merged = .ok merged

theorem merges_of_merge (returned : line.merge base = .ok merged) : line.Merges base merged := by
  obtain ⟨rfl, valid⟩ := merge_eq_ok_iff.mp returned
  refine ⟨rfl, base.leveled_leveled .., valid, merge_eq_ok_iff.mpr ⟨?_, valid⟩⟩
  rw [Settings.leveled_leveled]
  exact congrArg base.leveled (line.levelOver_levelOver _).symm

/-- Where the base has a level that there is, merging ends as the checks of the base do. -/
theorem validate_levelOver (line : CommandLine) (known : IsLevel base.logger.level)
    : (base.leveled (line.levelOver base.logger.level)).validate = base.validate :=
  base.validate_leveled (line.isLevel_levelOver known) known

/-- A base that does not hold is mended exactly where the command line has a level and the base
holds with a level that there is. -/
theorem merge_mends_iff (line : CommandLine) (rejected : base.validate ≠ .ok ()) {level : String}
    (known : IsLevel level)
    : (∃ merged, line.merge base = .ok merged)
      ↔ (line.verbose = true ∨ line.quiet = true) ∧ (base.leveled level).validate = .ok () := by
  have merges_iff : (∃ merged, line.merge base = .ok merged)
      ↔ (base.leveled (line.levelOver base.logger.level)).validate = .ok () := by
    simp only [merge_eq_ok_iff, exists_eq_left]
  rw [merges_iff]
  obtain ⟨unflagged, keeps⟩ | ⟨flagged, own, ownKnown, owns⟩ := line.levelOver_cases
  · rw [keeps, base.leveled_self]
    exact iff_of_false rejected fun both => unflagged both.1
  · rw [owns, base.validate_leveled ownKnown known]
    exact (and_iff_right flagged).symm

/-- Merging touches only the level of the log. Settings that hold are merged. Those that do not are
merged exactly where a flag is set and they hold with a level that there is, and otherwise the fault
is that of the overridden settings, which is their own if their level is one that there is. -/
theorem merge_levels (line : CommandLine) (base : Settings)
    : (∀ merged, line.merge base = .ok merged → line.Merges base merged)
      ∧ (base.validate = .ok () → ∃ merged, line.merge base = .ok merged)
      ∧ (base.validate ≠ .ok () → ∀ level, IsLevel level →
        ((∃ merged, line.merge base = .ok merged)
          ↔ (line.verbose = true ∨ line.quiet = true) ∧ (base.leveled level).validate = .ok ()))
      ∧ ∀ fault,
        (line.merge base = .error fault
          ↔ (base.leveled (line.levelOver base.logger.level)).validate = .error fault)
        ∧ (IsLevel base.logger.level
          → (line.merge base = .error fault ↔ base.validate = .error fault)) := by
  refine ⟨fun merged => merges_of_merge, fun valid => ?_, fun rejected level known => ?_,
    fun fault => ⟨merge_eq_error_iff, fun known => ?_⟩⟩
  · have known := Settings.isLevel_of_validate valid
    exact ⟨_, merge_eq_ok_iff.mpr ⟨rfl, (line.validate_levelOver known).trans valid⟩⟩
  · exact line.merge_mends_iff rejected known
  · rw [merge_eq_error_iff, line.validate_levelOver known]

/-- A flag mends a level that there is not, but no timeout. -/
theorem merge_levels_loud
    : let line : CommandLine := ⟨some (.sms none "hi"), none, none, true, true, false⟩
      let loud : Settings := { logger := { level := "loud" }, defaults := { recipient := "0810" } }
      let sound : Settings := loud.leveled "info"
      let idle : Settings := { sound with http := { timeoutSeconds := 0 } }
      IsLevel "info" ∧ sound.validate = .ok () ∧ loud.validate ≠ .ok ()
      ∧ (∃ merged, line.merge sound = .ok merged ∧ line.Merges sound merged)
      ∧ (∃ merged, line.merge loud = .ok merged ∧ line.Merges loud merged
        ∧ merged.logger.level = "debug")
      ∧ ∃ fault, idle.validate = .error fault ∧ line.merge idle = .error fault := by
  intro line loud sound idle
  have known : IsLevel "info" := ⟨.info, rfl⟩
  have valid : sound.validate = .ok () := by decide +kernel
  have rejected : loud.validate ≠ .ok () := by decide +kernel
  have idleRejected : idle.validate ≠ .ok () := by decide +kernel
  obtain ⟨merges, returns, -⟩ := merge_levels line sound
  obtain ⟨mergesLoud, -, mends, -⟩ := merge_levels line loud
  obtain ⟨-, -, -, faults⟩ := merge_levels line idle
  obtain ⟨merged, returned⟩ := returns valid
  obtain ⟨mended, returnedLoud⟩ := (mends rejected "info" known).mpr ⟨.inl rfl, valid⟩
  have made := mergesLoud mended returnedLoud
  refine ⟨known, valid, rejected, ⟨merged, returned, merges merged returned⟩, ?_, ?_⟩
  · exact ⟨mended, returnedLoud, made, by rw [made.leveled]; rfl⟩
  · cases checked : idle.validate with
    | error fault => exact ⟨fault, rfl, ((faults fault).2 known).mpr checked⟩
    | ok => exact absurd checked idleRejected

end CommandLine

end Courier
