import Courier.Proofs.Config.Integers
import Courier.Proofs.Config.Precedence
import Courier.Proofs.Dispatch.Checks
import Courier.Proofs.Settings.Places

/-! The whole numbers of the settings. Wherever a source writes one, loaded settings have the number
that was written, and a number outside the range of its setting is never loaded.
-/

namespace Courier

open Courier.Config (Node)

-----------------------------------------------------------------------------------------
-- Number settings
-----------------------------------------------------------------------------------------

/-- A setting that is a whole number: its place, its value, and the least and the greatest number
that it may be. -/
structure NumberSetting where
  place : Place
  value : Settings → Nat
  least : Nat
  greatest : Nat

namespace Settings

/-- The settings that are whole numbers. -/
def numbers : List NumberSetting :=
  [⟨[("http", 2), ("timeout_seconds", 0)], (·.http.timeoutSeconds.toNat), 1, UInt64.size - 1⟩,
    ⟨[("http", 2), ("connect_timeout_seconds", 1)], (·.http.connectTimeoutSeconds.toNat), 1,
      UInt64.size - 1⟩,
    ⟨[("termii", 4), ("otp", 5), ("pin_attempts", 2)], (·.termii.otp.pinAttempts.toNat), 1,
      UInt32.size - 1⟩,
    ⟨[("termii", 4), ("otp", 5), ("pin_time_to_live", 3)], (·.termii.otp.pinTimeToLive.toNat), 0,
      60⟩,
    ⟨[("termii", 4), ("otp", 5), ("pin_length", 4)], (·.termii.otp.pinLength.toNat), 4, 8⟩,
    ⟨[("smarthive", 5), ("message_type", 3)], (·.smarthive.messageType.code), 0, 1⟩]

/-- Each of the numbers is that of a leaf. -/
theorem exists_leaf_of_number
    : ∀ number ∈ numbers, ∃ leaf ∈ leaves, leaf.path = number.place.names := by
  intro number among
  simp only [numbers, List.mem_cons, List.not_mem_nil, or_false] at among
  rcases among with rfl | rfl | rfl | rfl | rfl | rfl <;>
    simp [leaves, Leaf.of, Place.names]

end Settings

/-- What stands at the place of a number has that number's value, once it is taken. -/
def NumberSetting.Taken (number : NumberSetting) : Prop :=
  ∀ (node found : Node) (settings : Settings),
    node.at? number.place = some found
    → Settings.codec.convert node = some settings
    → found.natural? = some (number.value settings)

/-- A form that takes natural numbers as they are takes the value of a number. -/
theorem NumberSetting.Taken.of_takes {α : Type} {place : Place} {form : Codec α}
    {get : Settings → α} {code : α → Nat} (takes : Settings.codec.Takes place form get)
    (natural : form.TakesNatural code) (least greatest : Nat)
    : NumberSetting.Taken ⟨place, code ∘ get, least, greatest⟩ := by
  intro node found settings stands converted
  exact natural found (get settings) (takes node found settings stands converted)

namespace Settings

open Codec (takes_whole word32_takesNatural word64_takesNatural)

theorem numbers_taken : ∀ number ∈ numbers, number.Taken := by
  have policy {get : Otp.Policy → UInt32} {name : String} (position : Nat)
      (takes : Otp.Policy.codec.Takes [(name, position)] Codec.word32 get)
      : codec.Takes [("termii", 4), ("otp", 5), (name, position)] Codec.word32
          (get ∘ Termii.Account.otp ∘ Settings.termii) :=
    layout.takes 4 rfl (Termii.Account.layout.takes 5 rfl takes)
  have attempts := policy 2 (Otp.Policy.layout.takes 2 rfl (takes_whole Codec.word32))
  have life := policy 3 (Otp.Policy.layout.takes 3 rfl (takes_whole Codec.word32))
  have length := policy 4 (Otp.Policy.layout.takes 4 rfl (takes_whole Codec.word32))
  have timeout := layout.takes 2 rfl (Http.layout.takes 0 rfl (takes_whole Codec.word64))
  have connect := layout.takes 2 rfl (Http.layout.takes 1 rfl (takes_whole Codec.word64))
  have kind := layout.takes 5 rfl
    (SmartHive.Account.layout.takes 3 rfl (takes_whole SmartHive.MessageType.codec))
  simp only [numbers, List.forall_mem_cons]
  exact ⟨.of_takes timeout word64_takesNatural _ _,
    .of_takes connect word64_takesNatural _ _,
    .of_takes attempts word32_takesNatural _ _,
    .of_takes life word32_takesNatural _ _,
    .of_takes length word32_takesNatural _ _,
    .of_takes kind SmartHive.MessageType.codec_takesNatural _ _, nofun⟩

/-- Valid settings have every number in its range. -/
theorem numbers_within {settings : Settings} (valid : settings.validate = .ok ())
    : ∀ number ∈ numbers,
        number.least ≤ number.value settings ∧ number.value settings ≤ number.greatest := by
  obtain ⟨-, http, -, termii, -⟩ := validate_eq_ok_iff.mp valid
  obtain ⟨timeout, connect⟩ := Http.timeouts_pos_of_validate http
  have sound : settings.termii.otp.Sound :=
    (Termii.Account.validateSettings_eq_ok_iff.mp termii).2
  have word64 (w : UInt64) : w.toNat ≤ UInt64.size - 1 := Nat.le_sub_one_of_lt w.toNat_lt_size
  have attempts : settings.termii.otp.pinAttempts.toNat ≤ UInt32.size - 1 :=
    Nat.le_sub_one_of_lt (UInt32.toNat_lt_size _)
  have kind : settings.smarthive.messageType.code ≤ 1 := by
    cases settings.smarthive.messageType <;> decide
  simp only [numbers, List.forall_mem_cons]
  exact ⟨⟨timeout, word64 _⟩, ⟨connect, word64 _⟩, ⟨sound.attempts, attempts⟩,
    ⟨Nat.zero_le _, sound.timeToLive⟩, sound.length, ⟨Nat.zero_le _, kind⟩, nofun⟩

end Settings

-----------------------------------------------------------------------------------------
-- The entries of a loader
-----------------------------------------------------------------------------------------

namespace Config.Loader

/-- The entries of all sources, those that win last: the keys of the files, and then variables. -/
def entries (loader : Loader) (vars : Variables) (disk : Disk) : Except Fault Document := do
  checkRequired disk loader.sources
  let files ← loader.sources.mapM (readSource disk)
  let own ← readVariables vars
  return files.flatten ++ own

/-- Sources are put over a tree one by one, or their entries all at once, by induction on them. -/
theorem mergeSources_eq (disk : Disk) (sources : List Source) (tree : Node)
    : mergeSources disk sources tree
      = (sources.mapM (readSource disk)).map fun files => Node.mergeSource files.flatten tree := by
  induction sources generalizing tree with
  | nil => rfl
  | cons source sources ih =>
      rw [mergeSources, List.mapM_cons]
      cases readSource disk source with
      | error fault => rfl
      | ok document =>
          simp only [bind, Except.bind, ih]
          cases sources.mapM (readSource disk) with
          | error fault => rfl
          | ok files => exact congrArg Except.ok List.foldl_append.symm

/-- The tree of all sources is that of their entries. -/
theorem tree_eq (loader : Loader) (vars : Variables) (disk : Disk)
    : loader.tree vars disk = (loader.entries vars disk).map (Node.mergeSource · (.table [])) := by
  rw [tree, entries, mergeSources_eq]
  cases checkRequired disk loader.sources with
  | error fault => rfl
  | ok done =>
      cases loader.sources.mapM (readSource disk) with
      | error fault => rfl
      | ok files =>
          cases readVariables vars with
          | error fault => rfl
          | ok own => exact congrArg Except.ok List.foldl_append.symm

variable {loader : Loader} {vars : Variables} {disk : Disk} {whole node : Node}

/-- What the last entries give to a setting stands at its place, whatever those before them say. -/
theorem at?_of_entries (made : loader.tree vars disk = .ok whole) {earlier later : Document}
    (read : loader.entries vars disk = .ok (earlier ++ later)) {place : Place}
    (fit : later.fits place.names = true) (given : later.given? place.names = some node)
    : whole.at? place = some node := by
  rw [tree_eq, read] at made
  obtain rfl := Except.ok.inj made
  refine Node.at?_of_stands? ?_
  simp only [Node.mergeSource, List.foldl_append]
  exact Node.stands?_mergeSource_of_given fit given _

/-- The entries of variables are the last ones. -/
theorem entries_of_tree (made : loader.tree vars disk = .ok whole)
    : ∃ earlier own, loader.entries vars disk = .ok (earlier ++ own)
      ∧ readVariables vars = .ok own := by
  rw [tree_eq] at made
  obtain ⟨all, read, -⟩ := map_eq_ok_iff.mp made
  obtain ⟨-, listed⟩ := then_eq_ok_iff.mp read
  obtain ⟨files, -, listed⟩ := bind_eq_ok_iff.mp listed
  obtain ⟨own, written, listed⟩ := bind_eq_ok_iff.mp listed
  obtain rfl := Except.ok.inj listed
  exact ⟨files.flatten, own, read, written⟩

-----------------------------------------------------------------------------------------
-- Loaded numbers
-----------------------------------------------------------------------------------------

/-- A loader loads a number as it is or nothing at all, and nothing when the number is out of the
range of its setting. -/
structure Keeps (loader : Loader) (vars : Variables) (disk : Disk) (number : NumberSetting)
    (n : Int)
    : Prop where
  value : ∀ settings : Settings, loader.load vars disk = .ok settings → number.value settings = n
  refused : n < number.least ∨ number.greatest < n → (loader.load vars disk).isOk = false

variable {number : NumberSetting} {n : Int}

theorem keeps_of_value (among : number ∈ Settings.numbers)
    (value : ∀ settings : Settings,
      loader.load vars disk = .ok settings → number.value settings = n)
    : loader.Keeps vars disk number n := by
  refine ⟨value, fun outside => ?_⟩
  cases loaded : loader.load vars disk with
  | error fault => rfl
  | ok settings =>
      obtain ⟨low, high⟩ := Settings.numbers_within (load_eq_ok_iff.mp loaded).2 number among
      have same : (number.value settings : Int) = n := value settings loaded
      omega

/-- A number that stands at its place in the tree of all sources is kept. -/
theorem keeps_of_at? (among : number ∈ Settings.numbers) (writes : node.Writes n)
    (stands : ∀ whole, loader.tree vars disk = .ok whole → whole.at? number.place = some node)
    : loader.Keeps vars disk number n := by
  refine keeps_of_value among fun settings loaded => ?_
  obtain ⟨whole, made, taken⟩ := bind_eq_ok_iff.mp (load_eq_ok_iff.mp loaded).1
  have found : node.natural? = some (number.value settings) :=
    Settings.numbers_taken number among whole node settings (stands whole made)
      (settingsOf_eq_ok_iff.mp taken)
  exact Node.eq_of_natural? writes found

/-- Every number that the sources write for a setting is loaded as it is or refused: one that stands
at its place in the tree of all sources, one that the last entries give, and one that a variable
gives; and a document reads the digits of a number within 64 bits as that number. -/
theorem load_numbers (loader : Loader) (vars : Variables) (disk : Disk)
    : ∀ number ∈ Settings.numbers, ∀ (n : Int) (node : Node), node.Writes n
      → (∀ whole, loader.tree vars disk = .ok whole → whole.at? number.place = some node
          → loader.Keeps vars disk number n)
        ∧ (∀ earlier later, loader.entries vars disk = .ok (earlier ++ later)
            → Document.fits later number.place.names = true
            → Document.given? later number.place.names = some node
            → loader.Keeps vars disk number n)
        ∧ (∀ text, node = .text text → vars.Known
            → vars.given? number.place.names = some text → loader.Keeps vars disk number n)
        ∧ (-2 ^ 63 ≤ n ∧ n < 2 ^ 63
            → Toml.scalar? (Node.integerText n).toList = some (.integer n)) := by
  intro number among n node writes
  refine ⟨?_, ?_, ?_, Toml.scalar?_integerText⟩
  · intro whole made stands
    refine keeps_of_at? among writes fun other makes => ?_
    obtain rfl := Except.ok.inj (made.symm.trans makes)
    exact stands
  · intro earlier later read fit given
    exact keeps_of_at? among writes fun whole made => at?_of_entries made read fit given
  · rintro text rfl known given
    refine keeps_of_at? among writes fun whole made => ?_
    obtain ⟨leaf, listed, named⟩ := Settings.exists_leaf_of_number number among
    obtain ⟨earlier, own, read, written⟩ := entries_of_tree made
    obtain ⟨gives, fits⟩ := known.given?_readVariables written listed
    rw [named] at gives fits
    exact at?_of_entries made read fits (by rw [gives, given]; rfl)

/-- Whether a value that was found is a certain whole number can be decided. -/
instance decidableEqInteger (n : Int)
    : (found : Option Node) → Decidable (found = some (.integer n))
  | some (.integer m) =>
    decidable_of_iff (m = n)
      ⟨fun same => same ▸ rfl, fun same => Node.integer.inj (Option.some.inj same)⟩
  | none => isFalse nofun
  | some .nil | some (.bool _) | some (.float _) | some (.text _) | some (.array _)
  | some (.table _) => isFalse nofun

theorem load_numbers_seven
    : let vars : Variables := [("SMS_DISPATCH_TERMII__OTP__PIN_LENGTH", "7".toUTF8.toList)]
      let disk := layeredDisk "[http]\ntimeout_seconds = 30" ""
      let wide := layeredDisk "" "[termii.otp]\npin_length = 4294967302"
      (∃ settings : Settings,
        usual.load vars disk = .ok settings
        ∧ settings.termii.otp.pinLength.toNat = 7 ∧ settings.http.timeoutSeconds.toNat = 30)
      ∧ (usual.load [] wide).isOk = false := by
  intro vars disk wide
  obtain ⟨logger, -, defaults, -, smarthive⟩ :=
    Settings.validate_eq_ok_iff.mp Settings.validate_default
  have loaded : usual.load vars disk
      = .ok { http := { timeoutSeconds := 30 }, termii := { otp := { pinLength := 7 } } } :=
    load_eq_ok_iff.mpr ⟨by decide +kernel, Settings.validate_eq_ok_iff.mpr
      ⟨logger, by decide +kernel, defaults, by decide +kernel, smarthive⟩⟩
  let timeout : NumberSetting :=
    ⟨[("http", 2), ("timeout_seconds", 0)], (·.http.timeoutSeconds.toNat), 1, UInt64.size - 1⟩
  let length : NumberSetting :=
    ⟨[("termii", 4), ("otp", 5), ("pin_length", 4)], (·.termii.otp.pinLength.toNat), 4, 8⟩
  have timeoutListed : timeout ∈ Settings.numbers := .head _
  have lengthListed : length ∈ Settings.numbers := by simp [Settings.numbers, length]
  refine ⟨⟨_, loaded, ?_, ?_⟩, ?_⟩
  · -- by its variable
    have kept : usual.Keeps vars disk length 7 :=
      (load_numbers usual vars disk length lengthListed 7 (.text "7") (.text (.plain 0 7))).2.2.1
        "7" rfl (by decide +kernel) (by decide +kernel)
    exact Int.ofNat_inj.mp (kept.value _ loaded)
  · -- by the entries of all sources
    have given : (((usual.entries vars disk).toOption.filter
          (Document.fits · timeout.place.names)).bind (Document.given? · timeout.place.names))
        = some (.integer 30) := by
      decide +kernel
    obtain ⟨all, found, gives⟩ := Option.bind_eq_some_iff.mp given
    obtain ⟨found, fits⟩ := Option.filter_eq_some_iff.mp found
    have read : usual.entries vars disk = .ok ([] ++ all) := toOption_eq_some_iff.mp found
    have kept : usual.Keeps vars disk timeout 30 :=
      (load_numbers usual vars disk timeout timeoutListed 30 (.integer 30) (.integer 30)).2.1
        [] all read fits gives
    exact Int.ofNat_inj.mp (kept.value _ loaded)
  · -- by the tree
    have given : (usual.tree [] wide).toOption.bind (Node.at? length.place)
        = some (.integer 4294967302) := by
      decide +kernel
    obtain ⟨whole, found, stands⟩ := Option.bind_eq_some_iff.mp given
    have made : usual.tree [] wide = .ok whole := toOption_eq_some_iff.mp found
    have kept : usual.Keeps [] wide length 4294967302 :=
      (load_numbers usual [] wide length lengthListed _ (.integer _) (.integer _)).1
        whole made stands
    exact kept.refused (.inr (by decide))

end Config.Loader

end Courier
