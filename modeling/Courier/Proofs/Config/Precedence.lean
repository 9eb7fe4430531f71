import Courier.Proofs.Config.Sources
import Courier.Proofs.Settings.Validation

/-! The order of precedence. Every leaf of loaded settings has the value of the first source that
gives one: variables before the local file, that before the file of the environment, and that before
the default file; and where no source gives one, the default of the settings.
-/

namespace Courier.Config.Loader

/-- Of several sources the last one that gives something counts, by induction on the sources. -/
theorem stands?_mergeSources {disk : Disk} {sources : List Source} {path : List String}
    {tree whole : Node} {found : Option Node}
    (alone : ∀ source ∈ sources, disk.isFile (longer source.path) = false)
    (fit : ∀ source ∈ sources, (fileDocument disk source.path).fits path = true)
    (merged : mergeSources disk sources tree = .ok whole)
    (stands : Node.stands? path (some tree) = some found)
    : Node.stands? path (some whole)
      = some ((sources.reverse.findSome? fun source =>
          (fileDocument disk source.path).given? path).or found) := by
  induction sources generalizing tree found with
  | nil =>
      obtain rfl := Except.ok.inj merged
      exact stands
  | cons source sources ih =>
      obtain ⟨document, entries, merged⟩ := bind_eq_ok_iff.mp merged
      obtain ⟨firstAlone, restAlone⟩ := List.forall_mem_cons.mp alone
      obtain ⟨firstFits, restFit⟩ := List.forall_mem_cons.mp fit
      obtain rfl := eq_fileDocument_of_readSource firstAlone entries
      rw [ih restAlone restFit merged (Node.stands?_mergeSource firstFits stands)]
      simp [List.findSome?_append, Option.or_assoc]

/-- The files of a loader, those that win first: the single file, or the local one, which the test
environment leaves out, the one of the environment and the default one. -/
def files (loader : Loader) : List String :=
  match loader.file with
  | some file => [file]
  | none =>
    let inDirectory (name : String) := join loader.directory (name ++ ".toml")
    (if loader.environment = .test then [] else [inDirectory "local"])
      ++ [inDirectory loader.environment.name, inDirectory "default"]

theorem files_eq (loader : Loader) : loader.files = loader.sources.reverse.map (·.path) := by
  rcases loader with ⟨directory, named, file, environment⟩
  cases file with
  | some file => rfl
  | none => cases environment <;> rfl

/-- What the sources of a loader give to a path: variables win, then the files in their order. -/
def given? (loader : Loader) (vars : Variables) (disk : Disk) (path : List String) : Option Node :=
  ((vars.given? path).map .text).or
    (loader.files.findSome? fun file => (fileDocument disk file).given? path)

/-- What stands at a leaf of the tree of all sources is what they give to it. -/
theorem stands?_tree {loader : Loader} {vars : Variables} {disk : Disk} {whole : Node}
    (made : loader.tree vars disk = .ok whole)
    (alone : ∀ file ∈ loader.files, disk.isFile (longer file) = false)
    (known : vars.Known) {leaf : Leaf Settings} (among : leaf ∈ Settings.leaves)
    (fit : ∀ file ∈ loader.files, (fileDocument disk file).fits leaf.path = true)
    : Node.stands? leaf.path (some whole) = some (loader.given? vars disk leaf.path) := by
  have bare : Node.stands? leaf.path (some (.table [])) = some none := by
    revert leaf
    simp [Settings.leaves, Leaf.of, Node.stands?, Node.find?]
  simp only [files_eq, List.forall_mem_map, List.mem_reverse] at alone fit
  obtain ⟨filed, merged, made⟩ := bind_eq_ok_iff.mp (then_eq_ok_iff.mp made).2
  obtain ⟨document, entries, made⟩ := bind_eq_ok_iff.mp made
  obtain rfl := Except.ok.inj made
  obtain ⟨given, fitting⟩ := known.given?_readVariables entries among
  rw [Node.stands?_mergeSource fitting (stands?_mergeSources alone fit merged bare), given,
    Option.or_none, given?, files_eq, List.findSome?_map]
  rfl

/-- Empty variables change nothing. -/
theorem load_filter (loader : Loader) (vars : Variables) (disk : Disk)
    : loader.load (vars.filter (!·.2.isEmpty)) disk = loader.load vars disk := by
  simp only [load, tree, Variables.readVariables_filter]

theorem settingsOf_eq_ok_iff {whole : Node} {settings : Settings}
    : settingsOf whole = .ok settings ↔ Settings.codec.convert whole = some settings := by
  rw [settingsOf]
  split
  · next taken found => rw [found, Except.ok.injEq, Option.some.injEq]
  · next none => exact iff_of_false nofun (by simp [none])

/-- What is loaded is what the tree of all sources says, if that is valid. -/
theorem load_eq_ok_iff {loader : Loader} {vars : Variables} {disk : Disk} {settings : Settings}
    : loader.load vars disk = .ok settings
      ↔ (loader.tree vars disk >>= settingsOf) = .ok settings ∧ settings.validate = .ok () := by
  constructor
  · intro loaded
    obtain ⟨whole, made, loaded⟩ := bind_eq_ok_iff.mp loaded
    obtain ⟨taken, converted, loaded⟩ := bind_eq_ok_iff.mp loaded
    obtain ⟨valid, same⟩ := then_eq_ok_iff.mp loaded
    obtain rfl := Except.ok.inj same
    exact ⟨bind_eq_ok_iff.mpr ⟨whole, made, converted⟩, valid⟩
  · rintro ⟨converts, valid⟩
    obtain ⟨whole, made, converted⟩ := bind_eq_ok_iff.mp converts
    exact bind_eq_ok_iff.mpr
      ⟨whole, made, bind_eq_ok_iff.mpr ⟨settings, converted, then_eq_ok_iff.mpr ⟨valid, rfl⟩⟩⟩

/-- Every leaf of loaded settings has the value of the first source that gives one, and where none
gives one the default. -/
theorem holds_of_load {loader : Loader} {vars : Variables} {disk : Disk} {settings : Settings}
    (loaded : loader.load vars disk = .ok settings)
    (alone : ∀ file ∈ loader.files, disk.isFile (longer file) = false)
    (known : vars.Known) {leaf : Leaf Settings} (among : leaf ∈ Settings.leaves)
    (fit : ∀ file ∈ loader.files, (fileDocument disk file).fits leaf.path = true)
    : leaf.Holds (loader.given? vars disk leaf.path) {} settings := by
  obtain ⟨whole, made, converted⟩ := bind_eq_ok_iff.mp (load_eq_ok_iff.mp loaded).1
  exact Settings.codec_finds leaf among whole _ settings
    (stands?_tree made alone known among fit) (settingsOf_eq_ok_iff.mp converted)

/-- What a variable gives to a leaf is what the leaf holds. -/
theorem holds_text_of_load {loader : Loader} {vars : Variables} {disk : Disk} {settings : Settings}
    {leaf : Leaf Settings} {text : String} (given : vars.given? leaf.path = some text)
    (holds : leaf.Holds (loader.given? vars disk leaf.path) {} settings)
    : leaf.codec.convert (.text text) = some (leaf.get settings) := by
  rw [Loader.given?, given] at holds
  exact holds

/-- Every leaf of loaded settings has the value of the first source that gives one, and where none
gives one the default; texts are taken from variables as they are, and empty variables are idle. -/
theorem load_leaves (loader : Loader) (vars : Variables) (disk : Disk)
    : (∀ settings : Settings,
        loader.load vars disk = .ok settings
        → (∀ file ∈ loader.files, disk.isFile (longer file) = false)
        → (∀ file ∈ loader.files, ∀ leaf ∈ Settings.leaves,
            (fileDocument disk file).fits leaf.path = true)
        → vars.Known
        → (∀ leaf ∈ Settings.leaves, leaf.Holds (loader.given? vars disk leaf.path) {} settings)
          ∧ (∀ path get, .of path Codec.text get ∈ Settings.leaves
              → ∀ text, vars.given? path = some text → get settings = text)
          ∧ ∀ path get, .of path Codec.apiKey get ∈ Settings.leaves
              → ∀ text, vars.given? path = some text → get settings = ⟨text⟩)
      ∧ loader.load (vars.filter (!·.2.isEmpty)) disk = loader.load vars disk := by
  refine ⟨?_, loader.load_filter vars disk⟩
  intro settings loaded alone fit known
  have holds : ∀ leaf ∈ Settings.leaves,
      leaf.Holds (loader.given? vars disk leaf.path) {} settings :=
    fun leaf among =>
      holds_of_load loaded alone known among fun file listed => fit file listed leaf among
  refine ⟨holds, ?_, ?_⟩
  · intro path get among text given
    exact (Option.some.inj (holds_text_of_load given (holds _ among))).symm
  · intro path get among text given
    exact (Option.some.inj (holds_text_of_load given (holds _ among))).symm

/-- A working directory with a default file and a local file. -/
def layeredDisk (default own : String) : Disk :=
  ⟨Disk.start.entries
    ++ [(["work", "config"], .directory),
      (["work", "config", "default.toml"], .file default.toUTF8.toList),
      (["work", "config", "local.toml"], .file own.toUTF8.toList)]⟩

theorem load_leaves_layered
    : let vars : Variables :=
        [("SMS_DISPATCH_DEFAULTS__RECIPIENT", " 0803".toUTF8.toList),
          ("SMS_DISPATCH_HTTP__USER_AGENT", [])]
      let disk :=
        layeredDisk "[http]\ntimeout_seconds = 20\nuser_agent = 'ua'" "http.timeout_seconds = 30"
      ∃ settings : Settings,
        usual.load vars disk = .ok settings
        ∧ settings.http = ⟨30, 5, "ua"⟩
        ∧ settings.defaults.recipient = " 0803"
        ∧ ∀ leaf ∈ Settings.leaves, leaf.Holds (usual.given? vars disk leaf.path) {} settings := by
  intro vars disk
  obtain ⟨logger, -, -, accounts⟩ := Settings.validate_eq_ok_iff.mp Settings.validate_default
  have loaded : usual.load vars disk
      = .ok { http := ⟨30, 5, "ua"⟩, defaults := { recipient := " 0803" } } :=
    load_eq_ok_iff.mpr ⟨by decide +kernel, Settings.validate_eq_ok_iff.mpr
      ⟨logger, by decide +kernel, by decide +kernel, accounts⟩⟩
  have fit : ∀ file ∈ usual.files, ∀ leaf ∈ Settings.leaves,
      (fileDocument disk file).fits leaf.path = true := by
    decide +kernel
  obtain ⟨holds, texts, -⟩ :=
    (load_leaves usual vars disk).1 _ loaded (by decide +kernel) fit (by decide +kernel)
  refine ⟨_, loaded, rfl, ?_, holds⟩
  exact texts ["defaults", "recipient"] (·.defaults.recipient) (by simp [Settings.leaves]) " 0803"
    (by decide +kernel)

/-- A section that is a list is read by position and replaced as a whole, and a table that names a
choice is merged with the one below it: there a leaf need not have what the first source gives. -/
theorem load_lists_not_layered
    : let load (default own : String) := usual.load [] (layeredDisk default own)
      load "http = [20, 2, 'ua']" "" = .ok { http := ⟨20, 2, "ua"⟩ }
      ∧ load "http = [20, 2, 'ua']" "http = [30]"
        = .ok { http := ⟨30, 5, "sms-dispatch/0.1.0"⟩ }
      ∧ load "[smarthive.route]\nMKT = 1" "[smarthive.route]"
        = .ok { smarthive := { route := .marketing } }
      ∧ (load "" "[smarthive.route]").isOk = false
      ∧ ¬ ∀ (loader : Loader) (vars : Variables) (disk : Disk) (settings : Settings),
          loader.load vars disk = .ok settings
          → (∀ file ∈ loader.files, disk.isFile (longer file) = false)
          → vars.Known
          → ∀ leaf ∈ Settings.leaves,
              leaf.Holds (loader.given? vars disk leaf.path) {} settings := by
  intro load
  obtain ⟨logger, http, rest⟩ := Settings.validate_eq_ok_iff.mp Settings.validate_default
  have lists : load "http = [20, 2, 'ua']" "http = [30]"
      = .ok { http := ⟨30, 5, "sms-dispatch/0.1.0"⟩ } :=
    load_eq_ok_iff.mpr ⟨by decide +kernel, Settings.validate_eq_ok_iff.mpr
      ⟨logger, by decide +kernel, rest⟩⟩
  refine ⟨?_, lists, ?_, by decide +kernel, fun layered => ?_⟩
  · exact load_eq_ok_iff.mpr ⟨by decide +kernel, Settings.validate_eq_ok_iff.mpr
      ⟨logger, by decide +kernel, rest⟩⟩
  · exact load_eq_ok_iff.mpr ⟨by decide +kernel, Settings.validate_eq_ok_iff.mpr
      ⟨logger, http, rest⟩⟩
  · have given : (usual.given? [] (layeredDisk "http = [20, 2, 'ua']" "http = [30]")
        ["http", "timeout_seconds"]).isNone = true := by
      decide +kernel
    have holds := layered usual [] _ _ lists (by decide +kernel) nofun
      (.of ["http", "timeout_seconds"] Codec.word64 (·.http.timeoutSeconds))
      (by simp [Settings.leaves])
    simp only [Leaf.of, Option.isNone_iff_eq_none.mp given] at holds
    have timeout : (30 : UInt64) = 10 := holds
    exact absurd timeout (by decide)

end Courier.Config.Loader
