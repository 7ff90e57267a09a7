import UsbHost.Proofs.Lookup
import UsbHost.Proofs.SettingsChecks

/-!
# Where a configuration comes from

A configuration is taken from the file at one path, which is the given one or the default one. Only
where no path is given and the system finds nothing at the default path are the defaults used;
whatever else is wrong with the file is an error, and nothing is logged about it.

The system may fail to find what is there: in a directory that may not be searched, behind too many
links or behind a link that leads nowhere, and at a path that is too long. A default file in such a
place is passed over as if it were missing. In no other way does the rule fail that the defaults are
used only if there is no file.
-/

set_option autoImplicit false

namespace UsbHost

variable {files : FileTree} {path text : String} {config : Config} {environment : Environment}

/-! ## What stands at a path -/

namespace FileTree

/-- The file at a path may be read, and what is in it is a text. -/
def Holds (files : FileTree) (path text : String) : Prop :=
  files.status path = .ok (.file text.toUTF8)

/-- Why there is no text at a path. -/
inductive Unread (files : FileTree) (path : String) : ReadError → Prop where
  | unseen {cause} : files.status path = .error cause → Unread files path cause
  | directory {searchable} : files.status path = .ok (.directory searchable) →
      Unread files path .isDirectory
  | lockedDirectory {searchable} : files.status path = .ok (.directory searchable false) →
      Unread files path .denied
  | lockedFile {bytes} : files.status path = .ok (.file bytes false) → Unread files path .denied
  | bytes {bytes} : files.status path = .ok (.file bytes) →
      (∀ text : String, text.toUTF8 ≠ bytes) → Unread files path .notText

theorem fromUTF8?_eq_some_iff {bytes : ByteArray} :
    String.fromUTF8? bytes = some text ↔ text.toUTF8 = bytes := by
  unfold String.fromUTF8?
  constructor
  · intro decoded
    split at decoded
    · obtain rfl := Option.some.inj decoded
      rfl
    · contradiction
  · rintro rfl
    have valid : text.toUTF8.IsValidUTF8 := text.isValidUTF8
    exact dif_pos valid

theorem readText_eq_ok (holds : files.Holds path text) : files.readText path = .ok text := by
  have found : files.status path = .ok (.file text.toUTF8) := holds
  unfold readText
  rw [found]
  dsimp only
  rw [if_pos rfl, fromUTF8?_eq_some_iff.mpr rfl]

theorem readText_eq_error {cause : ReadError} (unread : files.Unread path cause) :
    files.readText path = .error cause := by
  unfold readText
  cases unread with
  | unseen failed => rw [failed]
  | directory found | lockedDirectory found | lockedFile found =>
    rw [found]
    rfl
  | @bytes bytes found noText =>
    have undecoded : String.fromUTF8? bytes = none :=
      Option.eq_none_iff_forall_ne_some.mpr fun text decoded =>
        noText text (fromUTF8?_eq_some_iff.mp decoded)
    rw [found]
    dsimp only
    rw [if_pos rfl, undecoded]

theorem text_or_unread (files : FileTree) (path : String) :
    (∃ text, files.Holds path text) ∨ ∃ cause, files.Unread path cause := by
  cases found : files.status path with
  | error cause => exact .inr ⟨cause, .unseen found⟩
  | ok node =>
    cases node with
    | directory searchable readable =>
      cases readable with
      | false => exact .inr ⟨_, .lockedDirectory found⟩
      | true => exact .inr ⟨_, .directory found⟩
    | file bytes readable =>
      cases readable with
      | false => exact .inr ⟨_, .lockedFile found⟩
      | true =>
        by_cases decodes : ∃ text : String, text.toUTF8 = bytes
        · obtain ⟨text, rfl⟩ := decodes
          exact .inl ⟨text, found⟩
        · exact .inr ⟨_, .bytes found fun text same => decodes ⟨text, same⟩⟩
    | link target => exact absurd found (files.status_ne_link path target)

end FileTree

namespace Config

/-! ## What a file offers -/

/-- The path at which a configuration is looked for. -/
def target (environment : Environment) (path : Option String) : String :=
  path.elim environment.defaultPath environment.expandTilde

/-- The first thing that makes a configuration unusable. -/
inductive Flaw (config : Config) : InvalidConfig → Prop where
  | blank : Text.trimChars config.logging.level.toList = [] → Flaw config .blankLoggingLevel
  | level {flaw} : Text.trimChars config.logging.level.toList ≠ [] →
      config.calls.FirstFlaw flaw → Flaw config (.level flaw)

/-- The file at a path describes a usable configuration. -/
def Offered (files : FileTree) (path : String) (config : Config) : Prop :=
  ∃ text, files.Holds path text ∧ ofText? text = some config ∧ config.Usable

/-- What is wrong with what stands at a path. -/
inductive Fault (files : FileTree) (path : String) : ConfigError → Prop where
  | unreadable {cause : ReadError} :
      files.Unread path cause → Fault files path (.unreadable path cause)
  | malformed {text : String} : files.Holds path text → ofText? text = none →
      Fault files path .malformed
  | invalid {text : String} {config reason} : files.Holds path text →
      ofText? text = some config → Flaw config reason → Fault files path (.invalid reason)

theorem Flaw.validate {reason : InvalidConfig} (flaw : config.Flaw reason) :
    config.validate = .error reason := by
  cases flaw with
  | blank blank =>
    have isBlank : Text.isBlank config.logging.level = true := by
      rw [Text.isBlank_iff, ← Text.trimChars_eq_nil_iff]
      exact blank
    unfold Config.validate
    rw [if_pos isBlank]
    rfl
  | level solid first =>
    rw [ne_eq, Text.trimChars_eq_nil_iff, ← Text.isBlank_iff] at solid
    rw [validate_eq solid, Policies.ofSettings_flawed first]
    rfl

theorem usable_or_flawed (config : Config) : config.Usable ∨ ∃ reason, config.Flaw reason := by
  by_cases solid : Text.trimChars config.logging.level.toList = []
  · exact .inr ⟨_, .blank solid⟩
  · rcases config.calls.readable_or_flawed with readable | ⟨flaw, first⟩
    · exact .inl ⟨solid, readable⟩
    · exact .inr ⟨_, .level solid first⟩

theorem load_offered (offered : Offered files path config) :
    load files path =
      (.ok config, [.note .info ⟨.configuration, "Loaded configuration from: " ++ path⟩]) := by
  obtain ⟨text, holds, described, usable⟩ := offered
  unfold load
  rw [FileTree.readText_eq_ok holds]
  dsimp only
  rw [(read_eq_ok_iff described).mpr ⟨rfl, usable⟩]

theorem load_faulty {error : ConfigError} (fault : Fault files path error) :
    load files path = (.error error, []) := by
  unfold load
  cases fault with
  | unreadable unread => rw [FileTree.readText_eq_error unread]
  | malformed holds undescribed =>
    rw [FileTree.readText_eq_ok holds]
    dsimp only
    rw [read, undescribed]
  | invalid holds described flaw =>
    rw [FileTree.readText_eq_ok holds]
    dsimp only
    rw [read, described]
    dsimp only
    rw [flaw.validate]

theorem offered_or_faulty (files : FileTree) (path : String) :
    (∃ config, Offered files path config) ∨ ∃ error, Fault files path error := by
  rcases files.text_or_unread path with ⟨text, holds⟩ | ⟨cause, unread⟩
  · cases described : ofText? text with
    | none => exact .inr ⟨_, .malformed holds described⟩
    | some config =>
      rcases config.usable_or_flawed with usable | ⟨reason, flaw⟩
      · exact .inl ⟨config, text, holds, described, usable⟩
      · exact .inr ⟨_, .invalid holds described flaw⟩
  · exact .inr ⟨_, .unreadable unread⟩

theorem Offered.seen (offered : Offered files path config) : ¬ files.Unseen path := by
  obtain ⟨text, holds, -⟩ := offered
  exact fun unseen => unseen.not_seen holds

/-! ## The given path and the default path -/

/-- The defaults, and the line that tells that there is no file at the path. -/
def defaulted (path : String) : Except ConfigError Config × Log :=
  (.ok {},
    [.note .debug ⟨.configuration, "No configuration file at " ++ path ++ ", using defaults"⟩])

theorem loadOrDefault_unseen (unseen : files.Unseen environment.defaultPath) :
    loadOrDefault files environment none = defaulted environment.defaultPath :=
  if_neg (Bool.not_eq_true _ ▸ FileTree.has_eq_false_iff.mpr unseen)

theorem loadOrDefault_eq_load {path : Option String}
    (looked : ¬ (path = none ∧ files.Unseen (target environment path))) :
    loadOrDefault files environment path = load files (target environment path) := by
  cases path with
  | some given => rfl
  | none =>
    have has : files.has environment.defaultPath = true :=
      eq_true_of_ne_false fun absent => looked ⟨rfl, FileTree.has_eq_false_iff.mp absent⟩
    exact if_pos has

theorem load_ne_defaulted (files : FileTree) (path other : String) :
    load files path ≠ defaulted other := by
  intro same
  rcases offered_or_faulty files path with ⟨config, offered⟩ | ⟨error, fault⟩
  · rw [load_offered offered] at same
    cases congrArg Prod.snd same
  · rw [load_faulty fault] at same
    cases congrArg Prod.fst same

/-- Where a configuration comes from, and what is logged about it. -/
structure LoadAccount (files : FileTree) (environment : Environment) (path : Option String) :
    Prop where
  /-- A file that can be read and describes a usable configuration is taken. -/
  offered : ∀ config, Offered files (target environment path) config →
    loadOrDefault files environment path =
      (.ok config, [.note .info
        ⟨.configuration, "Loaded configuration from: " ++ target environment path⟩])
  /-- Without a path, and with nothing at the default path, the defaults are used. -/
  absent : path = none → ¬ files.Occupied (target environment path) →
    loadOrDefault files environment path = defaulted (target environment path)
  /-- What is there and not found is taken for missing. -/
  masked : path = none → files.Masked (target environment path) →
    loadOrDefault files environment path = defaulted (target environment path)
  /-- Everything else is an error. -/
  faulty : (∀ config, ¬ Offered files (target environment path) config) →
    ¬ (path = none ∧ ¬ files.Occupied (target environment path)) →
    ¬ (path = none ∧ files.Masked (target environment path)) →
    ∃ error, Fault files (target environment path) error ∧
      loadOrDefault files environment path = (.error error, [])
  /-- The defaults are used only if there is no file, unless one is there and not found. -/
  missing_iff : (loadOrDefault files environment path = defaulted (target environment path) →
      path = none ∧ ¬ files.Occupied (target environment path)) ↔
    ¬ (path = none ∧ files.Masked (target environment path))
  /-- With a path only what is read from it counts. -/
  given : ∀ given, path = some given → ∀ (others : FileTree) (elsewhere : Environment),
    elsewhere.expandTilde given = environment.expandTilde given →
    others.readText (target environment path) = files.readText (target environment path) →
    loadOrDefault others elsewhere path = loadOrDefault files environment path

theorem loadOrDefault_missing_iff (files : FileTree) (environment : Environment)
    (path : Option String) :
    (loadOrDefault files environment path = defaulted (target environment path) →
        path = none ∧ ¬ files.Occupied (target environment path)) ↔
      ¬ (path = none ∧ files.Masked (target environment path)) := by
  constructor
  · rintro rule ⟨rfl, occupied, unseen⟩
    exact (rule (loadOrDefault_unseen unseen)).2 occupied
  · intro unmasked result
    by_cases passed : path = none ∧ files.Unseen (target environment path)
    · exact ⟨passed.1, fun occupied => unmasked ⟨passed.1, occupied, passed.2⟩⟩
    · rw [loadOrDefault_eq_load passed] at result
      exact (load_ne_defaulted _ _ _ result).elim

/-- In a plain tree the defaults are used exactly if there is no file. -/
theorem loadOrDefault_plain (plain : files.Plain)
    (fits : FileTree.Fits environment.defaultPath) :
    loadOrDefault files environment none = defaulted environment.defaultPath ↔
      ¬ files.Occupied environment.defaultPath := by
  constructor
  · intro result
    have unmasked : ¬ ((none : Option String) = none ∧ files.Masked environment.defaultPath) :=
      fun both => plain.not_masked fits both.2
    exact ((loadOrDefault_missing_iff files environment none).mpr unmasked result).2
  · exact fun absent => loadOrDefault_unseen (FileTree.unseen_of_absent absent)

theorem loadOrDefault_given (given : String) {others : FileTree} {elsewhere : Environment}
    (sameTarget : elsewhere.expandTilde given = environment.expandTilde given)
    (sameText : others.readText (environment.expandTilde given) =
      files.readText (environment.expandTilde given)) :
    loadOrDefault others elsewhere (some given) = loadOrDefault files environment (some given) := by
  change load others (elsewhere.expandTilde given) = load files (environment.expandTilde given)
  rw [sameTarget]
  unfold load
  rw [sameText]

theorem loadOrDefault_account (files : FileTree) (environment : Environment)
    (path : Option String) : LoadAccount files environment path where
  offered config offered := by
    rw [loadOrDefault_eq_load fun passed => offered.seen passed.2]
    exact load_offered offered
  absent := by
    rintro rfl absent
    exact loadOrDefault_unseen (FileTree.unseen_of_absent absent)
  masked := by
    rintro rfl masked
    exact loadOrDefault_unseen masked.2
  faulty unoffered present unmasked := by
    have looked : ¬ (path = none ∧ files.Unseen (target environment path)) := by
      rintro ⟨unnamed, unseen⟩
      by_cases occupied : files.Occupied (target environment path)
      · exact unmasked ⟨unnamed, occupied, unseen⟩
      · exact present ⟨unnamed, occupied⟩
    rw [loadOrDefault_eq_load looked]
    rcases offered_or_faulty files (target environment path) with ⟨config, offered⟩ | ⟨error, fault⟩
    · exact absurd offered (unoffered config)
    · exact ⟨error, fault, load_faulty fault⟩
  missing_iff := loadOrDefault_missing_iff files environment path
  given := by
    rintro given rfl others elsewhere sameTarget sameText
    exact loadOrDefault_given given sameTarget sameText

/-! ## A file that is passed over -/

/-- Slashes, which lead nowhere else. -/
def slashes (count : Nat) : String := String.ofList (List.replicate count '/')

theorem utf8ByteSize_slashes (count : Nat) : (slashes count).utf8ByteSize = count := by
  induction count with
  | zero => rfl
  | succ count ih =>
    have first : slashes (count + 1) = "/" ++ slashes count := by
      rw [slashes, List.replicate_succ, ← List.singleton_append, String.ofList_append]
      rfl
    rw [first, String.utf8ByteSize_append, ih]
    exact Nat.add_comm 1 count

theorem splitChars_slashes (count : Nat) (rest : List Char) :
    Text.splitChars '/' (List.replicate count '/' ++ rest) =
      List.replicate count [] ++ Text.splitChars '/' rest := by
  induction count with
  | zero => rfl
  | succ count ih => exact congrArg ([] :: ·) ih

theorem split_slashes (count : Nat) (rest : String) :
    Text.split '/' (slashes count ++ rest) = List.replicate count "" ++ Text.split '/' rest := by
  rw [Text.split, slashes, String.toList_append, String.toList_ofList, splitChars_slashes,
    List.map_append, List.map_replicate]
  rfl

theorem leads_slashes {final : Location} {names : List String} (count : Nat)
    (leads : files.Leads [] names final) :
    files.Leads [] (List.replicate count "" ++ names) final := by
  induction count with
  | zero => exact leads
  | succ count ih => exact .lands rfl ih

theorem defaultPath_slashes (count : Nat) :
    Environment.defaultPath
        { homeVariable := "", accountHome := none, configHome := some (slashes (count + 1)) } =
      slashes (count + 1) ++ "scoped-usb/config.toml" := by
  have absolute : FileTree.isAbsolute (slashes (count + 1)) = true := by
    simp [FileTree.isAbsolute, slashes, List.replicate_succ]
  have closed : (slashes (count + 1)).toList.getLast? = some '/' := by
    simp [slashes, List.getLast?_replicate]
  have folder : FileTree.join (slashes (count + 1)) "scoped-usb" =
      slashes (count + 1) ++ "scoped-usb" := by
    rw [FileTree.join, closed, if_pos (by simp)]
  have unclosed : ¬ ((slashes (count + 1) ++ "scoped-usb").isEmpty ||
      (slashes (count + 1) ++ "scoped-usb").toList.getLast? == some '/') = true := by
    simp
  unfold Environment.defaultPath Environment.configDirectory
  rw [Option.filter_some, if_pos absolute]
  dsimp only
  rw [folder, FileTree.join, if_neg unclosed, String.append_assoc, String.append_assoc]
  rfl

/-- A tree with a default configuration below its root. -/
def rootConfig : FileTree where
  nodes := [(["scoped-usb"], .directory),
    (["scoped-usb", "config.toml"], .file (written {}).toUTF8)]

theorem occupied_slashes (count : Nat) :
    rootConfig.Occupied (slashes count ++ "scoped-usb/config.toml") := by
  have root : FileTree.start (slashes count ++ "scoped-usb/config.toml") rootConfig.current =
      [] := by
    unfold FileTree.start
    split <;> rfl
  have names : Text.split '/' (slashes count ++ "scoped-usb/config.toml") =
      (List.replicate count "" ++ ["scoped-usb"]) ++ ["config.toml"] := by
    rw [split_slashes, List.append_assoc]
    rfl
  refine ⟨_, _, ["scoped-usb"], .lands ["scoped-usb", "config.toml"], names, ?_, rfl⟩
  rw [root]
  exact leads_slashes count (.lands rfl .here)

/-- The root directory may be written with so many slashes that the system does not follow the
default path. The file that stands there is passed over. -/
theorem loadOrDefault_passes_over :
    let environment : Environment :=
      { homeVariable := "", accountHome := none, configHome := some (slashes 4096) }
    rootConfig.Occupied environment.defaultPath ∧
      loadOrDefault rootConfig environment none = defaulted environment.defaultPath := by
  intro environment
  have path : environment.defaultPath = slashes 4096 ++ "scoped-usb/config.toml" :=
    defaultPath_slashes 4095
  have long : FileTree.maxPathSize < environment.defaultPath.utf8ByteSize := by
    rw [path, String.utf8ByteSize_append, utf8ByteSize_slashes]
    decide
  refine ⟨?_, loadOrDefault_unseen (rootConfig.unseen_of_long long)⟩
  rw [path]
  exact occupied_slashes 4096

-- So is a file in a directory that may not be searched, and a link that leads to itself.
example :
    let path := "/c/scoped-usb/config.toml"
    let locked : FileTree :=
      { nodes := [(["c"], .directory false), (["c", "scoped-usb"], .directory),
          (["c", "scoped-usb", "config.toml"], .file ByteArray.empty)] }
    let looping : FileTree :=
      { nodes := [(["c"], .directory), (["c", "scoped-usb"], .directory),
          (["c", "scoped-usb", "config.toml"], .link "config.toml")] }
    locked.resolve path = .error .denied ∧ looping.resolve path = .error .tooManyLinks := by
  decide +kernel

end Config

end UsbHost
