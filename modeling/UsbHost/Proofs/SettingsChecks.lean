import UsbHost.Config.Load
import UsbHost.Proofs.Codes
import UsbHost.Proofs.WrittenConfig

/-!
# What accepts settings

Settings are checked in two places: when a configuration is read, and when policies are built from
the settings of calls. Both look at the levels in the same order and give the same reason, so that
a configuration that was read is never refused later on, except by the native library.
-/

set_option autoImplicit false

namespace UsbHost

variable {settings : CallSettings} {field : CallField} {flaw : InvalidLevel} {config : Config}

/-! ## The first level that cannot be read -/

/-- The place of a level among the settings. -/
def CallField.place : CallField → Nat
  | failure => 0
  | cleanup => 1
  | query => 2

namespace CallSettings

def Readable (settings : CallSettings) (field : CallField) : Prop :=
  ∃ level, Level.ofText? (settings.text field) = some level

/-- What stands in a field cannot be read, although everything before it can. -/
structure FirstFlaw (settings : CallSettings) (flaw : InvalidLevel) : Prop where
  text : flaw.text = settings.text flaw.field
  unreadable : Level.ofText? flaw.text = none
  earlier : ∀ field : CallField, field.place < flaw.field.place → settings.Readable field

theorem Readable.level (readable : settings.Readable field) :
    ∃ level, settings.level field = .ok level := by
  obtain ⟨level, found⟩ := readable
  exact ⟨level, Config.level_eq_ok_iff.mpr found⟩

theorem FirstFlaw.level (first : settings.FirstFlaw flaw) :
    settings.level flaw.field = .error flaw := by
  have unreadable : Level.ofText? (settings.text flaw.field) = none :=
    first.text ▸ first.unreadable
  unfold CallSettings.level
  rw [unreadable, ← first.text]

/-- The flaw of a field that cannot be read, provided everything before it can. -/
theorem firstFlaw_of_earlier (unreadable : ¬ settings.Readable field)
    (earlier : ∀ other : CallField, other.place < field.place → settings.Readable other) :
    ∃ flaw, settings.FirstFlaw flaw :=
  ⟨⟨field, settings.text field⟩, rfl, by simpa [Readable, Option.eq_none_iff_forall_ne_some]
    using unreadable, earlier⟩

theorem readable_or_flawed (settings : CallSettings) :
    (∀ field, settings.Readable field) ∨ ∃ flaw, settings.FirstFlaw flaw := by
  by_cases failure : settings.Readable .failure
  · by_cases cleanup : settings.Readable .cleanup
    · by_cases query : settings.Readable .query
      · refine .inl fun field => ?_
        cases field with
        | failure => exact failure
        | cleanup => exact cleanup
        | query => exact query
      · refine .inr (firstFlaw_of_earlier query fun other before => ?_)
        cases other with
        | failure => exact failure
        | cleanup => exact cleanup
        | query => exact absurd before (by decide)
    · refine .inr (firstFlaw_of_earlier cleanup fun other before => ?_)
      cases other with
      | failure => exact failure
      | cleanup | query => exact absurd before (by decide)
  · exact .inr (firstFlaw_of_earlier failure fun _ before => absurd before (Nat.not_lt_zero _))

end CallSettings

/-! ## Both checks -/

theorem Policies.ofSettings_readable (readable : ∀ field, settings.Readable field) :
    ∃ policies, ofSettings settings = .ok policies ∧ policies.call.raise := by
  obtain ⟨failure, failureRead⟩ := (readable .failure).level
  obtain ⟨cleanup, cleanupRead⟩ := (readable .cleanup).level
  obtain ⟨query, queryRead⟩ := (readable .query).level
  rw [ofSettings, failureRead, cleanupRead, queryRead]
  exact ⟨_, rfl, rfl⟩

theorem Policies.ofSettings_flawed (first : settings.FirstFlaw flaw) :
    ofSettings settings = .error flaw := by
  have found := first.level
  unfold ofSettings
  cases same : flaw.field with
  | failure =>
    rw [same] at found
    rw [found]
    rfl
  | cleanup =>
    obtain ⟨failure, failureRead⟩ := (first.earlier .failure (by rw [same]; decide)).level
    rw [same] at found
    rw [failureRead, found]
    rfl
  | query =>
    obtain ⟨failure, failureRead⟩ := (first.earlier .failure (by rw [same]; decide)).level
    obtain ⟨cleanup, cleanupRead⟩ := (first.earlier .cleanup (by rw [same]; decide)).level
    rw [same] at found
    rw [failureRead, cleanupRead, found]
    rfl

/-- Settings are refused with their first flaw, and with nothing else. -/
theorem Policies.ofSettings_eq_error_iff :
    ofSettings settings = .error flaw ↔ settings.FirstFlaw flaw := by
  refine ⟨fun refused => ?_, ofSettings_flawed⟩
  rcases settings.readable_or_flawed with readable | ⟨other, first⟩
  · obtain ⟨policies, built, -⟩ := ofSettings_readable readable
    rw [built] at refused
    contradiction
  · rw [ofSettings_flawed first] at refused
    exact Except.error.inj refused ▸ first

namespace Config

/-- Once the logging level is there, validation is building the policies. -/
theorem validate_eq (solid : ¬ Text.isBlank config.logging.level) :
    config.validate =
      ((Policies.ofSettings config.calls).mapError InvalidConfig.level).map fun _ => () := by
  unfold validate Policies.ofSettings
  rw [if_neg solid]
  simp only [List.forIn_cons, List.forIn_nil]
  cases config.calls.level .failure with
  | error flaw => rfl
  | ok failure =>
    cases config.calls.level .cleanup with
    | error flaw => rfl
    | ok cleanup => cases config.calls.level .query <;> rfl

/-- A text is accepted as the configuration that it describes, provided that one is usable. -/
theorem read_eq_ok_iff {text : String} {other : Config} (described : ofText? text = some config) :
    read text = .ok other ↔ other = config ∧ config.Usable := by
  rw [← validate_eq_ok_iff, read, described]
  cases valid : config.validate with
  | error reason => simp only [valid, reduceCtorEq, and_false]
  | ok done => simp only [valid, Except.ok.injEq, and_true, eq_comm]

theorem read_eq_malformed_iff {text : String} :
    read text = .error .malformed ↔ ofText? text = none := by
  unfold read
  cases described : ofText? text with
  | none => exact ⟨fun _ => rfl, fun _ => rfl⟩
  | some config => cases valid : config.validate <;> simp [valid]

/-! ## Configurations that were read -/

/-- Some way of obtaining a configuration answers this one. -/
inductive Accepted (config : Config) : Prop where
  | read {text : String} : Config.read text = .ok config → Accepted config
  | load {files : FileTree} {path : String} :
      (Config.load files path).1 = .ok config → Accepted config
  | loadOrDefault {files : FileTree} {environment : Environment} {path : Option String} :
      (Config.loadOrDefault files environment path).1 = .ok config → Accepted config

theorem load_eq_ok {files : FileTree} {path : String} (loaded : (load files path).1 = .ok config) :
    ∃ text, read text = .ok config := by
  unfold load at loaded
  split at loaded
  · contradiction
  · next text _ =>
    refine ⟨text, ?_⟩
    split at loaded
    · contradiction
    · next read => rw [read, Except.ok.inj loaded]

theorem usable_default : Usable {} :=
  validate_eq_ok_iff.mp (by decide)

theorem Accepted.usable (accepted : config.Accepted) : config.Usable := by
  have ofRead {text : String} (reads : Config.read text = .ok config) : config.Usable :=
    validate_eq_ok_iff.mp (validate_of_read reads)
  have ofLoad {files : FileTree} {path : String}
      (loaded : (Config.load files path).1 = .ok config) : config.Usable := by
    obtain ⟨text, reads⟩ := load_eq_ok loaded
    exact ofRead reads
  cases accepted with
  | read reads => exact ofRead reads
  | load loaded => exact ofLoad loaded
  | @loadOrDefault files environment path loaded =>
    unfold Config.loadOrDefault at loaded
    split at loaded
    · exact ofLoad loaded
    · dsimp only at loaded
      split at loaded
      · exact ofLoad loaded
      · exact Except.ok.inj loaded ▸ usable_default

end Config

/-! ## Contexts from settings -/

variable [NativeApi]

theorem Context.start_concludes (library : Library) (world : World) :
    let called := NativeApi.initLibrary world.bus
    (start library).Concludes world (library.governs "UsbContext::new" library.policies.call)
      called.1.code { library, owner := .ofRaw called.1.out } called.2 :=
  (Usb.invoke_concludes ..).bind fun _ => ⟨rfl, rfl⟩

/-- What is raised when the native library cannot be initialised. -/
def Context.refusal (describe : Int → String) (world : World) : UsbError where
  code := narrowed (NativeApi.initLibrary world.bus).1.code
  message := describe (narrowed (NativeApi.initLibrary world.bus).1.code)

/-- Settings that can be read are refused by the native library only. -/
theorem Context.startWithSettings_readable (readable : ∀ field, settings.Readable field)
    (describe : Int → String) (world : World) (error : SetupError) :
    (startWithSettings describe settings world).1 = .error error ↔
      (NativeApi.initLibrary world.bus).1.code < 0 ∧ error = .usb (refusal describe world) := by
  obtain ⟨policies, built, raises⟩ := Policies.ofSettings_readable readable
  have concludes := start_concludes { describe, policies } world
  unfold startWithSettings
  rw [built]
  dsimp only
  by_cases negative : (NativeApi.initLibrary world.bus).1.code < 0
  · obtain ⟨after, reached⟩ := concludes.refuses negative raises
    rw [reached]
    simp [negative, refusal, Governance.failure, Library.governs, eq_comm]
  · obtain ⟨after, reached, -⟩ := concludes.answers fun fails => negative fails.1
    rw [reached]
    simp [negative]

theorem Context.startWithSettings_flawed (first : settings.FirstFlaw flaw)
    (describe : Int → String) (world : World) :
    startWithSettings describe settings world = (.error (.settings flaw), world) := by
  unfold startWithSettings
  rw [Policies.ofSettings_flawed first]

/-- Reading and building policies accept the same settings and refuse the others for the same
reason, the first level that cannot be read. So with a configuration that was obtained in any way
only the native library can fail, and it is not called with settings that are refused. -/
theorem Config.checks_agree :
    (∀ text, (read text = .error .malformed ↔ ofText? text = none) ∧
      ∀ config, ofText? text = some config →
        ∀ other, read text = .ok other ↔ other = config ∧ config.Usable) ∧
    (∀ config : Config, Text.trimChars config.logging.level.toList ≠ [] →
      config.validate =
        ((Policies.ofSettings config.calls).mapError InvalidConfig.level).map fun _ => ()) ∧
    (∀ settings flaw, Policies.ofSettings settings = .error flaw ↔ settings.FirstFlaw flaw) ∧
    (∀ settings flaw, CallSettings.FirstFlaw settings flaw →
      (ConfigError.invalid (.level flaw)).message =
          "Configuration error: " ++
            (flaw.field.path ++ ": invalid log level '" ++ settings.text flaw.field ++ "'") ∧
        (SetupError.settings flaw).message = (ConfigError.invalid (.level flaw)).message) ∧
    (∀ config : Config, config.Accepted → ∀ describe world error,
      (Context.startWithSettings describe config.calls world).1 = .error error ↔
        (NativeApi.initLibrary world.bus).1.code < 0 ∧
          error = .usb (Context.refusal describe world)) ∧
    ∀ settings flaw, Policies.ofSettings settings = .error flaw → ∀ describe world,
      Context.startWithSettings describe settings world = (.error (.settings flaw), world) := by
  refine ⟨fun text => ⟨read_eq_malformed_iff, fun config described _ => read_eq_ok_iff described⟩,
    ?_, fun _ _ => Policies.ofSettings_eq_error_iff, ?_, ?_, ?_⟩
  · intro config solid
    rw [ne_eq, Text.trimChars_eq_nil_iff, ← Text.isBlank_iff] at solid
    exact validate_eq solid
  · intro settings flaw first
    rw [← first.text]
    exact ⟨rfl, rfl⟩
  · intro config accepted describe world error
    exact Context.startWithSettings_readable accepted.usable.2 describe world error
  · intro settings flaw refused describe world
    exact Context.startWithSettings_flawed (Policies.ofSettings_eq_error_iff.mp refused) ..

/-- Of two levels that cannot be read the first one is named. -/
theorem Config.checks_agree_twice :
    let config : Config := { calls := { cleanupLevel := "loud", queryLevel := "off" } }
    let flaw : InvalidLevel := ⟨.cleanup, "loud"⟩
    config.validate = .error (.level flaw) ∧ config.calls.FirstFlaw flaw ∧
      Context.startWithSettings describeCode config.calls {} = (.error (.settings flaw), {}) := by
  intro config flaw
  obtain ⟨-, validates, flawed, -, -, refuses⟩ := checks_agree
  have refused : Policies.ofSettings config.calls = .error flaw := by decide
  refine ⟨?_, (flawed _ _).mp refused, refuses _ _ refused describeCode {}⟩
  rw [validates config (by decide), refused]
  rfl

end UsbHost
