import Mathlib.Data.List.TakeWhile
import UsbHost.Config.Reader
import UsbHost.Config.Writer
import UsbHost.Proofs.QuoteForms

/-!
# Written configurations are read back

A configuration is written line by line, and every line is read as the statement that it was
written for. The statements build the two tables again, so that reading what was written gives the
same configuration, whatever its texts are and whether it is valid or not.
-/

set_option autoImplicit false

namespace UsbHost

namespace Toml

variable {rest name : List Char} {first stop : Char}

/-! ## Bare keys -/

theorem skipSpaces_cons (solid : isSpace first = false) :
    skipSpaces (first :: rest) = first :: rest :=
  List.dropWhile_cons_of_neg (by simp [solid])

/-- The characters of a key without quotes, of which there is at least one. -/
structure BareKey (name : List Char) : Prop where
  nonempty : name ≠ []
  bare : ∀ c ∈ name, isBareKeyChar c

/-- No mark that a line may begin with, apart from a key, is a character of a bare key. -/
theorem isBareKeyChar_solid (bare : isBareKeyChar first) :
    isSpace first = false ∧ first ≠ '"' ∧ first ≠ '\'' ∧ first ≠ '[' ∧ first ≠ '#' ∧
      first ≠ '\n' ∧ first ≠ '\r' := by
  have other {c : Char} (outside : isBareKeyChar c = false) : first ≠ c := by
    rintro rfl
    exact absurd bare (by simp [outside])
  refine ⟨?_, other (by decide), other (by decide), other (by decide), other (by decide),
    other (by decide), other (by decide)⟩
  simp only [isSpace, Bool.or_eq_false_iff, beq_eq_false_iff_ne]
  exact ⟨other (by decide), other (by decide)⟩

theorem BareKey.exists_first (key : BareKey name) :
    ∃ first others, name = first :: others ∧ isBareKeyChar first := by
  obtain ⟨first, others, rfl⟩ := List.exists_cons_of_ne_nil key.nonempty
  exact ⟨first, others, rfl, key.bare first List.mem_cons_self⟩

theorem BareKey.skipSpaces_append (key : BareKey name) (rest : List Char) :
    skipSpaces (name ++ rest) = name ++ rest := by
  obtain ⟨first, others, rfl, bare⟩ := key.exists_first
  exact skipSpaces_cons (isBareKeyChar_solid bare).1

theorem BareKey.simpleKey? (key : BareKey name) (stops : isBareKeyChar stop = false) :
    simpleKey? (name ++ stop :: rest) = some (String.ofList name, stop :: rest) := by
  have unquoted : lineText? (name ++ stop :: rest) = none := by
    obtain ⟨first, others, rfl, bare⟩ := key.exists_first
    obtain ⟨-, double, single, -⟩ := isBareKeyChar_solid bare
    rw [List.cons_append, lineText?]
    · exact fun _ same => double (List.cons.inj same).1
    · exact fun _ same => single (List.cons.inj same).1
  have taken : (name ++ stop :: rest).takeWhile isBareKeyChar = name := by
    rw [List.takeWhile_append_of_pos key.bare, List.takeWhile_cons_of_neg (by simp [stops]),
      List.append_nil]
  have left : (name ++ stop :: rest).dropWhile isBareKeyChar = stop :: rest := by
    rw [List.dropWhile_append_of_pos key.bare, List.dropWhile_cons_of_neg (by simp [stops])]
  rw [Toml.simpleKey?, unquoted]
  dsimp only
  rw [taken, left, if_neg (by simp [key.nonempty])]

/-- A bare key is read up to a mark behind it, which is not a dot. -/
theorem BareKey.key? (key : BareKey name) (stops : isBareKeyChar stop = false) {mark : Char}
    {more : List Char} (next : skipSpaces (stop :: rest) = mark :: more) (noDot : mark ≠ '.') :
    key? (name ++ stop :: rest) = some (([], String.ofList name), mark :: more) := by
  have parts : keyParts? (name ++ stop :: rest) = some ([String.ofList name], mark :: more) := by
    rw [keyParts?, key.skipSpaces_append, key.simpleKey? stops]
    dsimp only
    rw [next]
    split
    · next same => exact absurd (List.cons.inj same).1 noDot
    · rfl
  rw [Toml.key?, parts]
  rfl

/-! ## Lines -/

/-- A line that is read as a statement, or as none, whatever stands behind it. -/
structure ReadsAs (line : List Char) (statement : Option Statement) : Prop where
  read : ∀ rest, line? (line ++ rest) = some (statement, rest)
  nonempty : line ≠ []

theorem lines?_append {line : List Char} {statement : Option Statement}
    (reads : ReadsAs line statement) (rest : List Char) :
    lines? (line ++ rest) = (lines? rest).map (statement.toList ++ ·) := by
  obtain ⟨first, others, rfl⟩ := List.exists_cons_of_ne_nil reads.nonempty
  rw [lines?, reads.read]
  · have shorter : rest.length < (first :: others ++ rest).length := by
      simp only [List.cons_append, List.length_cons, List.length_append]
      omega
    dsimp only
    rw [if_pos shorter]
  · simp

theorem lines?_flatMap (lines : List (List Char × Option Statement))
    (reads : ∀ line ∈ lines, ReadsAs line.1 line.2) :
    lines? (lines.flatMap Prod.fst) = some (lines.filterMap Prod.snd) := by
  induction lines with
  | nil => simp [lines?]
  | cons line lines ih =>
    obtain ⟨first, others⟩ := List.forall_mem_cons.mp reads
    rw [List.flatMap_cons, lines?_append first, ih others]
    cases statement : line.2 with
    | none => simp [statement]
    | some value => simp [statement]

theorem readsAs_empty : ReadsAs ['\n'] none where
  read := fun _ => rfl
  nonempty := by simp

theorem readsAs_header (key : BareKey name) :
    ReadsAs ('[' :: (name ++ [']', '\n'])) (some (.header [] (String.ofList name))) where
  read := by
    intro rest
    have single : ∀ more, name ++ ']' :: '\n' :: rest ≠ '[' :: more := by
      intro more same
      obtain ⟨first, others, rfl, bare⟩ := key.exists_first
      exact (isBareKeyChar_solid bare).2.2.2.1 (List.cons.inj same).1
    have line : '[' :: (name ++ [']', '\n']) ++ rest = '[' :: (name ++ ']' :: '\n' :: rest) := by
      simp
    have read : key? (name ++ ']' :: '\n' :: rest) =
        some (([], String.ofList name), ']' :: '\n' :: rest) :=
      key.key? (by decide) (skipSpaces_cons (by decide)) (by decide)
    rw [line, line?, skipSpaces_cons (by decide)]
    split
    · next same => exact absurd (List.cons.inj same).2 (single _)
    · next same =>
      obtain rfl := (List.cons.inj same).2
      rw [headerRest?, read]
      rfl
    · next other => exact absurd rfl (other _)
  nonempty := by simp

theorem lineEnd?_eq_none (bare : isBareKeyChar first) : lineEnd? (first :: rest) = none := by
  obtain ⟨solid, -, -, -, comment, lineFeed, noReturn⟩ := isBareKeyChar_solid bare
  have noComment : skipComment (first :: rest) = first :: rest := by
    rw [skipComment]
    exact fun _ same => comment (List.cons.inj same).1
  rw [lineEnd?, skipSpaces_cons solid, noComment]
  exact newline?_eq_none lineFeed noReturn

/-- What a value is written as: a value is read up to the end of the line, and does not begin with
a blank. -/
structure WrittenValue (written : List Char) (value : Value) : Prop where
  read : ∀ rest, value? maxDepth (written ++ '\n' :: rest) = some (value, '\n' :: rest)
  solid : ∀ rest, skipSpaces (written ++ rest) = written ++ rest

theorem readsAs_entry {written : List Char} {value : Value} (key : BareKey name)
    (writes : WrittenValue written value) :
    ReadsAs (name ++ [' ', '=', ' '] ++ written ++ ['\n'])
      (some (.entry [] (String.ofList name) value)) where
  read := by
    intro rest
    have line : name ++ [' ', '=', ' '] ++ written ++ ['\n'] ++ rest =
        name ++ ' ' :: '=' :: ' ' :: (written ++ '\n' :: rest) := by
      simp
    have read : key? (name ++ ' ' :: '=' :: ' ' :: (written ++ '\n' :: rest)) =
        some (([], String.ofList name), '=' :: ' ' :: (written ++ '\n' :: rest)) :=
      key.key? (by decide) rfl (by decide)
    have blank : skipSpaces (' ' :: (written ++ '\n' :: rest)) = written ++ '\n' :: rest :=
      writes.solid _
    have entry : keyedLine? (name ++ ' ' :: '=' :: ' ' :: (written ++ '\n' :: rest)) =
        some (.entry [] (String.ofList name) value, rest) := by
      rw [keyedLine?, read]
      simp only [Option.bind_eq_bind, Option.bind_some, expect, if_pos, blank, writes.read]
      rfl
    rw [line, line?, key.skipSpaces_append]
    obtain ⟨first, others, rfl, bare⟩ := key.exists_first
    have noHeader : first ≠ '[' := (isBareKeyChar_solid bare).2.2.2.1
    rw [List.cons_append] at entry ⊢
    split
    · next same => exact absurd (List.cons.inj same).1 noHeader
    · next same => exact absurd (List.cons.inj same).1 noHeader
    · rw [lineEnd?_eq_none bare, entry]
      rfl
  nonempty := by simp

/-! ## Values -/

theorem QuoteForm.write_first (form : QuoteForm) (text : List Char) :
    ∃ quote written, form.write text = quote :: written ∧ (quote = '"' ∨ quote = '\'') := by
  cases form with
  | basic => exact ⟨_, _, rfl, .inl rfl⟩
  | literal => exact ⟨_, _, rfl, .inr rfl⟩
  | multilineBasic => exact ⟨_, _, rfl, .inl rfl⟩
  | multilineLiteral => exact ⟨_, _, rfl, .inr rfl⟩

theorem value?_quoted {quote : Char} {text left : List Char} (either : quote = '"' ∨ quote = '\'')
    (reads : quotedText? (quote :: rest) = some (text, left)) (depth : Nat) :
    value? depth (quote :: rest) = some (.text (String.ofList text), left) := by
  rcases either with rfl | rfl <;> simp [value?, scalarValue?, reads]

theorem writtenValue_text (text : String) :
    WrittenValue (writeText text).toList (.text text) := by
  obtain ⟨quote, written, same, either⟩ := (QuoteForm.of text.toList).write_first text.toList
  have line : (writeText text).toList = quote :: written := by
    rw [writeText, String.toList_ofList, same]
  have reads (rest : List Char) : quotedText? (quote :: (written ++ '\n' :: rest)) =
      some (text.toList, '\n' :: rest) := by
    rw [← List.cons_append, ← same]
    exact quotedText?_write (QuoteForm.of_suits text.toList) (by simp) (by simp)
  rw [line]
  constructor
  · intro rest
    rw [List.cons_append, value?_quoted either (reads rest), String.ofList_toList]
  · intro rest
    rcases either with rfl | rfl <;> exact skipSpaces_cons (by decide)

theorem writtenValue_flag (flag : Bool) :
    WrittenValue (writeFlag flag).toList (.flag flag) := by
  cases flag with
  | true | false =>
    constructor
    · intro rest
      simp [writeFlag, value?, scalarValue?]
    · exact fun _ => rfl

end Toml

open Toml (Statement ReadsAs)

namespace Config

variable {config : Config}

/-- The lines of a written configuration, each with the statement that it is written for. -/
def writtenLines (config : Config) : List (List Char × Option Statement) :=
  [("[logging]\n".toList, some (.header [] "logging")),
    ((settingLine "level" (Toml.writeText config.logging.level)).toList,
      some (.entry [] "level" (.text config.logging.level))),
    ((settingLine "with_target" (Toml.writeFlag config.logging.withTarget)).toList,
      some (.entry [] "with_target" (.flag config.logging.withTarget))),
    ("\n".toList, none),
    ("[calls]\n".toList, some (.header [] "calls")),
    ((settingLine "failure_level" (Toml.writeText config.calls.failureLevel)).toList,
      some (.entry [] "failure_level" (.text config.calls.failureLevel))),
    ((settingLine "cleanup_level" (Toml.writeText config.calls.cleanupLevel)).toList,
      some (.entry [] "cleanup_level" (.text config.calls.cleanupLevel))),
    ((settingLine "query_level" (Toml.writeText config.calls.queryLevel)).toList,
      some (.entry [] "query_level" (.text config.calls.queryLevel)))]

theorem toList_written (config : Config) :
    config.written.toList = config.writtenLines.flatMap Prod.fst := by
  simp [written, LoggingSettings.written, CallSettings.written, writtenLines]

theorem readsAs_settingLine {key written : String} {value : Toml.Value}
    (bare : Toml.BareKey key.toList) (writes : Toml.WrittenValue written.toList value) :
    ReadsAs (settingLine key written).toList (some (.entry [] key value)) := by
  have reads := Toml.readsAs_entry bare writes
  rw [String.ofList_toList] at reads
  have line : (settingLine key written).toList =
      key.toList ++ [' ', '=', ' '] ++ written.toList ++ ['\n'] := by
    simp [settingLine]
  rw [line]
  exact reads

theorem readsAs_writtenLines (config : Config) :
    ∀ line ∈ config.writtenLines, ReadsAs line.1 line.2 := by
  have bare (key : String) (nonempty : key.toList ≠ []) (bare : key.toList.all Toml.isBareKeyChar) :
      Toml.BareKey key.toList := ⟨nonempty, List.all_eq_true.mp bare⟩
  simp only [writtenLines, List.forall_mem_cons, List.not_mem_nil, false_implies, implies_true,
    and_true]
  refine ⟨?_, ?_, ?_, ?_, ?_, ?_, ?_, ?_⟩
  · exact Toml.readsAs_header (bare "logging" (by simp) (by decide))
  · exact readsAs_settingLine (bare _ (by simp) (by decide)) (Toml.writtenValue_text _)
  · exact readsAs_settingLine (bare _ (by simp) (by decide)) (Toml.writtenValue_flag _)
  · exact Toml.readsAs_empty
  · exact Toml.readsAs_header (bare "calls" (by simp) (by decide))
  · exact readsAs_settingLine (bare _ (by simp) (by decide)) (Toml.writtenValue_text _)
  · exact readsAs_settingLine (bare _ (by simp) (by decide)) (Toml.writtenValue_text _)
  · exact readsAs_settingLine (bare _ (by simp) (by decide)) (Toml.writtenValue_text _)

theorem ofText?_written (config : Config) : ofText? config.written = some config := by
  have noMark : Toml.skipByteOrderMark config.written.toList = config.written.toList := by
    rw [toList_written]
    rfl
  have lines := Toml.lines?_flatMap config.writtenLines config.readsAs_writtenLines
  rw [ofText?, Toml.read?, noMark, toList_written, lines]
  rfl

end Config

/-! ## Validation -/

theorem Text.dropBlankEnd_eq_nil_iff {cs : List Char} :
    dropBlankEnd cs = [] ↔ ∀ c ∈ cs, isBlankChar c := by
  induction cs with
  | nil => simp [dropBlankEnd]
  | cons c cs ih =>
    rw [List.forall_mem_cons, ← ih, dropBlankEnd]
    split
    · next dropped => split <;> simp_all
    · next kept => simp_all

theorem Text.trimChars_eq_nil_iff {cs : List Char} :
    trimChars cs = [] ↔ ∀ c ∈ cs, isBlankChar c := by
  rw [trimChars, dropBlankEnd_eq_nil_iff]
  constructor
  · intro left c member
    rw [← List.takeWhile_append_dropWhile (p := isBlankChar) (l := cs)] at member
    rcases List.mem_append.mp member with front | back
    · exact List.mem_takeWhile_imp front
    · exact left c back
  · exact fun blank c member => blank c ((List.dropWhile_suffix _).subset member)

namespace Config

/-- The logging level is not blank once it is trimmed, and the level of every call can be read. -/
def Usable (config : Config) : Prop :=
  Text.trimChars config.logging.level.toList ≠ [] ∧
    ∀ field, ∃ level, Level.ofText? (config.calls.text field) = some level

variable {config : Config}

theorem level_eq_ok_iff {settings : CallSettings} {field : CallField} {level : Level} :
    settings.level field = .ok level ↔ Level.ofText? (settings.text field) = some level := by
  unfold CallSettings.level
  split
  · next found => simp [found]
  · next missing => simp [missing]

/-- The loop of the validation goes through if every level that it looks at can be read. -/
theorem forIn_level_eq_ok_iff (settings : CallSettings) (fields : List CallField) :
    (forIn fields PUnit.unit fun field _ => do
      let _ ← (settings.level field).mapError InvalidConfig.level
      pure (ForInStep.yield PUnit.unit)) = .ok PUnit.unit ↔
      ∀ field ∈ fields, ∃ level, settings.level field = .ok level := by
  induction fields with
  | nil => simp [pure, Except.pure]
  | cons field fields ih =>
    rw [List.forIn_cons, List.forall_mem_cons, ← ih]
    cases reads : settings.level field with
    | error invalid => simp [bind, Except.bind, Except.mapError]
    | ok level => simp [bind, Except.bind, Except.mapError, pure, Except.pure]

theorem validate_eq_ok_iff : config.validate = .ok () ↔ config.Usable := by
  have blank : Text.isBlank config.logging.level ↔
      Text.trimChars config.logging.level.toList = [] := by
    rw [Text.isBlank_iff, Text.trimChars_eq_nil_iff]
  have loop := forIn_level_eq_ok_iff config.calls [.failure, .cleanup, .query]
  have every : (∀ field ∈ [CallField.failure, .cleanup, .query],
      ∃ level, config.calls.level field = .ok level) ↔
        ∀ field, ∃ level, Level.ofText? (config.calls.text field) = some level := by
    simp only [← level_eq_ok_iff]
    refine ⟨fun reads field => reads field ?_, fun reads field _ => reads field⟩
    cases field <;> decide
  unfold validate Usable
  rw [ne_eq, ← blank, ← every, ← loop]
  by_cases isBlank : Text.isBlank config.logging.level
  · simp [isBlank, throw, throwThe, MonadExceptOf.throw, bind, Except.bind]
  · rw [if_neg isBlank, and_iff_right isBlank]
    simp

/-- Reading judges what was written as validation judges the configuration. -/
theorem read_eq_validate (config : Config) :
    read config.written = (match config.validate with
      | .error reason => .error (.invalid reason)
      | .ok () => .ok config) := by
  unfold read
  cases valid : config.validate with
  | error reason => simp only [ofText?_written, valid]
  | ok done => simp only [ofText?_written, valid]

theorem validate_of_read {text : String} (reads : read text = .ok config) :
    config.validate = .ok () := by
  unfold read at reads
  split at reads
  · contradiction
  · next config' _ =>
    split at reads
    · contradiction
    · next valid =>
      obtain rfl := Except.ok.inj reads
      exact valid

/-- What a configuration is written as is read as that configuration. If it is usable, reading
accepts it, and otherwise it gives the reason that validation gives. So what was once read from a
text survives being written. -/
theorem read_written (config : Config) :
    ofText? config.written = some config ∧
      (config.Usable → read config.written = .ok config) ∧
      (¬ config.Usable → ∃ reason, config.validate = .error reason ∧
        read config.written = .error (.invalid reason)) ∧
      ∀ text, read text = .ok config → read config.written = .ok config := by
  have judged := config.read_eq_validate
  have accepted (valid : config.validate = .ok ()) : read config.written = .ok config := by
    rw [judged, valid]
  refine ⟨config.ofText?_written, fun usable => accepted (validate_eq_ok_iff.mpr usable),
    fun unusable => ?_, fun text reads => accepted (validate_of_read reads)⟩
  cases verdict : config.validate with
  | ok done => exact absurd (validate_eq_ok_iff.mp verdict) unusable
  | error reason =>
    rw [verdict] at judged
    exact ⟨reason, rfl, judged⟩

end Config

end UsbHost
