import UsbHost.Proofs.Keyed
import UsbHost.Proofs.WrittenConfig

/-!
# Excerpts of written configurations

An excerpt of a written configuration keeps some of the settings, each with all its lines, and
leaves the others out. A group that keeps nothing may lose its header, the two groups may change
places, and empty lines may stand around them. Reading an excerpt gives the settings that were kept
and the default of every other one, whatever the texts of the settings look like.
-/

set_option autoImplicit false

namespace UsbHost

inductive SettingGroup where
  | logging
  | calls
  deriving DecidableEq

inductive Setting where
  | level
  | withTarget
  | failureLevel
  | cleanupLevel
  | queryLevel
  deriving DecidableEq

namespace SettingGroup

def name : SettingGroup → String
  | logging => "logging"
  | calls => "calls"

def header (group : SettingGroup) : String := "[" ++ group.name ++ "]\n"

def settings : SettingGroup → List Setting
  | logging => [.level, .withTarget]
  | calls => [.failureLevel, .cleanupLevel, .queryLevel]

end SettingGroup

namespace Setting

def key : Setting → String
  | level => "level"
  | withTarget => "with_target"
  | failureLevel => "failure_level"
  | cleanupLevel => "cleanup_level"
  | queryLevel => "query_level"

/-- What a configuration says for a setting. -/
def value (config : Config) : Setting → Toml.Value
  | level => .text config.logging.level
  | withTarget => .flag config.logging.withTarget
  | failureLevel => .text config.calls.failureLevel
  | cleanupLevel => .text config.calls.cleanupLevel
  | queryLevel => .text config.calls.queryLevel

def written (config : Config) : Setting → String
  | level => Toml.writeText config.logging.level
  | withTarget => Toml.writeFlag config.logging.withTarget
  | failureLevel => Toml.writeText config.calls.failureLevel
  | cleanupLevel => Toml.writeText config.calls.cleanupLevel
  | queryLevel => Toml.writeText config.calls.queryLevel

/-- The assignment of a setting, with the line break behind it. -/
def assignment (config : Config) (setting : Setting) : String :=
  settingLine setting.key (setting.written config)

/-- What a document says for a setting, as an entry of the table of its group. -/
def entry (config : Config) (setting : Setting) : String × Toml.Value :=
  (setting.key, setting.value config)

end Setting

/-- What is taken over from a written configuration, and how it is arranged. -/
structure Excerpt where
  keeps : Setting → Bool
  /-- Whether a group has a header even if it keeps nothing. -/
  headed : SettingGroup → Bool := fun _ => true
  exchanged : Bool := false
  emptyAbove : Nat := 0
  emptyBetween : Nat := 1
  emptyBelow : Nat := 0

namespace Excerpt

variable (excerpt : Excerpt) (config : Config) (group : SettingGroup)

def kept : List Setting := group.settings.filter excerpt.keeps

def hasHeader : Bool := excerpt.headed group || !(excerpt.kept group).isEmpty

def groupText : String :=
  (if excerpt.hasHeader group then group.header else "") ++
    String.join ((excerpt.kept group).map (Setting.assignment config))

def first : SettingGroup := if excerpt.exchanged then .calls else .logging

def second : SettingGroup := if excerpt.exchanged then .logging else .calls

def emptyLines (count : Nat) : String := String.join (List.replicate count "\n")

def text : String :=
  emptyLines excerpt.emptyAbove ++ excerpt.groupText config excerpt.first ++
    emptyLines excerpt.emptyBetween ++ excerpt.groupText config excerpt.second ++
    emptyLines excerpt.emptyBelow

end Excerpt

/-! ## Entries of a table -/

namespace Toml

theorem Entries.get?_eq_none_iff {entries : Entries} {key : String} :
    entries.get? key = none ↔ key ∉ entries.map Prod.fst := by
  rw [get?, Option.map_eq_none_iff]
  exact Keyed.find?_eq_none_iff

theorem Entries.get?_eq_some {entries : Entries} (distinct : (entries.map Prod.fst).Nodup)
    {key : String} {value : Value} (member : (key, value) ∈ entries) :
    entries.get? key = some value := by
  have found : (entries.find? fun entry => entry.1 == key) = some (key, value) :=
    (Keyed.find?_eq_some_iff distinct).mpr ⟨member, rfl⟩
  rw [get?, found]
  rfl

theorem Entries.get?_add {entries : Entries} {key : String} (absent : entries.get? key = none)
    (value : Value) : (entries.add key value).get? key = some value := by
  have missing : (entries.find? fun entry => entry.1 == key) = none := by
    simpa [get?] using absent
  simp [add, get?, missing]

theorem Entries.replace_add {entries : Entries} {key : String} (absent : entries.get? key = none)
    (old new : Value) : (entries.add key old).replace key new = entries.add key new := by
  have kept : entries.replace key new = entries := by
    rw [get?_eq_none_iff] at absent
    conv_rhs => rw [← List.map_id entries]
    apply List.map_congr_left
    intro entry member
    rw [if_neg]
    · rfl
    · intro same
      exact absent (List.mem_map.mpr ⟨entry, member, eq_of_beq same⟩)
  have added : (entries.add key old).replace key new = (entries.replace key new).add key new := by
    simp [add, replace]
  rw [added, kept]

/-! ## Groups of a document -/

variable {before : Entries} {name : String}

/-- The statement of one line of a group. -/
def Statement.ofEntry (entry : String × Value) : Statement := .entry [] entry.1 entry.2

theorem Draft.add_entry (absent : before.get? name = none) {entries : Entries} {key : String}
    (new : key ∉ entries.map Prod.fst) (value : Value) :
    Draft.add ⟨[name], before.add name (.table .defined entries)⟩ (.entry [] key value) =
      some ⟨[name], before.add name (.table .defined (entries.add key value))⟩ := by
  have inner : addBelow [] key value .defined entries = some (entries.add key value) := by
    have free : entries.get? key = none := Entries.get?_eq_none_iff.mpr new
    simp [addBelow, changeAt, addEntry, free]
  simp [Draft.add, changeAt, Entries.get?_add absent, inner, Entries.replace_add absent]

theorem Draft.foldlM_entries (absent : before.get? name = none) (more entries : Entries)
    (distinct : ((entries ++ more).map Prod.fst).Nodup) :
    (more.map Statement.ofEntry).foldlM Draft.add
        ⟨[name], before.add name (.table .defined entries)⟩ =
      some ⟨[name], before.add name (.table .defined (entries ++ more))⟩ := by
  induction more generalizing entries with
  | nil => simp
  | cons entry more ih =>
    obtain ⟨key, value⟩ := entry
    have grown : entries ++ (key, value) :: more = entries.add key value ++ more := by
      simp [Entries.add]
    have new : key ∉ entries.map Prod.fst := by
      intro member
      rw [List.map_append, List.nodup_append] at distinct
      exact distinct.2.2 key member key (by simp) rfl
    rw [List.map_cons, List.foldlM_cons, Statement.ofEntry, Draft.add_entry absent new]
    rw [grown] at distinct ⊢
    exact ih _ distinct

/-- A header and the lines below it make one table, if nothing has its name yet. -/
theorem Draft.foldlM_group (current : List String) (absent : before.get? name = none)
    {entries : Entries} (distinct : (entries.map Prod.fst).Nodup) :
    (.header [] name :: entries.map Statement.ofEntry).foldlM Draft.add ⟨current, before⟩ =
      some ⟨[name], before.add name (.table .defined entries)⟩ := by
  have opened : Draft.add ⟨current, before⟩ (.header [] name) =
      some ⟨[name], before.add name (.table .defined [])⟩ := by
    simp [Draft.add, changeAt, defineTable, absent]
  rw [List.foldlM_cons, opened]
  exact Draft.foldlM_entries absent entries [] distinct

/-- No line begins with a byte order mark. -/
theorem line?_mark (rest : List Char) : line? ('\ufeff' :: rest) = none := by
  have noKey : simpleKey? ('\ufeff' :: rest) = none := by
    simp [simpleKey?, lineText?, isBareKeyChar]
  simp [line?, skipSpaces, isSpace, lineEnd?, skipComment, newline?, keyedLine?, key?, keyParts?,
    noKey]

theorem skipByteOrderMark_flatMap {lines : List (List Char × Option Statement)}
    (reads : ∀ line ∈ lines, ReadsAs line.1 line.2) :
    skipByteOrderMark (lines.flatMap Prod.fst) = lines.flatMap Prod.fst := by
  cases lines with
  | nil => rfl
  | cons line lines =>
    have first := reads line List.mem_cons_self
    obtain ⟨mark, others, same⟩ := List.exists_cons_of_ne_nil first.nonempty
    rw [List.flatMap_cons, same, List.cons_append, skipByteOrderMark]
    rintro rest marked
    have read := first.read rest
    rw [same, (List.cons.inj marked).1, List.cons_append, line?_mark] at read
    contradiction

end Toml

open Toml (Statement ReadsAs)

namespace Excerpt

variable (excerpt : Excerpt) (config : Config) (group : SettingGroup)

/-! ## Lines and statements -/

def entries : Toml.Entries := (excerpt.kept group).map (Setting.entry config)

def statements : List Statement :=
  if excerpt.hasHeader group then
    .header [] group.name :: (excerpt.entries config group).map Statement.ofEntry
  else []

def groupLines : List (List Char × Option Statement) :=
  (if excerpt.hasHeader group then [(group.header.toList, some (.header [] group.name))] else []) ++
    (excerpt.kept group).map fun setting =>
      ((setting.assignment config).toList, some (.ofEntry (setting.entry config)))

def emptyLine : List Char × Option Statement := ("\n".toList, none)

/-- The lines of an excerpt, each with the statement that it is read as. -/
def lines : List (List Char × Option Statement) :=
  List.replicate excerpt.emptyAbove emptyLine ++ excerpt.groupLines config excerpt.first ++
    List.replicate excerpt.emptyBetween emptyLine ++ excerpt.groupLines config excerpt.second ++
    List.replicate excerpt.emptyBelow emptyLine

theorem toList_emptyLines (count : Nat) :
    (emptyLines count).toList = (List.replicate count emptyLine).flatMap Prod.fst := by
  induction count with
  | zero => rfl
  | succ count ih => simp_all [emptyLines, emptyLine, List.replicate_succ]

theorem toList_groupText :
    (excerpt.groupText config group).toList =
      (excerpt.groupLines config group).flatMap Prod.fst := by
  cases shown : excerpt.hasHeader group with
  | true | false => simp [groupText, groupLines, shown, List.flatMap_map]

theorem toList_text :
    (excerpt.text config).toList = (excerpt.lines config).flatMap Prod.fst := by
  simp only [text, lines, String.toList_append, List.flatMap_append, toList_emptyLines,
    toList_groupText]

theorem statements_groupLines :
    (excerpt.groupLines config group).filterMap Prod.snd = excerpt.statements config group := by
  have kept : ((excerpt.kept group).map fun setting : Setting =>
      ((setting.assignment config).toList,
        some (Statement.ofEntry (setting.entry config)))).filterMap Prod.snd =
          (excerpt.entries config group).map .ofEntry := by
    simp [entries, List.filterMap_map, Function.comp_def]
  cases shown : excerpt.hasHeader group with
  | true => simp [groupLines, statements, shown, kept]
  | false =>
    -- A group without a header keeps nothing.
    have nothing : excerpt.kept group = [] := by
      simp_all [hasHeader]
    simp [groupLines, statements, shown, nothing]

theorem statements_lines :
    (excerpt.lines config).filterMap Prod.snd =
      excerpt.statements config excerpt.first ++ excerpt.statements config excerpt.second := by
  simp [lines, emptyLine, List.filterMap_append, statements_groupLines]

end Excerpt

theorem SettingGroup.readsAs_header (group : SettingGroup) :
    ReadsAs group.header.toList (some (.header [] group.name)) := by
  have reads (bare : Toml.BareKey group.name.toList) :
      ReadsAs group.header.toList (some (.header [] group.name)) := by
    simpa [header] using Toml.readsAs_header bare
  cases group with
  | logging | calls => exact reads ⟨by simp [name], List.all_eq_true.mp (by decide)⟩

theorem Setting.readsAs_assignment (config : Config) (setting : Setting) :
    ReadsAs (setting.assignment config).toList (some (.ofEntry (setting.entry config))) := by
  have bare : Toml.BareKey setting.key.toList := by
    cases setting with
    | level | withTarget | failureLevel | cleanupLevel | queryLevel =>
      exact ⟨by simp [key], List.all_eq_true.mp (by decide)⟩
  apply Config.readsAs_settingLine bare
  cases setting with
  | withTarget => exact Toml.writtenValue_flag _
  | level | failureLevel | cleanupLevel | queryLevel => exact Toml.writtenValue_text _

namespace Excerpt

theorem readsAs_groupLines (excerpt : Excerpt) (config : Config) (group : SettingGroup) :
    ∀ line ∈ excerpt.groupLines config group, ReadsAs line.1 line.2 := by
  intro line member
  rcases List.mem_append.mp member with header | kept
  · split at header
    · obtain rfl := List.mem_singleton.mp header
      exact group.readsAs_header
    · contradiction
  · obtain ⟨setting, -, rfl⟩ := List.mem_map.mp kept
    exact setting.readsAs_assignment config

theorem readsAs_lines (excerpt : Excerpt) (config : Config) :
    ∀ line ∈ excerpt.lines config, ReadsAs line.1 line.2 := by
  have empty (count : Nat) : ∀ line ∈ List.replicate count emptyLine, ReadsAs line.1 line.2 := by
    intro line member
    obtain rfl := List.eq_of_mem_replicate member
    exact Toml.readsAs_empty
  simp only [lines, List.forall_mem_append]
  exact ⟨⟨⟨⟨empty _, excerpt.readsAs_groupLines config _⟩, empty _⟩,
    excerpt.readsAs_groupLines config _⟩, empty _⟩

/-- An excerpt is read as the statements of its groups, in their order. -/
theorem read?_text (excerpt : Excerpt) (config : Config) :
    Toml.read? (excerpt.text config) =
      Toml.document?
        (excerpt.statements config excerpt.first ++ excerpt.statements config excerpt.second) := by
  have reads := excerpt.readsAs_lines config
  rw [Toml.read?, toList_text, Toml.skipByteOrderMark_flatMap reads,
    Toml.lines?_flatMap _ reads, statements_lines]
  rfl

/-! ## The document -/

theorem distinct_entries (excerpt : Excerpt) (config : Config) (group : SettingGroup) :
    ((excerpt.entries config group).map Prod.fst).Nodup := by
  have keys : (excerpt.entries config group).map Prod.fst =
      (excerpt.kept group).map Setting.key := by
    rw [entries, List.map_map]
    rfl
  have distinct : (group.settings.map Setting.key).Nodup := by
    cases group with
    | logging | calls => decide
  rw [keys]
  exact distinct.sublist (List.filter_sublist.map _)

/-- The part of the document that comes of a group. -/
def part (excerpt : Excerpt) (config : Config) (group : SettingGroup) : Toml.Entries :=
  if excerpt.hasHeader group then
    [(group.name, .table .defined (excerpt.entries config group))]
  else []

theorem foldlM_statements (excerpt : Excerpt) (config : Config) (group : SettingGroup)
    {before : Toml.Entries} (absent : before.get? group.name = none) (current : List String) :
    ∃ last, (excerpt.statements config group).foldlM Toml.Draft.add ⟨current, before⟩ =
      some ⟨last, before ++ excerpt.part config group⟩ := by
  cases shown : excerpt.hasHeader group with
  | true =>
    refine ⟨[group.name], ?_⟩
    have built := Toml.Draft.foldlM_group current absent (excerpt.distinct_entries config group)
    simpa [statements, part, shown, Toml.Entries.add] using built
  | false => exact ⟨current, by simp [statements, part, shown]⟩

theorem document?_statements (excerpt : Excerpt) (config : Config) :
    Toml.document?
        (excerpt.statements config excerpt.first ++ excerpt.statements config excerpt.second) =
      some (excerpt.part config excerpt.first ++ excerpt.part config excerpt.second) := by
  have empty : Toml.Entries.get? [] excerpt.first.name = none := rfl
  obtain ⟨current, opening⟩ := excerpt.foldlM_statements config excerpt.first empty []
  have absent : (excerpt.part config excerpt.first).get? excerpt.second.name = none := by
    rw [part]
    split
    · cases changed : excerpt.exchanged with
      | true | false => simp [first, second, changed, Toml.Entries.get?, SettingGroup.name]
    · rfl
  obtain ⟨last, closing⟩ := excerpt.foldlM_statements config excerpt.second absent current
  rw [Toml.document?, List.foldlM_append]
  simp only [List.nil_append] at opening
  simp [opening, closing]

theorem get?_document (excerpt : Excerpt) (config : Config) (group : SettingGroup) :
    (excerpt.part config excerpt.first ++ excerpt.part config excerpt.second).get? group.name =
      if excerpt.hasHeader group then
        some (.table .defined (excerpt.entries config group))
      else none := by
  have chosen (group other : SettingGroup) :
      (excerpt.part config group).get? other.name =
        if excerpt.hasHeader group ∧ group = other then
          some (.table .defined (excerpt.entries config group))
        else none := by
    cases shown : excerpt.hasHeader group <;> cases group <;> cases other <;>
      simp [part, shown, Toml.Entries.get?, SettingGroup.name]
  have joined : (excerpt.part config excerpt.first ++ excerpt.part config excerpt.second).get?
      group.name = ((excerpt.part config excerpt.first).get? group.name).or
        ((excerpt.part config excerpt.second).get? group.name) := by
    simp only [Toml.Entries.get?, List.find?_append]
    cases (excerpt.part config excerpt.first).find? fun entry => entry.1 == group.name <;> rfl
  rw [joined, chosen, chosen]
  cases changed : excerpt.exchanged <;> cases group <;> simp [first, second, changed]

end Excerpt

theorem Setting.key_injective {setting other : Setting} (same : setting.key = other.key) :
    setting = other := by
  cases setting <;> cases other <;> first | rfl | simp [key] at same

namespace Excerpt

/-! ## What is read -/

theorem get?_entries (excerpt : Excerpt) (config : Config) (group : SettingGroup)
    (setting : Setting) (member : setting ∈ group.settings) :
    (excerpt.entries config group).get? setting.key =
      if excerpt.keeps setting then some (setting.value config) else none := by
  split
  · next keeps =>
    apply Toml.Entries.get?_eq_some (excerpt.distinct_entries config group)
    exact List.mem_map.mpr ⟨setting, List.mem_filter.mpr ⟨member, keeps⟩, rfl⟩
  · next drops =>
    rw [Toml.Entries.get?_eq_none_iff]
    intro present
    obtain ⟨entry, listed, same⟩ := List.mem_map.mp present
    obtain ⟨other, kept, rfl⟩ := List.mem_map.mp listed
    obtain rfl := Setting.key_injective same
    exact drops (List.mem_filter.mp kept).2

/-- A group without a header keeps none of its settings. -/
theorem drops_of_headless (excerpt : Excerpt) {group : SettingGroup}
    (headless : excerpt.hasHeader group = false) {setting : Setting}
    (member : setting ∈ group.settings) : excerpt.keeps setting = false := by
  cases keeps : excerpt.keeps setting with
  | false => rfl
  | true =>
    have kept : setting ∈ excerpt.kept group := List.mem_filter.mpr ⟨member, keeps⟩
    simp only [hasHeader, Bool.or_eq_false_iff, Bool.not_eq_false', List.isEmpty_iff] at headless
    rw [headless.2] at kept
    contradiction

/-- The configuration of the settings that are kept and the defaults of the others. -/
def restriction (excerpt : Excerpt) (config : Config) : Config where
  logging :=
    { level := if excerpt.keeps .level then config.logging.level else "info"
      withTarget := if excerpt.keeps .withTarget then config.logging.withTarget else true }
  calls :=
    { failureLevel := if excerpt.keeps .failureLevel then config.calls.failureLevel else "error"
      cleanupLevel := if excerpt.keeps .cleanupLevel then config.calls.cleanupLevel else "error"
      queryLevel := if excerpt.keeps .queryLevel then config.calls.queryLevel else "error" }

theorem value_restriction (excerpt : Excerpt) (config : Config) (setting : Setting) :
    setting.value (excerpt.restriction config) =
      if excerpt.keeps setting then setting.value config else setting.value {} := by
  cases setting with
  | level | withTarget | failureLevel | cleanupLevel | queryLevel =>
    simp only [Setting.value, restriction]
    split <;> rfl

theorem logging_read (excerpt : Excerpt) (config : Config) :
    groupOr {} LoggingSettings.ofValue?
        (if excerpt.hasHeader .logging then
          some (.table .defined (excerpt.entries config .logging)) else none) =
      some (excerpt.restriction config).logging := by
  split
  · have level := excerpt.get?_entries config .logging .level (by decide)
    have withTarget := excerpt.get?_entries config .logging .withTarget (by decide)
    simp only [Setting.key, Setting.value] at level withTarget
    simp only [groupOr, LoggingSettings.ofValue?, Toml.Value.settings?, Option.bind_eq_bind,
      Option.bind_some, level, withTarget, restriction]
    cases excerpt.keeps .level <;> cases excerpt.keeps .withTarget <;> rfl
  · next headless =>
    have drops (setting : Setting) (member : setting ∈ SettingGroup.logging.settings) :
        excerpt.keeps setting = false :=
      excerpt.drops_of_headless (by simpa using headless) member
    simp [groupOr, restriction, drops .level (by decide), drops .withTarget (by decide)]

theorem calls_read (excerpt : Excerpt) (config : Config) :
    groupOr {} CallSettings.ofValue?
        (if excerpt.hasHeader .calls then
          some (.table .defined (excerpt.entries config .calls)) else none) =
      some (excerpt.restriction config).calls := by
  split
  · have failure := excerpt.get?_entries config .calls .failureLevel (by decide)
    have cleanup := excerpt.get?_entries config .calls .cleanupLevel (by decide)
    have query := excerpt.get?_entries config .calls .queryLevel (by decide)
    simp only [Setting.key, Setting.value] at failure cleanup query
    simp only [groupOr, CallSettings.ofValue?, Toml.Value.settings?, Option.bind_eq_bind,
      Option.bind_some, failure, cleanup, query, restriction]
    cases excerpt.keeps .failureLevel <;> cases excerpt.keeps .cleanupLevel <;>
      cases excerpt.keeps .queryLevel <;> rfl
  · next headless =>
    have drops (setting : Setting) (member : setting ∈ SettingGroup.calls.settings) :
        excerpt.keeps setting = false :=
      excerpt.drops_of_headless (by simpa using headless) member
    simp [groupOr, restriction, drops .failureLevel (by decide), drops .cleanupLevel (by decide),
      drops .queryLevel (by decide)]

theorem ofText?_text (excerpt : Excerpt) (config : Config) :
    Config.ofText? (excerpt.text config) = some (excerpt.restriction config) := by
  have logging := excerpt.get?_document config .logging
  have calls := excerpt.get?_document config .calls
  simp only [SettingGroup.name] at logging calls
  simp only [Config.ofText?, read?_text, document?_statements, Option.bind_eq_bind,
    Option.bind_some, Config.ofDocument?, logging, calls, logging_read, calls_read]
  rfl

/-- Keeping everything in its place takes over the whole text. -/
theorem text_of_all (config : Config) :
    ({ keeps := fun _ => true } : Excerpt).text config = config.written := by
  simp [text, groupText, emptyLines, kept, hasHeader, first, second, SettingGroup.settings,
    SettingGroup.header, SettingGroup.name, Setting.assignment, Setting.key, Setting.written,
    Config.written, LoggingSettings.written, CallSettings.written, String.append_assoc]

end Excerpt

/-- An excerpt of what a configuration is written as is read as the configuration that agrees with
it on the settings that are kept and has the default of every other setting. -/
theorem Config.ofText?_excerpt (config : Config) :
    ({ keeps := fun _ => true } : Excerpt).text config = config.written ∧
      ∀ excerpt : Excerpt, ∃ picked,
        Config.ofText? (excerpt.text config) = some picked ∧
          ∀ setting : Setting, setting.value picked =
            if excerpt.keeps setting then setting.value config else setting.value {} := by
  refine ⟨Excerpt.text_of_all config, ?_⟩
  intro excerpt
  exact ⟨excerpt.restriction config, excerpt.ofText?_text config,
    excerpt.value_restriction config⟩

end UsbHost
