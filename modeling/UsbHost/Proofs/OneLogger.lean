import UsbHost.Proofs.Printing

/-!
# One logger for a process

A process may try to set up logging any number of times. The first attempt whose filter can be read
installs the logger, and nothing that happens before or after it has any influence on what is
printed. Attempts that fail leave no trace.
-/

set_option autoImplicit false

namespace UsbHost.Logging

/-- The filter of an attempt, as it is written: the one from the environment if there is one that
can be read, and otherwise the one of the settings. -/
def filterText (environment : Option String) (settings : LoggingSettings) : String :=
  (environment.filter fun text => (Filter.read text).isOk).getD settings.level

theorem chooseFilter_eq (environment : Option String) (settings : LoggingSettings) :
    chooseFilter environment settings = Filter.read (filterText environment settings) := by
  cases environment with
  | none => rfl
  | some text =>
    have chosen : filterText (some text) settings =
        if (Filter.read text).isOk then text else settings.level := by
      rw [filterText, Option.filter]
      split <;> rfl
    cases read : Filter.read text with
    | error error => simp [chooseFilter, chosen, read, Except.isOk, Except.toBool]
    | ok filter => simp [chooseFilter, chosen, read, Except.isOk, Except.toBool]

/-! ## One attempt -/

/-- What can become of an attempt in a process that has a logger or none. -/
inductive Attempt (text : String) (withTarget : Bool) :
    Option Logger → Except SetupError Unit × Option Logger → Prop where
  | unread {installed error} : Filter.read text = .error error →
      Attempt text withTarget installed (.error (.filter error), installed)
  | installs {filter} : Filter.read text = .ok filter →
      Attempt text withTarget none (.ok (), some { filter, withTarget })
  | late {filter logger} : Filter.read text = .ok filter →
      Attempt text withTarget (some logger) (.error .alreadyInstalled, some logger)

theorem setup_attempt (environment : Option String) (settings : LoggingSettings)
    (installed : Option Logger) :
    Attempt (filterText environment settings) settings.withTarget installed
      (setup environment settings installed) := by
  unfold setup
  rw [chooseFilter_eq]
  cases read : Filter.read (filterText environment settings) with
  | error error => exact .unread read
  | ok filter =>
    cases installed with
    | none => exact .installs read
    | some logger => exact .late read

/-! ## A process -/

variable (environment : Option String)

theorem setupAll_append (earlier later : List LoggingSettings) (installed : Option Logger) :
    setupAll environment (earlier ++ later) installed =
      let (results, middle) := setupAll environment earlier installed
      let (more, last) := setupAll environment later middle
      (results ++ more, last) := by
  induction earlier generalizing installed with
  | nil => rfl
  | cons settings earlier ih =>
    simp only [List.cons_append, setupAll, ih]

theorem length_setupAll (calls : List LoggingSettings) (installed : Option Logger) :
    (setupAll environment calls installed).1.length = calls.length := by
  induction calls generalizing installed with
  | nil => rfl
  | cons settings calls ih => exact congrArg (· + 1) (ih _)

variable (calls : List LoggingSettings)

/-- What the attempts of a fresh process answer. -/
def results : List (Except SetupError Unit) := (setupAll environment calls none).1

/-- The logger of a fresh process after its first `count` attempts. -/
def loggerAfter (count : Nat) : Option Logger := (setupAll environment (calls.take count) none).2

/-- What is printed of a record after the first `count` attempts. -/
def printedAfter (count : Nat) (record : Record) : Option String :=
  (loggerAfter environment calls count).bind (·.print? record)

def Answers (place : Nat) (result : Except SetupError Unit) : Prop :=
  (results environment calls)[place]? = some result

def Installs (place : Nat) : Prop := Answers environment calls place (.ok ())

variable {environment calls} {place : Nat} {settings : LoggingSettings}

/-- An attempt in the middle of a process is an attempt with the logger that is there by then. -/
theorem attempt_at (environment : Option String) (made : calls[place]? = some settings) :
    ∃ result, Answers environment calls place result ∧
      Attempt (filterText environment settings) settings.withTarget
        (loggerAfter environment calls place)
        (result, loggerAfter environment calls (place + 1)) := by
  have inside : place < calls.length := (List.getElem?_eq_some_iff.mp made).1
  have whole : calls = calls.take place ++ settings :: calls.drop (place + 1) := by
    obtain ⟨_, rfl⟩ := List.getElem?_eq_some_iff.mp made
    simp
  have upTo : calls.take (place + 1) = calls.take place ++ [settings] := by
    rw [List.take_add_one, made]
    rfl
  have before : (setupAll environment (calls.take place) none).1.length = place := by
    rw [length_setupAll, List.length_take, Nat.min_eq_left (Nat.le_of_lt inside)]
  refine ⟨(setup environment settings (loggerAfter environment calls place)).1, ?_, ?_⟩
  · have split : results environment calls =
        (setupAll environment (calls.take place) none).1 ++
          (setupAll environment (settings :: calls.drop (place + 1))
            (loggerAfter environment calls place)).1 := by
      calc results environment calls
          = (setupAll environment
              (calls.take place ++ settings :: calls.drop (place + 1)) none).1 := by
            rw [← whole]
            rfl
        _ = _ := by
            rw [setupAll_append]
            rfl
    rw [Answers, split, List.getElem?_append_right (Nat.le_of_eq before), before, Nat.sub_self]
    rfl
  · have after : loggerAfter environment calls (place + 1) =
        (setup environment settings (loggerAfter environment calls place)).2 := by
      rw [loggerAfter, upTo, setupAll_append]
      rfl
    rw [after]
    exact setup_attempt ..

/-! ## The first that can be read -/

/-- The logger that an attempt installs if it is the one to install it. -/
def Makes (environment : Option String) (calls : List LoggingSettings) (place : Nat)
    (logger : Logger) : Prop :=
  ∃ settings, calls[place]? = some settings ∧
    Filter.read (filterText environment settings) = .ok logger.filter ∧
    logger.withTarget = settings.withTarget

inductive Standing (environment : Option String) (calls : List LoggingSettings) (count : Nat) :
    Option Logger → Prop where
  | fresh : (∀ place < count, ¬ Installs environment calls place) →
      Standing environment calls count none
  | taken {place logger} : place < count → Installs environment calls place →
      Makes environment calls place logger →
      (∀ other < count, Installs environment calls other → other = place) →
      Standing environment calls count (some logger)

theorem Standing.keep {count : Nat} {installed : Option Logger}
    (standing : Standing environment calls count installed)
    (not : ¬ Installs environment calls count) :
    Standing environment calls (count + 1) installed := by
  cases standing with
  | fresh none =>
    refine .fresh fun place below => ?_
    rcases Nat.lt_succ_iff_lt_or_eq.mp below with before | rfl
    · exact none place before
    · exact not
  | taken below installs makes only =>
    refine .taken (Nat.lt_succ_of_lt below) installs makes fun other near again => ?_
    rcases Nat.lt_succ_iff_lt_or_eq.mp near with before | rfl
    · exact only other before again
    · exact absurd again not

theorem Standing.first {count : Nat} {logger : Logger}
    (standing : Standing environment calls count none)
    (installs : Installs environment calls count)
    (makes : Makes environment calls count logger) :
    Standing environment calls (count + 1) (some logger) := by
  cases standing with
  | fresh none =>
    refine .taken (Nat.lt_succ_self _) installs makes fun other near again => ?_
    rcases Nat.lt_succ_iff_lt_or_eq.mp near with before | same
    · exact absurd again (none other before)
    · exact same

theorem Answers.unique {result other : Except SetupError Unit}
    (answers : Answers environment calls place result)
    (also : Answers environment calls place other) : result = other :=
  Option.some.inj (answers.symm.trans also)

theorem standing (environment : Option String) (calls : List LoggingSettings) (count : Nat) :
    Standing environment calls count (loggerAfter environment calls count) := by
  induction count with
  | zero => exact .fresh fun _ below => absurd below (Nat.not_lt_zero _)
  | succ count ih =>
    cases made : calls[count]? with
    | none =>
      have beyond : calls.length ≤ count := List.getElem?_eq_none_iff.mp made
      have same :
          loggerAfter environment calls (count + 1) = loggerAfter environment calls count := by
        rw [loggerAfter, loggerAfter, List.take_of_length_le beyond,
          List.take_of_length_le (Nat.le_succ_of_le beyond)]
      have unanswered : (results environment calls)[count]? = none := by
        rw [List.getElem?_eq_none_iff, results, length_setupAll]
        exact beyond
      rw [same]
      refine ih.keep fun installs => ?_
      exact absurd (unanswered.symm.trans installs) (by simp)
    | some settings =>
      obtain ⟨result, answered, attempt⟩ := attempt_at environment made
      generalize loggerAfter environment calls (count + 1) = after at attempt ⊢
      generalize loggerAfter environment calls count = before at attempt ih
      cases attempt with
      | unread => exact ih.keep fun installs => nomatch answered.unique installs
      | installs read => exact ih.first answered ⟨settings, made, read, rfl⟩
      | late => exact ih.keep fun installs => nomatch answered.unique installs

theorem loggerAfter_eq_none {count : Nat}
    (none : ∀ place < count, ¬ Installs environment calls place) :
    loggerAfter environment calls count = .none := by
  have standing := standing environment calls count
  generalize loggerAfter environment calls count = installed at standing ⊢
  cases standing with
  | fresh => rfl
  | taken below installs => exact absurd installs (none _ below)

theorem loggerAfter_eq_some {count : Nat} {filter : Filter} (below : place < count)
    (installs : Installs environment calls place) (made : calls[place]? = some settings)
    (read : Filter.read (filterText environment settings) = .ok filter) :
    loggerAfter environment calls count = some { filter, withTarget := settings.withTarget } := by
  have standing := standing environment calls count
  generalize loggerAfter environment calls count = installed at standing ⊢
  cases standing with
  | fresh none => exact absurd installs (none place below)
  | @taken _ logger _ _ makes only =>
    obtain rfl := only place below installs
    obtain ⟨made', same, read', withTarget⟩ := makes
    obtain rfl := Option.some.inj (made.symm.trans same)
    obtain rfl := Except.ok.inj (read.symm.trans read')
    obtain ⟨_, _⟩ := logger
    exact congrArg some (Logger.mk.injEq .. ▸ ⟨rfl, withTarget⟩)

/-- After attempts that failed the rest of the process goes as if it were the whole of it. -/
theorem afresh {count : Nat} (none : ∀ place < count, ¬ Installs environment calls place) :
    results environment calls =
        results environment (calls.take count) ++ results environment (calls.drop count) ∧
      ∀ more, loggerAfter environment calls (count + more) =
        loggerAfter environment (calls.drop count) more := by
  have vacant : (setupAll environment (calls.take count) .none).2 = .none :=
    loggerAfter_eq_none none
  constructor
  · calc results environment calls
        = (setupAll environment (calls.take count ++ calls.drop count) .none).1 := by
          rw [List.take_append_drop]
          rfl
      _ = _ := by
          rw [setupAll_append]
          dsimp only
          rw [vacant]
          rfl
  · intro more
    rw [loggerAfter, List.take_add, setupAll_append]
    dsimp only
    rw [vacant]
    rfl

theorem once {other : Nat} (installs : Installs environment calls place)
    (again : Installs environment calls other) : place = other := by
  have standing := standing environment calls (max place other + 1)
  generalize loggerAfter environment calls (max place other + 1) = logger at standing
  cases standing with
  | fresh none => exact absurd installs (none place (by omega))
  | taken _ _ _ only =>
    have first := only place (by omega) installs
    have second := only other (by omega) again
    rw [first, second]

/-! ## What a process prints -/

/-- The attempts of a process to set up logging. -/
def attempts (moments : List Moment) : List LoggingSettings :=
  moments.filterMap fun
    | .setUp settings => some settings
    | .emits _ => none

/-- The events that a process emits after its first `count` attempts. -/
def eventsAfter : Nat → List Moment → Log
  | _, [] => []
  | 0, .setUp _ :: rest => eventsAfter 0 rest
  | count + 1, .setUp _ :: rest => eventsAfter count rest
  | 0, .emits log :: rest => log ++ eventsAfter 0 rest
  | count + 1, .emits _ :: rest => eventsAfter (count + 1) rest

/-- Once there is a logger, it prints whatever is emitted. -/
theorem output_some (places : CallPlaces) (moments : List Moment) (logger : Logger) :
    output environment places moments (some logger) =
      logger.printed places (eventsAfter 0 moments) := by
  induction moments with
  | nil => rfl
  | cons moment rest ih =>
    cases moment with
    | setUp settings =>
      have attempt := setup_attempt environment settings (some logger)
      rw [output, eventsAfter]
      generalize setup environment settings (some logger) = ended at attempt
      cases attempt with
      | unread => exact ih
      | late => exact ih
    | emits log =>
      rw [output, eventsAfter, Logger.printed_append, ih]
      rfl

theorem results_cons (settings : LoggingSettings) (later : List LoggingSettings)
    {ended : Except SetupError Unit × Option Logger}
    (went : setup environment settings none = ended) :
    results environment (settings :: later) = ended.1 :: (setupAll environment later ended.2).1 := by
  rw [← went]
  rfl

/-- After an attempt that cannot be read the next one is the first. -/
theorem installs_succ {later : List LoggingSettings} {error : SetupError}
    (went : setup environment settings none = (.error error, none)) :
    Installs environment (settings :: later) (place + 1) ↔ Installs environment later place := by
  rw [Installs, Answers, results_cons settings later went]
  rfl

theorem installs_zero {later : List LoggingSettings} {logger : Option Logger}
    (went : setup environment settings none = (.ok (), logger)) :
    Installs environment (settings :: later) 0 := by
  rw [Installs, Answers, results_cons settings later went]
  rfl

theorem not_installs_zero {later : List LoggingSettings} {error : SetupError}
    (went : setup environment settings none = (.error error, none)) :
    ¬ Installs environment (settings :: later) 0 := by
  rw [Installs, Answers, results_cons settings later went]
  exact nofun

theorem output_none (places : CallPlaces) (moments : List Moment)
    (none : ∀ place, ¬ Installs environment (attempts moments) place) :
    output environment places moments .none = [] := by
  induction moments with
  | nil => rfl
  | cons moment rest ih =>
    cases moment with
    | setUp settings =>
      have attempt := setup_attempt environment settings .none
      generalize went : setup environment settings .none = ended at attempt
      rw [output, went]
      cases attempt with
      | unread => exact ih fun place installs => none (place + 1) ((installs_succ went).mpr installs)
      | installs => exact absurd (installs_zero went) (none 0)
    | emits log => exact ih none

theorem output_installed (places : CallPlaces) (moments : List Moment) {filter : Filter}
    (made : (attempts moments)[place]? = some settings)
    (installs : Installs environment (attempts moments) place)
    (read : Filter.read (filterText environment settings) = .ok filter) :
    output environment places moments none =
      Logger.printed { filter, withTarget := settings.withTarget } places
        (eventsAfter (place + 1) moments) := by
  induction moments generalizing place with
  | nil => exact nomatch made
  | cons moment rest ih =>
    cases moment with
    | setUp first =>
      have attempt := setup_attempt environment first none
      generalize went : setup environment first none = ended at attempt
      rw [output, went, eventsAfter]
      cases attempt with
      | unread =>
        cases place with
        | zero => exact absurd installs (not_installs_zero went)
        | succ place => exact ih made ((installs_succ went).mp installs)
      | @installs chosen readFirst =>
        obtain rfl := once installs (installs_zero went)
        obtain rfl := Option.some.inj made
        obtain rfl := Except.ok.inj (readFirst.symm.trans read)
        exact output_some places rest _
    | emits log => exact ih made installs

/-! ## The account of a process -/

/-- How the attempts of a process go, and what it prints. -/
structure OneLogger (environment : Option String) (calls : List LoggingSettings) : Prop where
  answered : (results environment calls).length = calls.length
  unread : ∀ {place settings}, calls[place]? = some settings → ∀ error,
    Answers environment calls place (.error (.filter error)) ↔
      Filter.read (filterText environment settings) = .error error
  installs : ∀ {place settings}, calls[place]? = some settings →
    (Installs environment calls place ↔
      (∃ filter, Filter.read (filterText environment settings) = .ok filter) ∧
        ∀ other < place, ¬ Installs environment calls other)
  late : ∀ {place settings}, calls[place]? = some settings →
    (Answers environment calls place (.error .alreadyInstalled) ↔
      (∃ filter, Filter.read (filterText environment settings) = .ok filter) ∧
        ∃ other < place, Installs environment calls other)
  once : ∀ {place other}, Installs environment calls place →
    Installs environment calls other → place = other
  afresh : ∀ {count}, (∀ place < count, ¬ Installs environment calls place) →
    results environment calls =
        results environment (calls.take count) ++ results environment (calls.drop count) ∧
      ∀ more, loggerAfter environment calls (count + more) =
        loggerAfter environment (calls.drop count) more
  /-- The attempt that installs a logger settles what it is. -/
  logger : ∀ {place settings filter count}, calls[place]? = some settings →
    Installs environment calls place →
    Filter.read (filterText environment settings) = .ok filter → place < count →
    loggerAfter environment calls count = some { filter, withTarget := settings.withTarget }
  noLogger : ∀ {count}, (∀ place < count, ¬ Installs environment calls place) →
    loggerAfter environment calls count = none
  /-- Whatever is logged later, with any fields, is printed by that logger. -/
  prints : ∀ {place settings filter count}, calls[place]? = some settings →
    Installs environment calls place →
    Filter.read (filterText environment settings) = .ok filter → place < count →
    ∀ record, printedAfter environment calls count record =
      Logger.print? { filter, withTarget := settings.withTarget } record
  silent : ∀ {count}, (∀ place < count, ¬ Installs environment calls place) →
    ∀ record, printedAfter environment calls count record = none
  /-- A process that makes these attempts prints the events that it emits after the one that
  installs its logger. -/
  outputs : ∀ {place settings filter}, calls[place]? = some settings →
    Installs environment calls place →
    Filter.read (filterText environment settings) = .ok filter →
    ∀ places moments, attempts moments = calls → output environment places moments none =
      Logger.printed { filter, withTarget := settings.withTarget } places
        (eventsAfter (place + 1) moments)
  outputsNothing : (∀ place, ¬ Installs environment calls place) →
    ∀ places moments, attempts moments = calls → output environment places moments none = []

/-- The answer to an attempt is fixed by its filter and by whether there was a logger before. -/
theorem answers_cases (environment : Option String) (made : calls[place]? = some settings) :
    (∃ error, Filter.read (filterText environment settings) = .error error ∧
        Answers environment calls place (.error (.filter error))) ∨
      ∃ filter, Filter.read (filterText environment settings) = .ok filter ∧
        ((Installs environment calls place ∧
            ∀ other < place, ¬ Installs environment calls other) ∨
          (Answers environment calls place (.error .alreadyInstalled) ∧
            ∃ other < place, Installs environment calls other)) := by
  obtain ⟨result, answers, attempt⟩ := attempt_at environment made
  have standing := standing environment calls place
  generalize loggerAfter environment calls (place + 1) = after at attempt
  generalize loggerAfter environment calls place = before at attempt standing
  cases attempt with
  | unread read => exact .inl ⟨_, read, answers⟩
  | installs read =>
    cases standing with
    | fresh none => exact .inr ⟨_, read, .inl ⟨answers, none⟩⟩
  | late read =>
    cases standing with
    | taken below installs => exact .inr ⟨_, read, .inr ⟨answers, _, below, installs⟩⟩

theorem unread_iff (environment : Option String) (made : calls[place]? = some settings)
    (error : FilterError) :
    Answers environment calls place (.error (.filter error)) ↔
      Filter.read (filterText environment settings) = .error error := by
  rcases answers_cases environment made with
    ⟨cause, read, answers⟩ | ⟨filter, read, ⟨answers, _⟩ | ⟨answers, _⟩⟩
  · constructor
    · intro also
      cases answers.unique also
      exact read
    · intro same
      cases read.symm.trans same
      exact answers
  all_goals
    constructor
    · intro also
      cases answers.unique also
    · intro same
      cases read.symm.trans same

theorem installs_iff (environment : Option String) (made : calls[place]? = some settings) :
    Installs environment calls place ↔
      (∃ filter, Filter.read (filterText environment settings) = .ok filter) ∧
        ∀ other < place, ¬ Installs environment calls other := by
  rcases answers_cases environment made with
    ⟨cause, read, answers⟩ | ⟨filter, read, ⟨installs, none⟩ | ⟨answers, other, below, earlier⟩⟩
  · constructor
    · intro also
      cases answers.unique also
    · rintro ⟨⟨_, same⟩, _⟩
      cases read.symm.trans same
  · exact iff_of_true installs ⟨⟨filter, read⟩, none⟩
  · constructor
    · intro also
      cases answers.unique also
    · rintro ⟨_, none⟩
      exact absurd earlier (none other below)

theorem late_iff (environment : Option String) (made : calls[place]? = some settings) :
    Answers environment calls place (.error .alreadyInstalled) ↔
      (∃ filter, Filter.read (filterText environment settings) = .ok filter) ∧
        ∃ other < place, Installs environment calls other := by
  rcases answers_cases environment made with
    ⟨cause, read, answers⟩ | ⟨filter, read, ⟨installs, none⟩ | ⟨answers, earlier⟩⟩
  · constructor
    · intro also
      cases answers.unique also
    · rintro ⟨⟨_, same⟩, _⟩
      cases read.symm.trans same
  · constructor
    · intro also
      cases installs.unique also
    · rintro ⟨_, other, below, earlier⟩
      exact absurd earlier (none other below)
  · exact iff_of_true answers ⟨⟨filter, read⟩, earlier⟩

theorem oneLogger (environment : Option String) (calls : List LoggingSettings) :
    OneLogger environment calls where
  answered := length_setupAll ..
  unread := unread_iff environment
  installs := installs_iff environment
  late := late_iff environment
  once := once
  afresh := afresh
  logger made installs read below := loggerAfter_eq_some below installs made read
  noLogger := loggerAfter_eq_none
  prints made installs read below record := by
    rw [printedAfter, loggerAfter_eq_some below installs made read]
    rfl
  silent none record := by
    rw [printedAfter, loggerAfter_eq_none none]
    rfl
  outputs made installs read places moments same := by
    subst same
    exact output_installed places moments made installs read
  outputsNothing none places moments same := by
    subst same
    exact output_none places moments none

-- An attempt that cannot be read leaves the place to the next one.
example : results none [{ level := "a=b=c" }, { level := "info" }, { level := "debug" }] =
    [.error (.filter .level), .ok (), .error .alreadyInstalled] := by rfl

end UsbHost.Logging
