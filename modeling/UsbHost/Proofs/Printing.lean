import UsbHost.Logging.Setup

/-!
# What is printed of a log

A logger prints the events that its filter shows, in the order of the log. The level of a filter
without targets and fields holds for every event; a directive for a field of failed calls concerns
these and no others.
-/

set_option autoImplicit false

namespace UsbHost

namespace Logging

variable {directive : Directive} {record : Record} {places : CallPlaces} {threshold : Threshold}
  {name : String}

/-! ## The directive that decides -/

namespace Directive

variable {one other third : Directive}

theorem fieldAtLeast_total (one other : Option Field) :
    fieldAtLeast one other = true ∨ fieldAtLeast other one = true := by
  cases one with
  | none => cases other <;> simp [fieldAtLeast]
  | some field =>
    cases other with
    | none => simp [fieldAtLeast]
    | some other => simpa [fieldAtLeast] using String.le_total other.name field.name

theorem fieldAtLeast_trans {one other third : Option Field}
    (first : fieldAtLeast one other = true) (second : fieldAtLeast other third = true) :
    fieldAtLeast one third = true := by
  cases third with
  | none => cases one <;> rfl
  | some third =>
    cases other with
    | none => contradiction
    | some other =>
      cases one with
      | none => contradiction
      | some field =>
        simp only [fieldAtLeast, decide_eq_true_eq] at first second ⊢
        exact String.le_trans second first

theorem atLeastAsSpecific_iff : one.atLeastAsSpecific other = true ↔
    other.target.utf8ByteSize < one.target.utf8ByteSize ∨
      other.target.utf8ByteSize = one.target.utf8ByteSize ∧
        fieldAtLeast one.field other.field = true := by
  simp [atLeastAsSpecific]

theorem atLeastAsSpecific_total (one other : Directive) :
    one.atLeastAsSpecific other = true ∨ other.atLeastAsSpecific one = true := by
  rw [atLeastAsSpecific_iff, atLeastAsSpecific_iff]
  rcases Nat.lt_trichotomy one.target.utf8ByteSize other.target.utf8ByteSize with
    shorter | same | longer
  · exact .inr (.inl shorter)
  · rcases fieldAtLeast_total one.field other.field with first | second
    · exact .inl (.inr ⟨same.symm, first⟩)
    · exact .inr (.inr ⟨same, second⟩)
  · exact .inl (.inl longer)

theorem atLeastAsSpecific_refl (directive : Directive) :
    directive.atLeastAsSpecific directive = true :=
  (atLeastAsSpecific_total directive directive).elim id id

theorem atLeastAsSpecific_trans (first : one.atLeastAsSpecific other = true)
    (second : other.atLeastAsSpecific third = true) : one.atLeastAsSpecific third = true := by
  rw [atLeastAsSpecific_iff] at first second ⊢
  rcases first with longer | ⟨same, field⟩
  · rcases second with more | ⟨same, -⟩
    · exact .inl (Nat.lt_trans more longer)
    · exact .inl (same ▸ longer)
  · rcases second with more | ⟨also, further⟩
    · exact .inl (same ▸ more)
    · exact .inr ⟨also.trans same, fieldAtLeast_trans field further⟩

end Directive

namespace Filter

variable {best : Directive} {filter : Filter}

/-- The directive that a fold prefers is one of those that it saw, and none of them is more
specific. -/
theorem foldl_prefer (directives : List Directive) (start : Directive) :
    ∃ best, directives.foldl prefer (some start) = some best ∧ best ∈ start :: directives ∧
      ∀ other ∈ start :: directives, best.atLeastAsSpecific other = true := by
  induction directives generalizing start with
  | nil =>
    refine ⟨start, rfl, List.mem_cons_self, ?_⟩
    exact List.forall_mem_singleton.mpr start.atLeastAsSpecific_refl
  | cons next rest ih =>
    cases chosen : next.atLeastAsSpecific start with
    | true =>
      obtain ⟨best, found, member, most⟩ := ih next
      refine ⟨best, ?_, List.mem_cons_of_mem _ member, List.forall_mem_cons.mpr ⟨?_, most⟩⟩
      · rw [List.foldl_cons, prefer, if_pos chosen, found]
      · exact Directive.atLeastAsSpecific_trans (most next List.mem_cons_self) chosen
    | false =>
      obtain ⟨best, found, member, most⟩ := ih start
      have kept : start.atLeastAsSpecific next = true :=
        (Directive.atLeastAsSpecific_total start next).resolve_right (by simp [chosen])
      obtain ⟨overStart, overRest⟩ := List.forall_mem_cons.mp most
      refine ⟨best, ?_, ?_, List.forall_mem_cons.mpr ⟨overStart, List.forall_mem_cons.mpr
        ⟨Directive.atLeastAsSpecific_trans overStart kept, overRest⟩⟩⟩
      · rw [List.foldl_cons, prefer, if_neg (by simp [chosen]), found]
      · rcases List.mem_cons.mp member with rfl | later
        · exact List.mem_cons_self
        · exact List.mem_cons_of_mem _ (List.mem_cons_of_mem _ later)

/-- Of the directives that concern a record one decides that no other is more specific than. -/
theorem deciding?_eq_some (decides : filter.deciding? record = some best) :
    best ∈ filter ∧ best.concerns record = true ∧
      ∀ other ∈ filter, other.concerns record = true → best.atLeastAsSpecific other = true := by
  unfold deciding? at decides
  cases concerned : List.filter (fun directive => directive.concerns record) filter with
  | nil =>
    rw [concerned] at decides
    contradiction
  | cons first rest =>
    rw [concerned, List.foldl_cons] at decides
    obtain ⟨found, same, member, most⟩ := foldl_prefer rest first
    obtain rfl := Option.some.inj (same.symm.trans decides)
    rw [← concerned] at member most
    obtain ⟨inFilter, concerns⟩ := List.mem_filter.mp member
    exact ⟨inFilter, concerns, fun other member concerns =>
      most other (List.mem_filter.mpr ⟨member, concerns⟩)⟩

/-- A record that no directive concerns is not shown. -/
theorem shows_eq_false (none : ∀ directive ∈ filter, directive.concerns record = false) :
    filter.shows record = false := by
  have nothing : List.filter (fun directive => directive.concerns record) filter = [] :=
    List.filter_eq_nil_iff.mpr fun directive member => by simp [none directive member]
  rw [shows, threshold, deciding?, nothing]
  rfl

end Filter

/-! ## Filters of one directive -/

theorem Filter.deciding?_singleton (directive : Directive) (record : Record) :
    Filter.deciding? [directive] record =
      if directive.concerns record then some directive else none := by
  unfold Filter.deciding?
  cases concerned : directive.concerns record <;> simp [concerned, Filter.prefer]

/-- A filter of one directive shows what it concerns, up to its level. -/
theorem Filter.shows_singleton (directive : Directive) (record : Record) :
    Filter.shows [directive] record =
      (directive.concerns record && directive.threshold.shows record.level) := by
  unfold Filter.shows Filter.threshold
  rw [Filter.deciding?_singleton]
  cases directive.concerns record <;> rfl

theorem Directive.concerns_bare (record : Record) : concerns { threshold } record = true := by
  simp [concerns]

theorem Directive.concerns_field (record : Record) :
    concerns { field := some { name }, threshold } record = true ↔
      name ∈ record.fields.map Prod.fst := by
  simp [concerns]

/-! ## The lines of a log -/

namespace Logger

theorem printed_append (logger : Logger) (places : CallPlaces) (log more : Log) :
    logger.printed places (log ++ more) =
      logger.printed places log ++ logger.printed places more :=
  List.filterMap_append

/-- The lines are those of the events that are shown. -/
theorem printed_eq (logger : Logger) (places : CallPlaces) (log : Log) :
    logger.printed places log =
      (log.filter fun event => logger.filter.shows (event.record places)).map fun event =>
        logger.line (event.record places) := by
  induction log with
  | nil => rfl
  | cons event rest ih =>
    have step : logger.printed places (event :: rest) =
        (logger.print? (event.record places)).toList ++ logger.printed places rest := by
      unfold printed
      rw [List.filterMap_cons]
      cases logger.print? (event.record places) <;> rfl
    rw [step, ih, List.filter_cons, print?]
    cases logger.filter.shows (event.record places) <;> rfl

/-- Under a level alone, the events up to that level are printed, whatever part of the program they
come from. -/
theorem printed_level (threshold : Threshold) (withTarget : Bool) (places : CallPlaces)
    (log : Log) :
    printed { filter := [{ threshold }], withTarget } places log =
      (log.filter fun event => threshold.shows event.level).map fun event =>
        line { filter := [{ threshold }], withTarget } (event.record places) := by
  rw [printed_eq]
  refine congrArg (List.map _) (List.filter_congr fun event _ => ?_)
  rw [Filter.shows_singleton, Directive.concerns_bare, Bool.true_and]
  rfl

end Logger

end Logging

namespace Event

/-- The fields that only failures have. -/
def detailNames : List String := ["site", "function", "code", "location"]

theorem hasDetail_iff {name : String} (named : name ∈ detailNames) (places : Logging.CallPlaces)
    (event : Event) :
    name ∈ (event.record places).fields.map Prod.fst ↔ event.isFailure = true := by
  have notMessage : name ≠ "message" := by
    rintro rfl
    exact absurd named (by decide)
  cases event with
  | note level notice => simpa [record, details, isFailure] using notMessage
  | failure level site function code description =>
    simpa [record, details, isFailure, detailNames] using Or.inr named

end Event

/-- Under a directive for a field that failures have, failures are printed and nothing else. -/
theorem Logging.Logger.printed_detail {name : String} (named : name ∈ Event.detailNames)
    (threshold : Threshold) (withTarget : Bool) (places : CallPlaces) (log : Log) :
    let logger : Logger :=
      { filter := [{ field := some { name }, threshold }], withTarget }
    logger.printed places log =
      (log.filter fun event => event.isFailure && threshold.shows event.level).map fun event =>
        logger.line (event.record places) := by
  intro logger
  rw [printed_eq]
  refine congrArg (List.map _) (List.filter_congr fun event _ => ?_)
  rw [Filter.shows_singleton]
  refine congrArg (· && _) ?_
  rw [Bool.eq_iff_iff, Directive.concerns_field, Event.hasDetail_iff named]

-- A failure is printed with all its fields.
example :
    let logger : Logging.Logger :=
      { filter := [{ field := some { name := "code" }, threshold := some .warn }],
        withTarget := true }
    logger.printed (fun _ _ => "here:1:2")
        [.note .warn ⟨.handle, "Closed"⟩,
          .failure .error "open" "libusb_open" (-3) "Access denied"] =
      ["ERROR scoped_usb::invoke: open failed libusb_open(): Access denied" ++
        " site=\"open\" function=\"libusb_open\" code=-3 location=here:1:2"] := by
  decide +kernel

end UsbHost
