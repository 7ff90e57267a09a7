import UsbHost.Proofs.Naming
import UsbHost.Session.Run

/-!
# Steps that stop the client

Every step answers or is refused, and the client goes on; only the index operator of a list stops
it. That happens exactly if the index is not below the length of the slice of entries.
-/

set_option autoImplicit false

namespace UsbHost

variable {α : Type} {session : Session}

namespace Session

/-- The step did not stop the client. -/
def Continues (ended : Ended) : Prop :=
  ∀ length index, ended.1.result ≠ .error (.indexOutOfBounds length index)

theorem withSlot_continues {slot : Option α} {next : α → Ended}
    (present : ∀ value, Continues (next value)) : Continues (session.withSlot slot next) := by
  unfold withSlot
  split
  · exact present _
  · exact nofun

theorem perform_continues {operation : Usb α} {next : α → Session → Ended}
    (answers : ∀ value world, Continues (next value { session with world })) :
    Continues (session.perform operation next) := by
  unfold perform
  split
  · exact answers _ _
  · exact nofun

end Session

open Session

theorem ContextStep.continues (step : ContextStep) : Continues (step.perform session) := by
  cases step with
  | start target source =>
    cases source with
    | defaults | policies | session => exact perform_continues fun _ _ => nofun
    | settings settings =>
      unfold perform startInto Session.run
      dsimp only
      split
      · exact nofun
      · exact nofun
  | empty | adopt => exact nofun
  | look name | reset name raw | release name => exact withSlot_continues fun _ => nofun

theorem DeviceStep.continues (step : DeviceStep) : Continues (step.perform session) := by
  cases step with
  | empty => exact nofun
  | adopt target raw context =>
    cases context with
    | none => exact nofun
    | some context => exact withSlot_continues fun _ => nofun
  | look | clone | reset | release | descriptorOrDefault | busNumber | address =>
    exact withSlot_continues fun _ => nofun
  | openHandle | config | descriptor | ports | path =>
    exact withSlot_continues fun _ => perform_continues fun _ _ => nofun

theorem HandleStep.onClaims_continues (name : String) (handle : Handle) (operation : Usb Handle) :
    Continues (onClaims session name handle operation) := by
  unfold onClaims
  split
  · exact nofun
  · exact nofun

theorem HandleStep.continues (step : HandleStep) : Continues (step.perform session) := by
  cases step with
  | empty | adopt => exact nofun
  | look | isClaimed | configurationOrDefault | reset | close | release =>
    exact withSlot_continues fun _ => nofun
  | wrap | setConfiguration | configuration | autoDetach | device =>
    exact withSlot_continues fun _ => perform_continues fun _ _ => nofun
  | claim name | unclaim name =>
    exact withSlot_continues fun handle => onClaims_continues name handle _

theorem ControlStep.continues (step : ControlStep) : Continues (step.perform session) := by
  cases step with
  | fail name code =>
    unfold perform
    dsimp only
    split
    · exact nofun
    · exact nofun
  | _ => exact nofun

theorem DescriptorStep.continues (step : DescriptorStep) : Continues (step.perform session) := by
  cases step with
  | empty => exact nofun
  | look | clear => exact withSlot_continues fun _ => nofun
  | release name held =>
    refine withSlot_continues fun descriptor => ?_
    dsimp only
    split
    · exact nofun
    · exact nofun
  | adopt target held =>
    cases held with
    | none => exact nofun
    | some held => exact withSlot_continues fun _ => nofun

theorem NativeStep.continues (step : NativeStep) : Continues (step.perform session) := by
  cases step with
  | describe | call | enumerate | readConfig => exact nofun
  | freeHeldArray | freeHeldRecord => exact withSlot_continues fun _ => nofun

/-- Of the steps on lists only the index operator may stop the client. -/
theorem ListStep.continues (step : ListStep) (other : ∀ name index, step ≠ .index name index) :
    Continues (step.perform session) := by
  cases step with
  | index name index => exact absurd rfl (other name index)
  | enumerate => exact withSlot_continues fun _ => perform_continues fun _ _ => nofun
  | look | get | devices => exact withSlot_continues fun _ => nofun
  | entryAt =>
    refine withSlot_continues fun list => ?_
    split
    · exact nofun
    · exact nofun
  | device | find =>
    refine withSlot_continues fun list => ?_
    unfold Session.run
    dsimp only
    split
    · exact nofun
    · exact nofun

namespace Session

theorem step_continues {step : Step} (other : ∀ name index, step ≠ .list (.index name index)) :
    Continues (session.step step) := by
  cases step with
  | control step => exact step.continues
  | context step => exact step.continues
  | list step => exact step.continues fun name index same => other name index (congrArg _ same)
  | device step => exact step.continues
  | handle step => exact step.continues
  | descriptor step => exact step.continues
  | native step => exact step.continues
  | drop | move | inspect => exact withSlot_continues fun _ => nofun

/-- A step uses the index operator on a slice of so many entries, behind their end. -/
def IndexesBeyond (session : Session) (step : Step) (length index : Nat) : Prop :=
  ∃ name list, step = .list (.index name index) ∧ session.resources.list? name = some list ∧
    list.entries.length = length ∧ length ≤ index

theorem step_index {name : String} {list : DeviceList} (index : Nat)
    (found : session.resources.list? name = some list) :
    session.step (.list (.index name index)) =
      match list.get? index with
      | some raw => session.answer (.address (some raw))
      | none => (.refused (.indexOutOfBounds list.entries.length index), session) := by
  show session.withSlot (session.resources.list? name) _ = _
  rw [found]
  rfl

theorem step_beyond {step : Step} {length index : Nat}
    (beyond : session.IndexesBeyond step length index) :
    session.step step = (.refused (.indexOutOfBounds length index), session) := by
  obtain ⟨name, list, rfl, found, rfl, beyond⟩ := beyond
  have missing : list.get? index = none := List.getElem?_eq_none beyond
  rw [step_index index found, missing]

theorem step_index_stops {name : String} {position length index : Nat}
    (stopped : (session.step (.list (.index name position))).1.result =
      .error (.indexOutOfBounds length index)) :
    session.IndexesBeyond (.list (.index name position)) length index := by
  cases found : session.resources.list? name with
  | none =>
    have refused : session.step (.list (.index name position)) = session.noSlot := by
      show session.withSlot (session.resources.list? name) _ = _
      rw [found]
      rfl
    rw [refused] at stopped
    have same : Refusal.noSlot = .indexOutOfBounds length index := Except.error.inj stopped
    contradiction
  | some list =>
    rw [step_index position found] at stopped
    cases missing : list.get? position with
    | some raw =>
      rw [missing] at stopped
      exact nomatch stopped
    | none =>
      rw [missing] at stopped
      obtain ⟨rfl, rfl⟩ := Refusal.indexOutOfBounds.inj (Except.error.inj stopped)
      exact ⟨name, list, rfl, found, rfl, List.getElem?_eq_none_iff.mp missing⟩

theorem step_stops_iff (session : Session) (step : Step) (length index : Nat) :
    (session.step step).1.result = .error (.indexOutOfBounds length index) ↔
      session.IndexesBeyond step length index := by
  constructor
  · intro stopped
    by_cases indexing : ∃ name position, step = .list (.index name position)
    · obtain ⟨name, position, rfl⟩ := indexing
      exact step_index_stops stopped
    · have other : ∀ name position, step ≠ .list (.index name position) :=
        fun name position same => indexing ⟨name, position, same⟩
      exact absurd stopped (step_continues other length index)
  · intro beyond
    rw [step_beyond beyond]
    rfl

end Session

end UsbHost
