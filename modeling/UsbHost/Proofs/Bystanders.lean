import UsbHost.Proofs.Client
import UsbHost.Proofs.Naming
import UsbHost.Proofs.SessionMoves

/-!
# What a step leaves where it is

A step puts resources under the names that it was given and changes the one that it is performed
on. Whatever stands under another name, or is of another kind, stays there as it is.
-/

set_option autoImplicit false

namespace UsbHost

variable {α : Type} {session : Session} {kind : ResourceKind} {name : String}

/-- Whether a step may put another resource under a name, or take away what stands there. -/
def Step.replaces (kind : ResourceKind) (name : String) : Step → Bool
  | .control _ | .native _ | .inspect .. => false
  | .context (.look _) => false
  | .context (.start target _) | .context (.empty target) | .context (.adopt target _)
  | .context (.reset target _) | .context (.release target) =>
    (kind, name) = (.context, target)
  | .list (.enumerate target _) => (kind, name) = (.list, target)
  | .list (.device _ _ target) | .list (.find _ _ target) => (kind, name) = (.device, target)
  | .list (.devices ..) => kind = .device
  | .list _ => false
  | .device (.empty target) | .device (.adopt target ..) | .device (.clone _ target)
  | .device (.reset target _) | .device (.release target) => (kind, name) = (.device, target)
  | .device (.openHandle _ target) => (kind, name) = (.handle, target)
  | .device (.config _ _ target _) => (kind, name) = (.descriptor, target)
  | .device _ => false
  | .handle (.empty target) | .handle (.adopt target _) | .handle (.wrap target ..)
  | .handle (.claim target _) | .handle (.unclaim target _) | .handle (.reset target _)
  | .handle (.close target) | .handle (.release target) => (kind, name) = (.handle, target)
  | .handle (.device _ target) => (kind, name) = (.device, target)
  | .handle _ => false
  | .descriptor (.look _) => false
  | .descriptor (.empty target) | .descriptor (.clear target) | .descriptor (.release target _)
  | .descriptor (.adopt target _) => (kind, name) = (.descriptor, target)
  | .drop dropped target => (kind, name) = (dropped, target)
  | .move moved source target => (kind, name) = (moved, source) ∨ (kind, name) = (moved, target)

namespace Session

/-- What stands under the name is what stood there before. -/
def Bypasses (kind : ResourceKind) (name : String) (session : Session) (ended : Ended) : Prop :=
  ended.2.resources.find? kind name = session.resources.find? kind name

theorem withSlot_bypasses {slot : Option α} {next : α → Ended}
    (present : ∀ value, session.Bypasses kind name (next value)) :
    session.Bypasses kind name (session.withSlot slot next) := by
  unfold withSlot
  split
  · exact present _
  · rfl

theorem perform_bypasses {operation : Usb α} {next : α → Session → Ended}
    (further : ∀ value world, Bypasses kind name { session with world }
      (next value { session with world })) :
    session.Bypasses kind name (session.perform operation next) := by
  unfold perform
  split
  · exact further _ _
  · rfl

theorem run_bypasses {operation : World → α × World} {next : α → Session → Ended}
    (further : ∀ value world, Bypasses kind name { session with world }
      (next value { session with world })) :
    session.Bypasses kind name (session.run operation next) :=
  further _ _

theorem store_bypasses (session : Session) {target : String} {resource : Resource}
    (apart : (kind, name) ≠ (resource.kind, target)) :
    (session.store target resource).resources.find? kind name =
      session.resources.find? kind name := by
  rw [store_resources]
  exact Resources.find?_put_ne apart

theorem storing_bypasses {target : String} {resource : Resource}
    (apart : (kind, name) ≠ (resource.kind, target)) :
    session.Bypasses kind name (session.storing target resource) :=
  session.store_bypasses apart

theorem update_bypasses {target : String} {resource : Resource} {world : World}
    (apart : (kind, name) ≠ (resource.kind, target)) :
    (session.update target resource world).resources.find? kind name =
      session.resources.find? kind name :=
  Resources.find?_put_ne apart

end Session

open Session (withSlot_bypasses perform_bypasses run_bypasses store_bypasses storing_bypasses
  update_bypasses)

theorem ContextStep.startInto_bypasses {target : String} (source : ContextSource)
    (apart : (kind, name) ≠ (.context, target)) :
    session.Bypasses kind name (startInto session target source) := by
  cases source with
  | defaults | policies policies | session =>
    exact perform_bypasses fun _ _ => storing_bypasses apart
  | settings settings =>
    refine run_bypasses fun result world => ?_
    cases result with
    | ok context => exact storing_bypasses apart
    | error error => rfl

theorem ContextStep.bypasses {step : ContextStep}
    (apart : (Step.context step).replaces kind name = false) :
    session.Bypasses kind name (step.perform session) := by
  cases step with
  | start target source => exact startInto_bypasses source (of_decide_eq_false apart)
  | empty target | adopt target raw => exact storing_bypasses (of_decide_eq_false apart)
  | look name => exact withSlot_bypasses fun _ => rfl
  | reset name raw | release name =>
    exact withSlot_bypasses fun _ => update_bypasses (of_decide_eq_false apart)

theorem ListStep.storeNumbered_bypasses (stem : String) (session : Session)
    (devices : List Device) (apart : kind ≠ .device) :
    (storeNumbered stem session devices).resources.find? kind name =
      session.resources.find? kind name := by
  have other (target : String) (device : Device) :
      (kind, name) ≠ ((Resource.device device).kind, target) :=
    fun same => apart (Prod.mk.inj same).1
  unfold storeNumbered
  induction devices.zipIdx generalizing session with
  | nil => rfl
  | cons entry rest ih => exact (ih _).trans (session.store_bypasses (other _ _))

theorem ListStep.bypasses {step : ListStep}
    (apart : (Step.list step).replaces kind name = false) :
    session.Bypasses kind name (step.perform session) := by
  cases step with
  | enumerate target context =>
    exact withSlot_bypasses fun _ => perform_bypasses fun _ _ =>
      storing_bypasses (of_decide_eq_false apart)
  | look name | get name index => exact withSlot_bypasses fun _ => rfl
  | entryAt name index | index name index =>
    refine withSlot_bypasses fun list => ?_
    split <;> rfl
  | device name index target =>
    refine withSlot_bypasses fun list => run_bypasses fun found world => ?_
    cases found with
    | some device => exact store_bypasses _ (of_decide_eq_false apart)
    | none => rfl
  | devices name stem backwards =>
    exact withSlot_bypasses fun list => run_bypasses fun found world =>
      storeNumbered_bypasses stem _ found (of_decide_eq_false apart)
  | find name path target =>
    refine withSlot_bypasses fun list => run_bypasses fun found world => ?_
    cases found with
    | some device => exact store_bypasses _ (of_decide_eq_false apart)
    | none => rfl

theorem DeviceStep.bypasses {step : DeviceStep}
    (apart : (Step.device step).replaces kind name = false) :
    session.Bypasses kind name (step.perform session) := by
  cases step with
  | empty target => exact storing_bypasses (of_decide_eq_false apart)
  | adopt target raw context =>
    cases context with
    | none => exact run_bypasses fun _ _ => storing_bypasses (of_decide_eq_false apart)
    | some context =>
      exact withSlot_bypasses fun _ => run_bypasses fun _ _ =>
        storing_bypasses (of_decide_eq_false apart)
  | look name => exact withSlot_bypasses fun _ => rfl
  | clone name target =>
    exact withSlot_bypasses fun _ => run_bypasses fun _ _ =>
      storing_bypasses (of_decide_eq_false apart)
  | reset name raw | release name =>
    exact withSlot_bypasses fun _ => update_bypasses (of_decide_eq_false apart)
  | openHandle name target | config name index target policy =>
    exact withSlot_bypasses fun _ => perform_bypasses fun _ _ =>
      storing_bypasses (of_decide_eq_false apart)
  | descriptor name policy | ports name | path name =>
    exact withSlot_bypasses fun _ => perform_bypasses fun _ _ => rfl
  | descriptorOrDefault name | busNumber name | address name =>
    exact withSlot_bypasses fun _ => run_bypasses fun _ _ => rfl

theorem HandleStep.onClaims_bypasses {target : String} (handle : Handle) (operation : Usb Handle)
    (apart : (kind, name) ≠ (.handle, target)) :
    session.Bypasses kind name (onClaims session target handle operation) := by
  unfold onClaims
  split
  · exact update_bypasses apart
  · rfl

theorem HandleStep.bypasses {step : HandleStep}
    (apart : (Step.handle step).replaces kind name = false) :
    session.Bypasses kind name (step.perform session) := by
  cases step with
  | empty target | adopt target raw => exact storing_bypasses (of_decide_eq_false apart)
  | wrap target context systemHandle =>
    exact withSlot_bypasses fun _ => perform_bypasses fun _ _ =>
      storing_bypasses (of_decide_eq_false apart)
  | look name | isClaimed name interface => exact withSlot_bypasses fun _ => rfl
  | claim name interface | unclaim name interface =>
    exact withSlot_bypasses fun handle => onClaims_bypasses handle _ (of_decide_eq_false apart)
  | setConfiguration name value | configuration name policy | autoDetach name enable policy =>
    exact withSlot_bypasses fun _ => perform_bypasses fun _ _ => rfl
  | configurationOrDefault name => exact withSlot_bypasses fun _ => run_bypasses fun _ _ => rfl
  | device name target =>
    exact withSlot_bypasses fun _ => perform_bypasses fun _ _ =>
      storing_bypasses (of_decide_eq_false apart)
  | reset name raw | close name | release name =>
    exact withSlot_bypasses fun _ => update_bypasses (of_decide_eq_false apart)

theorem DescriptorStep.bypasses {step : DescriptorStep}
    (apart : (Step.descriptor step).replaces kind name = false) :
    session.Bypasses kind name (step.perform session) := by
  cases step with
  | empty target => exact storing_bypasses (of_decide_eq_false apart)
  | look name => exact withSlot_bypasses fun _ => rfl
  | clear name => exact withSlot_bypasses fun _ => update_bypasses (of_decide_eq_false apart)
  | release name held =>
    refine withSlot_bypasses fun descriptor => ?_
    have kept : (session.update name (.descriptor descriptor.release.2)
        session.world).resources.find? kind _ = _ := update_bypasses (of_decide_eq_false apart)
    dsimp only
    split
    · exact kept
    · exact kept
  | adopt target held =>
    cases held with
    | none => exact storing_bypasses (of_decide_eq_false apart)
    | some held => exact withSlot_bypasses fun _ => store_bypasses _ (of_decide_eq_false apart)

theorem NativeStep.bypasses (step : NativeStep) :
    session.Bypasses kind name (step.perform session) := by
  cases step with
  | describe code | call call | enumerate context held | readConfig device index held => rfl
  | freeHeldArray held unref => exact withSlot_bypasses fun _ => rfl
  | freeHeldRecord held => exact withSlot_bypasses fun _ => rfl

theorem ControlStep.bypasses (step : ControlStep) :
    session.Bypasses kind name (step.perform session) := by
  cases step with
  | fail function code =>
    unfold perform
    dsimp only
    split <;> rfl
  | attach info | attachMany count info | failReleaseOf interface code | clearFailures
  | references device | claims handle | countCalls function | callArguments function
  | misuseCount | logCount level | logMessages level => rfl

/-- A step leaves what it does not replace. -/
theorem Session.step_bypasses (session : Session) {step : Step}
    (apart : step.replaces kind name = false) :
    (session.step step).2.resources.find? kind name = session.resources.find? kind name := by
  cases step with
  | control step => exact step.bypasses
  | context step => exact ContextStep.bypasses apart
  | list step => exact ListStep.bypasses apart
  | device step => exact DeviceStep.bypasses apart
  | handle step => exact HandleStep.bypasses apart
  | descriptor step => exact DescriptorStep.bypasses apart
  | native step => exact step.bypasses
  | drop dropped target =>
    have apart := of_decide_eq_false apart
    exact withSlot_bypasses fun _ => Resources.find?_remove apart
  | move moved source target =>
    obtain ⟨left, entered⟩ := not_or.mp (of_decide_eq_false apart)
    unfold step withSlot
    dsimp only
    split
    · next resource found =>
      have same : resource.kind = moved := Resources.find?_kind found
      refine (store_bypasses _ ?_).trans (Resources.find?_remove left)
      rw [same]
      exact entered
    · rfl
  | inspect inspected target pretty => exact withSlot_bypasses fun _ => rfl

/-! ## Runs -/

/-- Whether an act may put another resource under a name, or take away what stands there. -/
def Act.replaces (kind : ResourceKind) (name : String) : Act → Bool
  | .step made => made.replaces kind name
  | .giveBack _ | .returnReference _ | .choose _ => false

namespace Client

theorem act_bypasses (client : Client) {act : Act} (apart : act.replaces kind name = false) :
    (client.act act).session.resources.find? kind name =
      client.session.resources.find? kind name := by
  cases act with
  | step step => exact client.session.step_bypasses apart
  | giveBack title | returnReference device | choose library => rfl

/-- What no act of a run replaces stands where it stood. -/
theorem run_bypasses {acts : List Act} (apart : ∀ act ∈ acts, act.replaces kind name = false)
    (client : Client) : (client.run acts).session.resources.find? kind name =
      client.session.resources.find? kind name := by
  induction acts generalizing client with
  | nil => rfl
  | cons act rest ih =>
    obtain ⟨first, others⟩ := List.forall_mem_cons.mp apart
    exact (ih others (client.act act)).trans (client.act_bypasses first)

end Client

end UsbHost
