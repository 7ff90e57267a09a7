import UsbHost.Proofs.StepMoves

/-!
# Moves of steps on devices and descriptors

A step on a device that is to take a reference names an attached device or null.
-/

set_option autoImplicit false

namespace UsbHost

open Custody (Move Leads)
open Session (Kept Goes)

variable {terms : Terms} {session : Session} {ledger : Ledger}

/-! ## Devices -/

theorem DeviceStep.goes (kept : Kept terms session ledger) (step : DeviceStep)
    (permits : Client.PermitsStep terms ⟨session, ledger⟩ (.device step)) :
    Goes terms session ledger (step.perform session).2 (ledger.after session (.device step)) := by
  have named {raw : Address} (asked : (Step.device step).namedDevice? = raw.owned?)
      (nonNull : raw ≠ 0) : session.world.bus.Knows raw :=
    permits.attached raw (by rw [asked, Address.owned?, if_neg nonNull]; rfl)
  cases step with
  | empty target => exact (Session.place_storing kept rfl rfl rfl target).unnoted rfl
  | adopt target raw context =>
    refine Session.Goes.unnoted ?_ rfl
    cases context with
    | none =>
      exact Session.run_storing kept kept.library (Device.ofRaw_makes _ raw _ (named rfl)) target
    | some context =>
      refine Session.withSlot_goes kept (fun _ => rfl) fun value found => ?_
      have allowed := kept.allowed (Resources.context?_eq_some found)
      exact Session.run_storing kept allowed (Device.ofRaw_makes _ raw _ (named rfl)) target
  | look device =>
    exact (Session.withSlot_goes kept (fun _ => rfl) fun _ _ => kept.stays).unnoted rfl
  | clone device target =>
    refine (Session.withSlot_goes kept (fun _ => rfl) fun value found => ?_).unnoted rfl
    have inside := Resources.device?_eq_some found
    exact Session.run_storing kept (kept.allowed inside)
      (Device.clone_makes (kept.attached inside)) target
  | reset device raw =>
    refine (Session.withSlot_goes kept (fun _ => rfl) fun value found => ?_).unnoted rfl
    have inside := Resources.device?_eq_some found
    have makes := Device.ofRaw_makes value.library raw session.world (named rfl)
    exact Session.reset_goes (.device (Device.ofRaw value.library raw session.world).1) kept inside
      (.single (.acquire makes (kept.allowed inside)))
  | release device =>
    refine Session.withSlot_goes kept (fun missing => ?_) fun value found => ?_
    · exact Ledger.after_nothing rfl (by simp [Session.gives?, missing]) (ite_self _)
    · have given : session.gives? (.device (.release device)) = (Resource.device value).title? := by
        simp [Session.gives?, found]
      exact (Session.release_goes (.device { value with owner := .empty }) kept
        (Resources.device?_eq_some found) (by simp [Resource.kind]) rfl rfl rfl).giving
        given rfl (ite_self _)
  | openHandle device target =>
    refine (Session.withSlot_goes kept (fun _ => rfl) fun value found => ?_).unnoted rfl
    have inside := Resources.device?_eq_some found
    exact Session.perform_storing kept (kept.allowed inside)
      (Device.openHandle_ends (kept.attached inside)) target
  | config device index target policy =>
    refine (Session.withSlot_goes kept (fun _ => rfl) fun value found => ?_).unnoted rfl
    have inside := Resources.device?_eq_some found
    cases policy with
    | none | some policy =>
      exact Session.perform_storing kept (kept.allowed inside)
        (Device.configDescriptorWith_ends (kept.attached inside) _ index) target
  | descriptor device policy =>
    refine (Session.withSlot_goes kept (fun _ => rfl) fun value found => ?_).unnoted rfl
    have attached := kept.attached (Resources.device?_eq_some found)
    cases policy with
    | none | some policy =>
      exact Session.perform_reading kept (Device.descriptorWith_ends attached _)
  | descriptorOrDefault device =>
    refine (Session.withSlot_goes kept (fun _ => rfl) fun value found => ?_).unnoted rfl
    have attached := kept.attached (Resources.device?_eq_some found)
    exact Session.observe_goes kept (Device.descriptorOrDefault_quiet attached)
  | busNumber device =>
    refine (Session.withSlot_goes kept (fun _ => rfl) fun value found => ?_).unnoted rfl
    have attached := kept.attached (Resources.device?_eq_some found)
    exact Session.observe_goes kept (Device.busNumber_quiet attached)
  | address device =>
    refine (Session.withSlot_goes kept (fun _ => rfl) fun value found => ?_).unnoted rfl
    have attached := kept.attached (Resources.device?_eq_some found)
    exact Session.observe_goes kept (Device.address_quiet attached)
  | ports device =>
    refine (Session.withSlot_goes kept (fun _ => rfl) fun value found => ?_).unnoted rfl
    have attached := kept.attached (Resources.device?_eq_some found)
    exact Session.perform_reading kept (Device.portNumbers_ends attached)
  | path device =>
    refine (Session.withSlot_goes kept (fun _ => rfl) fun value found => ?_).unnoted rfl
    have attached := kept.attached (Resources.device?_eq_some found)
    exact Session.perform_reading kept (Device.path_ends attached)

/-! ## Descriptors -/

theorem DescriptorStep.goes (kept : Kept terms session ledger) (step : DescriptorStep)
    (permits : Client.PermitsStep terms ⟨session, ledger⟩ (.descriptor step)) :
    Goes terms session ledger (step.perform session).2
      (ledger.after session (.descriptor step)) := by
  cases step with
  | empty target => exact (Session.place_storing kept rfl rfl rfl target).unnoted rfl
  | look descriptor =>
    exact (Session.withSlot_goes kept (fun _ => rfl) fun _ _ => kept.stays).unnoted rfl
  | clear descriptor =>
    refine (Session.withSlot_goes kept (fun _ => rfl) fun value found => ?_).unnoted rfl
    have inside := Resources.descriptor?_eq_some found
    have allowed : terms.library value.library := kept.allowed inside
    exact Session.reset_goes (.descriptor { value with owner := .empty }) kept inside
      (.single (.place rfl rfl allowed))
  | release descriptor held =>
    refine Session.withSlot_goes kept (fun missing => ?_) fun value found => ?_
    · exact Ledger.after_nothing rfl (by simp [Session.gives?, missing]) (ite_self _)
    · have given : session.gives? (.descriptor (.release descriptor held)) =
          (Resource.descriptor value).title? := by
        simp [Session.gives?, found]
      have goes := (Session.release_goes (.descriptor { value with owner := .empty }) kept
        (Resources.descriptor?_eq_some found) (by simp [Resource.kind]) rfl rfl rfl).giving
        given rfl (ite_self _)
      dsimp only
      split
      · exact ⟨goes.leads, goes.named, goes.library⟩
      · exact goes
  | adopt target held =>
    cases held with
    | none => exact (Session.place_storing kept rfl rfl rfl target).unnoted rfl
    | some held =>
      refine Session.withSlot_goes kept (fun missing => ?_) fun pointer found => ?_
      · exact Ledger.after_nothing (by simp [Session.takes?, missing]) rfl (ite_self _)
      · have taken : session.takes? (.descriptor (.adopt target (some held))) =
            (Resource.descriptor (.ofRaw session.library (some pointer))).title? := by
          simp [Session.takes?, found, Resource.title?, ConfigDescriptor.ofRaw, Owner.ofRaw]
        have pending := permits.held
        dsimp only at pending
        rw [taken] at pending
        have without : Kept terms
            { session with heldRecords := session.heldRecords.remove held } ledger :=
          ⟨kept.sound, kept.named, kept.library⟩
        have stored := Session.adopt_storing without pending rfl rfl target
        exact Session.Goes.taking ⟨stored.leads, stored.named, stored.library⟩ taken rfl
          (ite_self _)

end UsbHost
