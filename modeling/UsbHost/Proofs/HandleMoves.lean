import UsbHost.Proofs.StepMoves

/-!
# Moves of steps on handles

A call on the claims of a handle is noted in the ledger if it succeeds.
-/

set_option autoImplicit false

namespace UsbHost

open Custody (Move Leads)
open Session (Kept Goes)

variable {terms : Terms} {session : Session} {ledger : Ledger} {name : String}

/-- A step on claims notes its event if it succeeds, and changes nothing otherwise. -/
theorem HandleStep.onClaims_goes {step : Step} {handle : Handle} {operation : Usb Handle}
    {event : Option ClaimEvent} {ok : Handle → World → Prop}
    (kept : Kept terms session ledger)
    (found : session.resources.find? .handle name = some (.handle handle))
    (performed : session.step step = onClaims session name handle operation)
    (noTake : session.takes? step = none) (noGift : session.gives? step = none)
    (noted : session.claimEvent? step =
      if (session.step step).1.result.isOk then event else none)
    (ends : operation.Ends session.world ok fun _ after => session.world.Refused after)
    (moves : ∀ value after, ok value after → ∀ others,
      Move terms ⟨session.world, .handle handle :: others, ledger⟩
        ⟨after, .handle value :: others,
          { ledger with events := ledger.events ++ event.toList }⟩) :
    Goes terms session ledger (session.step step).2 (ledger.after session step) := by
  rw [performed] at noted ⊢
  unfold onClaims at noted ⊢
  cases reached : operation session.world with
  | ok value after =>
    rw [reached] at noted
    have same : ledger.after session step =
        { ledger with events := ledger.events ++ event.toList } := by
      simp [Ledger.after, noTake, noGift, noted, Except.isOk, Except.toBool]
    rw [same]
    refine Session.update_goes kept found fun others perm => ?_
    exact (Relation.ReflTransGen.single (.shuffle perm)).tail
      (moves value after (ends.of_ok reached) others)
  | error error after =>
    rw [reached] at noted
    rw [Ledger.after_nothing noTake noGift noted]
    exact Session.observe_goes kept (ends.of_error reached).quiet

theorem HandleStep.claim_goes (kept : Kept terms session ledger) (interface : UInt8) :
    Goes terms session ledger (session.step (.handle (.claim name interface))).2
      (ledger.after session (.handle (.claim name interface))) := by
  cases found : session.resources.handle? name with
  | none =>
    have same : session.step (.handle (.claim name interface)) = session.noSlot := by
      simp [Session.step, perform, Session.withSlot, found]
    rw [same, Ledger.after_nothing rfl rfl (by simp [Session.claimEvent?, found])]
    exact kept.stays
  | some handle =>
    have inside := Resources.handle?_eq_some found
    refine onClaims_goes kept inside ?_ rfl rfl ?_
      (Handle.claimInterface_ends (kept.isOpen inside) interface) fun _ _ ends _ => .claim ends
    · simp [Session.step, perform, Session.withSlot, found]
    · simp [Session.claimEvent?, found]

theorem HandleStep.unclaim_goes (kept : Kept terms session ledger) (interface : UInt8) :
    Goes terms session ledger (session.step (.handle (.unclaim name interface))).2
      (ledger.after session (.handle (.unclaim name interface))) := by
  cases found : session.resources.handle? name with
  | none =>
    have same : session.step (.handle (.unclaim name interface)) = session.noSlot := by
      simp [Session.step, perform, Session.withSlot, found]
    rw [same, Ledger.after_nothing rfl rfl (by simp [Session.claimEvent?, found])]
    exact kept.stays
  | some handle =>
    have inside := Resources.handle?_eq_some found
    refine onClaims_goes kept inside ?_ rfl rfl ?_
      (Handle.releaseInterface_ends (kept.isOpen inside) interface) fun _ _ ends _ => .unclaim ends
    · simp [Session.step, perform, Session.withSlot, found]
    · simp [Session.claimEvent?, found]

theorem HandleStep.goes (kept : Kept terms session ledger) (step : HandleStep)
    (permits : Client.PermitsStep terms ⟨session, ledger⟩ (.handle step)) :
    Goes terms session ledger (session.step (.handle step)).2
      (ledger.after session (.handle step)) := by
  cases step with
  | empty target => exact (Session.place_storing kept rfl rfl rfl target).unnoted rfl
  | adopt target raw =>
    have held : ∀ title ∈ (Resource.handle (.ofRaw session.library raw.owned?)).title?,
        title ∈ ledger.pending := permits.held
    exact (Session.adopt_storing kept held rfl rfl target).taking rfl rfl (ite_self _)
  | wrap target context systemHandle =>
    refine (Session.withSlot_goes kept (fun _ => rfl) fun value found => ?_).unnoted rfl
    have allowed := kept.allowed (Resources.context?_eq_some found)
    exact Session.perform_storing kept allowed
      (Handle.wrapSystemDevice_ends value systemHandle _) target
  | look handle | isClaimed handle interface =>
    exact (Session.withSlot_goes kept (fun _ => rfl) fun _ _ => kept.stays).unnoted rfl
  | claim handle interface => exact claim_goes kept interface
  | unclaim handle interface => exact unclaim_goes kept interface
  | setConfiguration handle value =>
    refine (Session.withSlot_goes kept (fun _ => rfl) fun owner found => ?_).unnoted rfl
    have isOpen := kept.isOpen (Resources.handle?_eq_some found)
    exact Session.perform_reading kept (Handle.setConfiguration_ends isOpen value)
  | configuration handle policy =>
    refine (Session.withSlot_goes kept (fun _ => rfl) fun value found => ?_).unnoted rfl
    have isOpen := kept.isOpen (Resources.handle?_eq_some found)
    cases policy with
    | none | some policy =>
      exact Session.perform_reading kept (Handle.configurationWith_ends isOpen _)
  | configurationOrDefault handle =>
    refine (Session.withSlot_goes kept (fun _ => rfl) fun value found => ?_).unnoted rfl
    have isOpen := kept.isOpen (Resources.handle?_eq_some found)
    exact Session.observe_goes kept (Handle.configurationOrDefault_quiet isOpen)
  | autoDetach handle enable policy =>
    refine (Session.withSlot_goes kept (fun _ => rfl) fun value found => ?_).unnoted rfl
    have isOpen := kept.isOpen (Resources.handle?_eq_some found)
    cases policy with
    | none | some policy =>
      exact Session.perform_reading kept (Handle.setAutoDetachWith_ends isOpen _ enable)
  | device handle target =>
    refine (Session.withSlot_goes kept (fun _ => rfl) fun value found => ?_).unnoted rfl
    have inside := Resources.handle?_eq_some found
    exact Session.perform_storing kept (kept.allowed inside)
      (Handle.device_ends (kept.seated inside)) target
  | reset handle raw =>
    refine Session.withSlot_goes kept (fun missing => ?_) fun value found => ?_
    · exact Ledger.after_nothing (by simp [Session.takes?, missing]) rfl (ite_self _)
    · have taken : session.takes? (.handle (.reset handle raw)) =
          (Resource.handle { value with owner := .ofRaw raw.owned?, claimed := [] }).title? := by
        simp [Session.takes?, found, Resource.title?, Owner.ofRaw]
      have held := permits.held
      dsimp only at held
      rw [taken] at held
      exact (Session.reset_adopting
        (.handle { value with owner := .ofRaw raw.owned?, claimed := [] }) kept
        (Resources.handle?_eq_some found) held rfl rfl).taking taken rfl (ite_self _)
  | close handle =>
    refine (Session.withSlot_goes kept (fun _ => rfl) fun value found => ?_).unnoted rfl
    have inside := Resources.handle?_eq_some found
    have allowed : terms.library value.library := kept.allowed inside
    exact Session.reset_goes (.handle { value with owner := .empty, claimed := [] }) kept inside
      (.single (.place rfl rfl allowed))
  | release handle =>
    refine Session.withSlot_goes kept (fun missing => ?_) fun value found => ?_
    · exact Ledger.after_nothing rfl (by simp [Session.gives?, missing]) (ite_self _)
    · have given : session.gives? (.handle (.release handle)) = (Resource.handle value).title? := by
        simp [Session.gives?, found]
      exact (Session.release_goes (.handle { value with owner := .empty, claimed := [] }) kept
        (Resources.handle?_eq_some found) (by simp [Resource.kind]) rfl rfl rfl).giving
        given rfl (ite_self _)

end UsbHost
