import UsbHost.Proofs.Persistence
import UsbHost.Proofs.SessionMoves

/-!
# Moves of single steps

What a step may rely on in a session that is kept, how a step is taken down in the ledger, and the
steps from outside and on contexts as chains of moves.
-/

set_option autoImplicit false

namespace UsbHost

open Custody (Move Leads)
open Session (Kept Goes)

variable {terms : Terms} {session : Session} {ledger : Ledger} {name : String}

/-! ## What a session may rely on -/

theorem Custody.mem_titles {custody : Custody} {resource : Resource} {title : Title}
    (member : resource ∈ custody.owners) (owned : resource.title? = some title) :
    title ∈ custody.titles :=
  List.mem_append_left _ (List.mem_filterMap.mpr ⟨resource, member, owned⟩)

/-- Dropping a resource of a sound custody touches nothing but what the resource owns. -/
theorem Custody.Sound.drop_persists {world : World} {resource : Resource} {owners : List Resource}
    (sound : Sound terms ⟨world, resource :: owners, ledger⟩) :
    world.bus.Persists resource.title? (resource.drop world).bus := by
  refine resource.drop_persists ?_
  rintro handle rfl raw owned
  exact sound.backs.handle_open (mem_titles List.mem_cons_self (by simp [Resource.title?, owned]))

namespace Session.Kept

theorem allowed {kind : ResourceKind} {resource : Resource} (kept : Kept terms session ledger)
    (found : session.resources.find? kind name = some resource) :
    terms.library resource.library :=
  kept.sound.libraries resource (Resources.mem_of_find? found)

theorem attached_of_alive {device : Device} (kept : Kept terms session ledger)
    (alive : .device device ∈ session.owners) : device.Attached session.world.bus := by
  intro raw owned
  have held : .reference raw ∈ (session.custody ledger).titles :=
    Custody.mem_titles alive (by simp [Resource.title?, owned])
  exact kept.sound.backs.reference_known held

theorem attached {device : Device} (kept : Kept terms session ledger)
    (found : session.resources.find? .device name = some (.device device)) :
    device.Attached session.world.bus :=
  kept.attached_of_alive (Resources.mem_of_find? found)

theorem isOpen_of_alive {handle : Handle} (kept : Kept terms session ledger)
    (alive : .handle handle ∈ session.owners) : handle.Open session.world.bus := by
  intro raw owned
  have held : .handle raw ∈ (session.custody ledger).titles :=
    Custody.mem_titles alive (by simp [Resource.title?, owned])
  exact kept.sound.backs.handle_open held

theorem isOpen {handle : Handle} (kept : Kept terms session ledger)
    (found : session.resources.find? .handle name = some (.handle handle)) :
    handle.Open session.world.bus :=
  kept.isOpen_of_alive (Resources.mem_of_find? found)

theorem seated {handle : Handle} (kept : Kept terms session ledger)
    (found : session.resources.find? .handle name = some (.handle handle)) :
    handle.Seated session.world.bus := by
  intro raw owned
  have backs := kept.sound.backs
  obtain ⟨opened, isOpen⟩ := kept.isOpen found raw owned
  have known := backs.bound opened (backs.orderly.handle?_eq_some_iff.mp isOpen).1
  exact ⟨opened, isOpen, known, backs.orderly.nonNull _ known⟩

theorem listed {list : DeviceList} (kept : Kept terms session ledger)
    (alive : .list list ∈ session.owners) {raw : Address} (entry : raw ∈ list.entries) :
    raw ≠ 0 ∧ session.world.bus.Knows raw := by
  have backs := kept.sound.backs
  unfold DeviceList.entries at entry
  cases owned : list.array with
  | none => simp [owned] at entry
  | some array =>
    have held : .array array ∈ (session.custody ledger).titles :=
      Custody.mem_titles alive (by simp [Resource.title?, owned])
    rw [owned] at entry
    have known := backs.entry_known held (List.mem_of_mem_take entry)
    exact ⟨backs.orderly.nonNull _ known, known⟩

theorem entry_known {list : DeviceList} (kept : Kept terms session ledger)
    (found : session.resources.find? .list name = some (.list list)) {raw : Address}
    (entry : raw ∈ list.entries) : session.world.bus.Knows raw :=
  (kept.listed (Resources.mem_of_find? found) entry).2

end Session.Kept

/-! ## The ledger -/

/-- Whether a step has no bearing on the ledger of any client. -/
def Step.keepsLedger : Step → Bool
  | .context (.adopt ..) | .context (.reset ..) | .context (.release _) => false
  | .device (.release _) => false
  | .handle (.adopt ..) | .handle (.reset ..) | .handle (.release _) => false
  | .handle (.claim ..) | .handle (.unclaim ..) => false
  | .descriptor (.adopt _ (some _)) | .descriptor (.release ..) => false
  | _ => true

theorem Ledger.after_nothing {step : Step} (noTake : session.takes? step = none)
    (noGift : session.gives? step = none) (noEvent : session.claimEvent? step = none) :
    ledger.after session step = ledger := by
  simp [after, noGift, noTake, noEvent]

theorem Ledger.after_of_keeps {step : Step} (keeps : step.keepsLedger) :
    ledger.after session step = ledger := by
  have noGift : session.gives? step = none := by
    unfold Session.gives?
    split <;> first | contradiction | rfl
  have noTake : session.takes? step = none := by
    unfold Session.takes?
    split <;> first | contradiction | rfl
  have noEvent : session.claimEvent? step = none := by
    unfold Session.claimEvent?
    split
    · split <;> first | contradiction | rfl
    · rfl
  exact after_nothing noTake noGift noEvent

theorem Session.Goes.unnoted {after : Session} {step : Step}
    (goes : Goes terms session ledger after ledger) (keeps : step.keepsLedger) :
    Goes terms session ledger after (ledger.after session step) := by
  rw [Ledger.after_of_keeps keeps]
  exact goes

theorem Session.Goes.taking {after : Session} {step : Step} {title : Option Title}
    (goes : Goes terms session ledger after
      { ledger with pending := title.elim ledger.pending ledger.pending.erase })
    (taken : session.takes? step = title) (noGift : session.gives? step = none)
    (noEvent : session.claimEvent? step = none) :
    Goes terms session ledger after (ledger.after session step) := by
  have same : ledger.after session step =
      { ledger with pending := title.elim ledger.pending ledger.pending.erase } := by
    simp [Ledger.after, taken, noGift, noEvent]
  rw [same]
  exact goes

theorem Session.Goes.giving {after : Session} {step : Step} {title : Option Title}
    (goes : Goes terms session ledger after
      { ledger with
        pending := title.toList ++ ledger.pending
        released := (title.bind Title.handle?).toList ++ ledger.released })
    (given : session.gives? step = title) (noTake : session.takes? step = none)
    (noEvent : session.claimEvent? step = none) :
    Goes terms session ledger after (ledger.after session step) := by
  have same : ledger.after session step =
      { ledger with
        pending := title.toList ++ ledger.pending
        released := (title.bind Title.handle?).toList ++ ledger.released } := by
    simp [Ledger.after, given, noTake, noEvent]
  rw [same]
  exact goes

/-! ## Controls -/

theorem attachMany_leads (info : DeviceInfo) (count : Nat) (world : World)
    (owners : List Resource) :
    Leads terms ⟨world, owners, ledger⟩
      ⟨{ world with bus := (world.bus.attachMany info count).2 }, owners, ledger⟩ := by
  induction count generalizing world with
  | zero => exact .refl
  | succ count ih =>
    have first : Leads terms ⟨world, owners, ledger⟩
        ⟨{ world with bus := (world.bus.attach info).2 }, owners, ledger⟩ := .single (.attach info)
    cases count with
    | zero => exact first
    | succ count => exact first.trans (ih { world with bus := (world.bus.attach info).2 })

theorem ControlStep.goes (kept : Kept terms session ledger) (step : ControlStep)
    (codes : ∀ code ∈ (Step.control step).injected?, terms.code code) :
    Goes terms session ledger (step.perform session).2 ledger := by
  cases step with
  | attach info => exact ⟨.single (.attach info), kept.named, rfl⟩
  | attachMany count info => exact ⟨attachMany_leads info _ _ _, kept.named, rfl⟩
  | fail function code =>
    unfold perform
    dsimp only
    split
    · next known =>
      refine ⟨.single (.arrange ?_ fun _ old => .inl old), kept.named, rfl⟩
      rintro failure (_ | ⟨_, old⟩)
      · exact .inr (codes code rfl)
      · exact .inl old
    · exact kept.stays
  | failReleaseOf interface code =>
    refine ⟨.single (.arrange (fun _ old => .inl old) ?_), kept.named, rfl⟩
    rintro failure (_ | ⟨_, old⟩)
    · exact .inr (codes code rfl)
    · exact .inl old
  | clearFailures =>
    exact ⟨.single (.arrange (List.forall_mem_nil _) (List.forall_mem_nil _)), kept.named, rfl⟩
  | references device | claims handle | countCalls function | callArguments function
  | misuseCount | logCount level | logMessages level => exact kept.stays

/-! ## Contexts -/

theorem ContextStep.startInto_goes (kept : Kept terms session ledger) (target : String)
    (source : ContextSource)
    (libraries : ∀ library ∈ session.startsWith? (.context (.start target source)),
      terms.library library) :
    Goes terms session ledger (startInto session target source).2 ledger := by
  cases source with
  | defaults | policies policies | session =>
    exact Session.perform_storing kept (libraries _ rfl) (Context.start_ends _ _) target
  | settings settings =>
    unfold startInto Session.run Context.startWithSettings
    dsimp only
    cases read : Policies.ofSettings settings with
    | error invalid => exact kept.stays
    | ok policies =>
      have allowed : terms.library { describe := session.library.describe, policies } :=
        libraries _ (by simp [Session.startsWith?, read, Except.toOption])
      have goes := Session.perform_storing kept allowed
        (Context.start_ends { describe := session.library.describe, policies } session.world)
        target
      dsimp only
      unfold Session.perform at goes
      cases reached : Context.start { describe := session.library.describe, policies }
          session.world with
      | ok context world =>
        rw [reached] at goes
        exact goes
      | error error world =>
        rw [reached] at goes
        exact goes

theorem ContextStep.goes (kept : Kept terms session ledger) (step : ContextStep)
    (permits : Client.PermitsStep terms ⟨session, ledger⟩ (.context step)) :
    Goes terms session ledger (step.perform session).2 (ledger.after session (.context step)) := by
  cases step with
  | start target source => exact (startInto_goes kept target source permits.libraries).unnoted rfl
  | empty target =>
    exact (Session.place_storing kept rfl rfl rfl target).unnoted rfl
  | adopt target raw =>
    have held : ∀ title ∈ (Resource.context (.ofRaw session.library raw)).title?,
        title ∈ ledger.pending := permits.held
    exact (Session.adopt_storing kept held rfl rfl target).taking rfl rfl (ite_self _)
  | look context =>
    exact (Session.withSlot_goes kept (fun _ => rfl) fun _ _ => kept.stays).unnoted rfl
  | reset context raw =>
    refine Session.withSlot_goes kept (fun missing => ?_) fun value found => ?_
    · exact Ledger.after_nothing (by simp [Session.takes?, missing]) rfl (ite_self _)
    · have taken : session.takes? (.context (.reset context raw)) =
          (Resource.context { value with owner := .ofRaw raw.owned? }).title? := by
        simp [Session.takes?, found, Resource.title?, Owner.ofRaw]
      have held := permits.held
      dsimp only at held
      rw [taken] at held
      exact (Session.reset_adopting (.context { value with owner := .ofRaw raw.owned? }) kept
        (Resources.context?_eq_some found) held rfl rfl).taking taken rfl (ite_self _)
  | release context =>
    refine Session.withSlot_goes kept (fun missing => ?_) fun value found => ?_
    · exact Ledger.after_nothing rfl (by simp [Session.gives?, missing]) (ite_self _)
    · have given : session.gives? (.context (.release context)) =
          (Resource.context value).title? := by
        simp [Session.gives?, found]
      exact (Session.release_goes (.context { value with owner := .empty }) kept
        (Resources.context?_eq_some found) (by simp [Resource.kind]) rfl rfl rfl).giving
        given rfl (ite_self _)

end UsbHost
