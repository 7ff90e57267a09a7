import UsbHost.Proofs.Closing

/-!
# The order of drops

Dropping several resources gives their titles back, makes the calls of each, and logs the lines of
each. What each of them does is settled before the first one is dropped, so the order of the drops
shows in nothing but the order of the journal and of the log.
-/

set_option autoImplicit false

namespace UsbHost

variable {terms : Terms} {world : World} {ledger : Ledger} {dropped rest : List Resource}

namespace World

def dropAll (world : World) (resources : List Resource) : World :=
  resources.foldl (fun world resource => resource.drop world) world

/-- Nothing differs but the order of the journal and of the log. -/
structure Reordered (left right : World) : Prop where
  bus : right.bus = { left.bus with journal := right.bus.journal }
  journal : left.bus.journal.Perm right.bus.journal
  log : left.log.Perm right.log
  failures : (left.log.filter Event.isFailure).Perm (right.log.filter Event.isFailure)

end World

/-! ## Several resources -/

namespace Custody.Sound

/-- What dropping one resource does to the calls and lines of another. -/
theorem drop_spares {resource other : Resource} {others : List Resource}
    (sound : Sound terms ⟨world, resource :: others, ledger⟩) (member : other ∈ others) :
    other.calls (resource.drop world).bus = other.calls world.bus ∧
      other.lines (resource.drop world).bus = other.lines world.bus := by
  have backs := sound.backs_cons
  have isOpen (handle : Handle) (same : resource = .handle handle) : handle.Open world.bus := by
    intro raw owned
    refine backs.handle_open (List.mem_append_left _ ?_)
    simp [same, Resource.title?, owned]
  refine other.calls_persists (resource.drop_persists isOpen) fun raw owned => ?_
  have out : .handle raw ∈ (Custody.mk world others ledger).titles := mem_titles member owned
  refine ⟨fun same => ?_, backs.handle_open (List.mem_append_right _ out)⟩
  rw [← same] at backs
  exact Bus.Backs.handle_once backs out

/-- The world after several resources were dropped, as a function of the world before. -/
theorem dropAll_eq (sound : Sound terms ⟨world, dropped ++ rest, ledger⟩) :
    world.dropAll dropped =
        ⟨{ world.bus.withoutAll (dropped.filterMap Resource.title?) with
            journal := world.bus.journal ++ dropped.flatMap (Resource.calls world.bus) },
          world.log ++ dropped.flatMap (Resource.lines world.bus)⟩ ∧
      Sound terms ⟨world.dropAll dropped, rest, ledger⟩ := by
  induction dropped generalizing world with
  | nil =>
    refine ⟨?_, sound⟩
    simp [World.dropAll, Bus.withoutAll]
  | cons resource others ih =>
    obtain ⟨reached, soundAfter⟩ := ih sound.drop
    refine ⟨?_, soundAfter⟩
    have calls : others.flatMap (Resource.calls (resource.drop world).bus) =
        others.flatMap (Resource.calls world.bus) :=
      List.flatMap_congr fun other member => (sound.drop_spares (List.mem_append_left _ member)).1
    have lines : others.flatMap (Resource.lines (resource.drop world).bus) =
        others.flatMap (Resource.lines world.bus) :=
      List.flatMap_congr fun other member => (sound.drop_spares (List.mem_append_left _ member)).2
    have first := resource.drop_eq sound.backs_cons (sound.distinct resource List.mem_cons_self)
    have titles : (resource :: others).filterMap Resource.title? =
        resource.title?.toList ++ others.filterMap Resource.title? := by
      cases owned : resource.title? <;> simp [owned]
    refine reached.trans ?_
    rw [calls, lines, first, titles, Bus.withoutAll_append]
    simp [Resource.dropped, Bus.withoutAll_journal]

theorem dropAll_perm {others : List Resource}
    (sound : Sound terms ⟨world, dropped ++ rest, ledger⟩) (perm : dropped.Perm others) :
    (world.dropAll dropped).Reordered (world.dropAll others) := by
  obtain ⟨left, -⟩ := sound.dropAll_eq
  obtain ⟨right, -⟩ := (sound.shuffle (perm.append_right rest)).dropAll_eq
  have journal := (perm.flatMap_right (Resource.calls world.bus)).append_left world.bus.journal
  have log := (perm.flatMap_right (Resource.lines world.bus)).append_left world.log
  rw [left, right]
  refine ⟨?_, journal, log, log.filter _⟩
  rw [world.bus.withoutAll_perm (perm.filterMap Resource.title?)]

end Custody.Sound

/-! ## Resources by their names -/

namespace Resources

variable {resources : Resources} {kind : ResourceKind} {name : String}

/-- The resources under the given names; a name under which nothing stands is passed over. -/
def findAll (resources : Resources) (keys : List (ResourceKind × String)) : List Resource :=
  keys.filterMap fun key => resources.find? key.1 key.2

def removeAll (resources : Resources) (keys : List (ResourceKind × String)) : Resources :=
  keys.foldl (fun resources key => resources.remove key.1 key.2) resources

theorem findAll_remove {keys : List (ResourceKind × String)} (fresh : (kind, name) ∉ keys) :
    (resources.remove kind name).findAll keys = resources.findAll keys := by
  refine List.filterMap_congr fun key member => find?_remove ?_
  rintro rfl
  exact fresh member

theorem removeAll_perm {first second : List (ResourceKind × String)} (perm : first.Perm second) :
    resources.removeAll first = resources.removeAll second :=
  perm.foldl_eq' (fun _ _ _ _ _ => List.filter_comm ..) resources

/-- The resources under distinct names are some of all resources. -/
theorem findAll_append_perm {keys : List (ResourceKind × String)} (named : resources.Named)
    (distinct : keys.Nodup) :
    (List.map Prod.snd resources).Perm
      (resources.findAll keys ++ List.map Prod.snd (resources.removeAll keys)) := by
  induction keys generalizing resources with
  | nil => exact .refl _
  | cons key keys ih =>
    obtain ⟨fresh, distinctRest⟩ := List.nodup_cons.mp distinct
    have removed : (resources.remove key.1 key.2).Named := named.remove
    have others := ih removed distinctRest
    rw [findAll_remove fresh] at others
    rw [findAll, List.filterMap_cons]
    cases found : resources.find? key.1 key.2 with
    | none =>
      rw [remove_of_not_found found] at others
      rw [removeAll, List.foldl_cons, remove_of_not_found found]
      exact others
    | some resource => exact (find?_perm named found).trans (others.cons resource)

end Resources

namespace Session

variable {session : Session}

/-- Ends the resources under the given names one after the other. -/
def dropAll (session : Session) (keys : List (ResourceKind × String)) : Session :=
  session.steps (keys.map fun key => .drop key.1 key.2)

theorem dropAll_eq {keys : List (ResourceKind × String)} (distinct : keys.Nodup) :
    session.dropAll keys =
      { session with
        resources := session.resources.removeAll keys
        world := session.world.dropAll (session.resources.findAll keys) } := by
  induction keys generalizing session with
  | nil => rfl
  | cons key keys ih =>
    obtain ⟨fresh, distinctRest⟩ := List.nodup_cons.mp distinct
    have reached : session.dropAll (key :: keys) =
        (session.step (.drop key.1 key.2)).2.dropAll keys := rfl
    rw [reached, ih distinctRest]
    cases found : session.resources.find? key.1 key.2 with
    | none =>
      have same : (session.step (.drop key.1 key.2)).2 = session := by
        rw [step, found]
        rfl
      have findAll : session.resources.findAll (key :: keys) = session.resources.findAll keys :=
        List.filterMap_cons_none found
      have removeAll : session.resources.removeAll (key :: keys) =
          session.resources.removeAll keys := by
        rw [Resources.removeAll, List.foldl_cons, Resources.remove_of_not_found found,
          Resources.removeAll]
      rw [same, findAll, removeAll]
    | some resource =>
      have dropped : (session.step (.drop key.1 key.2)).2 =
          { session with
            resources := session.resources.remove key.1 key.2
            world := resource.drop session.world } := by
        rw [step, found]
        rfl
      have findAll : session.resources.findAll (key :: keys) =
          resource :: session.resources.findAll keys :=
        List.filterMap_cons_some found
      rw [dropped, findAll, Resources.findAll_remove fresh]
      rfl

/-- Two sessions that dropped the same resources, each in an order of its own. -/
structure Alike (left right : Session) : Prop where
  session : right = { left with world := right.world }
  world : left.world.Reordered right.world
  misuse : left.world.bus.misuse = [] ∧ right.world.bus.misuse = []

theorem Kept.dropAll_alike {first second : List (ResourceKind × String)}
    (kept : Kept terms session ledger) (distinct : first.Nodup) (perm : first.Perm second) :
    (session.dropAll first).Alike (session.dropAll second) := by
  have found : (session.resources.findAll first).Perm (session.resources.findAll second) :=
    perm.filterMap _
  have sound := kept.sound.shuffle (Resources.findAll_append_perm kept.named distinct)
  have soundSecond := sound.shuffle (found.append_right _)
  rw [dropAll_eq distinct, dropAll_eq (perm.nodup distinct), Resources.removeAll_perm perm]
  exact
    { session := rfl
      world := sound.dropAll_perm found
      misuse := ⟨sound.dropAll_eq.2.backs.misuse, soundSecond.dropAll_eq.2.backs.misuse⟩ }

end Session

namespace Client

/-- In every reachable state, resources can be dropped in any order: the bus afterwards is the
same, and the journals and the logs differ in their order alone. -/
theorem run_drops_commute (acts : List Act) (permitted : fresh.Permitted .free acts)
    (first second : List (ResourceKind × String)) (distinct : first.Nodup)
    (perm : first.Perm second) :
    ((fresh.run acts).session.dropAll first).Alike ((fresh.run acts).session.dropAll second) :=
  (run_leads (fresh_kept rfl) acts permitted).2.dropAll_alike distinct perm

/-- A context with everything that can be derived from it; one of the claims cannot be released. -/
def derivedRun : List Act :=
  [.step (.control (.attach { interfaces := 2 })), .step (.context (.start "context" .defaults)),
    .step (.list (.enumerate "list" "context")), .step (.list (.device "list" 0 "device")),
    .step (.device (.openHandle "device" "handle")), .step (.handle (.claim "handle" 0)),
    .step (.handle (.claim "handle" 1)), .step (.device (.config "device" 0 "record" none)),
    .step (.control (.failReleaseOf 1 (-4)))]

theorem run_drops_commute_derived :
    let keys : List (ResourceKind × String) :=
      [(.context, "context"), (.handle, "handle"), (.list, "list"), (.device, "device"),
        (.descriptor, "record")]
    let session := (fresh.run derivedRun).session
    fresh.Permitted .free derivedRun ∧ keys.Nodup ∧ keys.Perm keys.reverse ∧
      (session.dropAll keys).world.bus.journal ≠ (session.dropAll keys.reverse).world.bus.journal ∧
      (session.dropAll keys).Alike (session.dropAll keys.reverse) := by
  intro keys session
  have permitted : fresh.Permitted .free derivedRun := by decide
  have distinct : keys.Nodup := by decide
  have perm : keys.Perm keys.reverse := (List.reverse_perm keys).symm
  exact ⟨permitted, distinct, perm, by decide,
    run_drops_commute derivedRun permitted keys keys.reverse distinct perm⟩

end Client

end UsbHost
