import UsbHost.Proofs.Naming

/-!
# Moves of a session

What a session does with its resources, stated for the custody: storing a resource drops what
stood under the name, and exchanging a resource for another drops the old one or releases it. The
steps are put together from these in the same way as they are put together from the operations of
a session.
-/

set_option autoImplicit false

namespace UsbHost.Session

open Custody (Move Leads)

variable {α : Type} {terms : Terms} {session : Session} {ledger noted : Ledger}

structure Kept (terms : Terms) (session : Session) (ledger : Ledger) : Prop where
  sound : Custody.Sound terms (session.custody ledger)
  named : session.resources.Named
  library : terms.library session.library

/-- The way from one session and ledger to another. -/
structure Goes (terms : Terms) (session : Session) (ledger : Ledger) (after : Session)
    (noted : Ledger) : Prop where
  leads : Leads terms (session.custody ledger) (after.custody noted)
  named : after.resources.Named
  library : after.library = session.library

theorem Kept.stays (kept : Kept terms session ledger) : Goes terms session ledger session ledger :=
  ⟨.refl, kept.named, rfl⟩

theorem Goes.kept {after : Session} (goes : Goes terms session ledger after noted)
    (kept : Kept terms session ledger) : Kept terms after noted where
  sound := goes.leads.sound kept.sound
  named := goes.named
  library := by
    rw [goes.library]
    exact kept.library

/-! ## Resources and their names -/

@[simp] theorem store_resources (session : Session) (name : String) (resource : Resource) :
    (session.store name resource).resources = session.resources.put name resource := by
  unfold store
  dsimp only
  split <;> rfl

@[simp] theorem store_library (session : Session) (name : String) (resource : Resource) :
    (session.store name resource).library = session.library := by
  unfold store
  dsimp only
  split <;> rfl

theorem store_owners (session : Session) (name : String) (resource : Resource) :
    (session.store name resource).owners.Perm
      (resource :: List.map Prod.snd (session.resources.remove resource.kind name)) := by
  rw [owners, store_resources]
  exact Resources.put_perm

/-- Storing a resource drops what stood under its name; others that wait are left alone. -/
theorem store_leads (session : Session) (ledger : Ledger) (named : session.resources.Named)
    (name : String) (resource : Resource) (waiting : List Resource) :
    Leads terms ⟨session.world, resource :: session.owners ++ waiting, ledger⟩
      ⟨(session.store name resource).world, (session.store name resource).owners ++ waiting,
        ledger⟩ := by
  have placed := (session.store_owners name resource).symm.append_right waiting
  cases found : session.resources.find? resource.kind name with
  | none =>
    have same : (session.store name resource).world = session.world := by
      simp only [store, found]
    rw [Resources.remove_of_not_found found] at placed
    rw [same]
    exact .single (.shuffle placed)
  | some old =>
    have dropped : (session.store name resource).world = old.drop session.world := by
      simp only [store, found]
    have taken := ((Resources.find?_perm named found).append_right waiting).cons resource
    rw [dropped]
    exact (Relation.ReflTransGen.single
      (.shuffle ((taken.trans (.swap ..)).trans (placed.cons old)))).tail .drop

theorem store_goes {world : World} (kept : Kept terms session ledger) (name : String)
    (resource : Resource)
    (arrives : Leads terms (session.custody ledger)
      ⟨world, resource :: session.owners, noted⟩) :
    Goes terms session ledger ({ session with world }.store name resource) noted where
  leads := by
    have stored : Leads terms ⟨world, resource :: session.owners ++ [], noted⟩
        ⟨({ session with world }.store name resource).world,
          ({ session with world }.store name resource).owners ++ [], noted⟩ :=
      store_leads { session with world } noted kept.named name resource []
    simp only [List.append_nil] at stored
    exact arrives.trans stored
  named := by
    rw [store_resources]
    exact kept.named.put
  library := store_library ..

/-- A resource that was stored under a name is exchanged for another. -/
theorem update_goes {world : World} {old new : Resource} {name : String}
    (kept : Kept terms session ledger)
    (found : session.resources.find? new.kind name = some old)
    (exchanged : ∀ others, session.owners.Perm (old :: others) →
      Leads terms (session.custody ledger) ⟨world, new :: others, noted⟩) :
    Goes terms session ledger (session.update name new world) noted where
  leads := (exchanged _ (Resources.find?_perm kept.named found)).tail
    (.shuffle Resources.put_perm.symm)
  named := kept.named.put
  library := rfl

/-- A resource takes over a title, or nothing, and the old one is dropped. -/
theorem reset_goes {world : World} {old : Resource} {name : String} (new : Resource)
    (kept : Kept terms session ledger)
    (found : session.resources.find? new.kind name = some old)
    (arrives : Leads terms (session.custody ledger) ⟨world, new :: session.owners, noted⟩) :
    Goes terms session ledger (session.update name new (old.drop world)) noted := by
  refine update_goes kept found fun others perm => ?_
  exact (arrives.tail (.shuffle ((perm.cons new).trans (.swap ..)))).tail .drop

/-- A resource exchanges its title for one of the client's, or for none. -/
theorem reset_adopting {old : Resource} {name : String} (new : Resource)
    (kept : Kept terms session ledger) (found : session.resources.find? new.kind name = some old)
    (held : ∀ title ∈ new.title?, title ∈ ledger.pending) (claimed : new.claimed = [])
    (library : new.library = old.library) :
    Goes terms session ledger (session.update name new (old.drop session.world))
      { ledger with pending := new.title?.elim ledger.pending ledger.pending.erase } := by
  have allowed : terms.library new.library := by
    rw [library]
    exact kept.sound.libraries old (Resources.mem_of_find? found)
  exact reset_goes new kept found (.single (.adopt held claimed allowed))

/-- A resource gives its title into the client's hands and is empty from then on. -/
theorem release_goes {old : Resource} {name : String} (new : Resource)
    (kept : Kept terms session ledger) (found : session.resources.find? new.kind name = some old)
    (kind : old.kind ≠ .list)
    (empty : new.title? = none) (claimed : new.claimed = []) (library : new.library = old.library) :
    Goes terms session ledger (session.update name new session.world)
      { ledger with
        pending := old.title?.toList ++ ledger.pending
        released := (old.title?.bind Title.handle?).toList ++ ledger.released } := by
  have allowed : terms.library new.library := by
    rw [library]
    exact kept.sound.libraries old (Resources.mem_of_find? found)
  refine update_goes kept found fun others perm => ?_
  exact ((Relation.ReflTransGen.single (.shuffle perm)).tail (.release kind)).tail
    (.place empty claimed allowed)

/-! ## Putting steps together -/

theorem withSlot_goes {slot : Option α} {next : α → Ended} (kept : Kept terms session ledger)
    (missing : slot = none → noted = ledger)
    (present : ∀ value, slot = some value → Goes terms session ledger (next value).2 noted) :
    Goes terms session ledger (session.withSlot slot next).2 noted := by
  unfold withSlot
  cases found : slot with
  | some value => exact present value found
  | none =>
    rw [missing found]
    exact kept.stays

theorem observe_goes {after : World} (kept : Kept terms session ledger)
    (quiet : session.world.bus.Quiet after.bus) :
    Goes terms session ledger { session with world := after } ledger :=
  ⟨.single (.observe quiet), kept.named, rfl⟩

theorem perform_goes {operation : Usb α} {next : α → Session → Ended} {ok : α → World → Prop}
    (kept : Kept terms session ledger)
    (ends : operation.Ends session.world ok (fun _ after => session.world.Refused after))
    (whenOk : ∀ value after, ok value after →
      Goes terms session ledger (next value { session with world := after }).2 ledger) :
    Goes terms session ledger (session.perform operation next).2 ledger := by
  unfold perform
  split
  · next value after reached => exact whenOk value after (ends.of_ok reached)
  · next error after reached => exact observe_goes kept (ends.of_error reached).quiet

theorem perform_storing {operation : Usb α} {wrap : α → Resource} {library : Library}
    (kept : Kept terms session ledger) (allowed : terms.library library)
    (ends : operation.Ends session.world
      (fun value after => session.world.Makes library (wrap value) after)
      (fun _ after => session.world.Refused after)) (name : String) :
    Goes terms session ledger
      (session.perform operation fun value => storing name (wrap value)).2 ledger := by
  refine perform_goes kept ends fun value after makes => ?_
  exact store_goes kept name (wrap value) (.single (.acquire makes allowed))

theorem perform_reading {operation : Usb α} {answered : α → Answer}
    (kept : Kept terms session ledger)
    (ends : operation.Ends session.world (fun _ after => session.world.bus.Quiet after.bus)
      (fun _ after => session.world.Refused after)) :
    Goes terms session ledger
      (session.perform operation fun value session => session.answer (answered value)).2 ledger :=
  perform_goes kept ends fun _ _ quiet => observe_goes kept quiet

theorem run_storing {operation : World → α × World} {wrap : α → Resource} {library : Library}
    (kept : Kept terms session ledger) (allowed : terms.library library)
    (makes : session.world.Makes library (wrap (operation session.world).1)
      (operation session.world).2) (name : String) :
    Goes terms session ledger
      (session.run operation fun value => storing name (wrap value)).2 ledger :=
  store_goes kept name (wrap _) (.single (.acquire makes allowed))

theorem place_storing {resource : Resource} (kept : Kept terms session ledger)
    (empty : resource.title? = none) (claimed : resource.claimed = [])
    (library : resource.library = session.library) (name : String) :
    Goes terms session ledger (storing name resource session).2 ledger := by
  have allowed : terms.library resource.library := by
    rw [library]
    exact kept.library
  exact store_goes kept name resource (.single (.place empty claimed allowed))

/-- A resource that takes a title out of the client's hands, if any, is stored. -/
theorem adopt_storing {resource : Resource} (kept : Kept terms session ledger)
    (held : ∀ title ∈ resource.title?, title ∈ ledger.pending) (claimed : resource.claimed = [])
    (library : resource.library = session.library) (name : String) :
    Goes terms session ledger (storing name resource session).2
      { ledger with pending := resource.title?.elim ledger.pending ledger.pending.erase } := by
  have allowed : terms.library resource.library := by
    rw [library]
    exact kept.library
  exact store_goes kept name resource (.single (.adopt held claimed allowed))

end UsbHost.Session
