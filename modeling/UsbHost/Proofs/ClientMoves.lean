import UsbHost.Proofs.DeviceMoves
import UsbHost.Proofs.HandleMoves
import UsbHost.Proofs.ListMoves

/-!
# Moves of a client

Every act of a client that keeps to the rules, and so every run, is a chain of moves.
-/

set_option autoImplicit false

namespace UsbHost

open Custody (Move Leads)
open Session (Kept Goes)

variable {terms : Terms} {session : Session} {ledger : Ledger}

theorem Session.drop_goes (kept : Kept terms session ledger) (kind : ResourceKind)
    (name : String) :
    Goes terms session ledger (session.step (.drop kind name)).2 ledger := by
  refine withSlot_goes kept (fun _ => rfl) fun resource found => ?_
  exact
    { leads := (Relation.ReflTransGen.single
        (.shuffle (Resources.find?_perm kept.named found))).tail .drop
      named := kept.named.remove
      library := rfl }

theorem Session.move_goes (kept : Kept terms session ledger) (kind : ResourceKind)
    (name target : String) :
    Goes terms session ledger (session.step (.move kind name target)).2 ledger := by
  refine withSlot_goes kept (fun _ => rfl) fun resource found => ?_
  have removed : (session.resources.remove kind name).Named := kept.named.remove
  have stored : Leads terms _ _ :=
    store_leads { session with resources := session.resources.remove kind name } ledger removed
      target resource []
  simp only [List.append_nil] at stored
  refine ⟨.head (.shuffle (Resources.find?_perm kept.named found)) stored, ?_, store_library ..⟩
  have renamed : (Resources.put (session.resources.remove kind name) target resource).Named :=
    removed.put
  rwa [← store_resources { session with resources := session.resources.remove kind name }]
    at renamed

/-- Every step of a client that keeps to the rules is a chain of moves. -/
theorem Session.step_goes (kept : Kept terms session ledger) (step : Step)
    (permits : Client.PermitsStep terms ⟨session, ledger⟩ step) :
    Goes terms session ledger (session.step step).2 (ledger.after session step) := by
  cases step with
  | control step => exact (step.goes kept permits.codes).unnoted rfl
  | context step => exact step.goes kept permits
  | list step => exact (step.goes kept).unnoted rfl
  | device step => exact step.goes kept permits
  | handle step => exact step.goes kept permits
  | descriptor step => exact step.goes kept permits
  | native step =>
    cases step with
    | describe code => exact kept.stays.unnoted rfl
    | call call | enumerate context held | readConfig device index held | freeHeldArray held unref
    | freeHeldRecord held => exact absurd permits.indirect (by simp [Step.isNative])
  | drop kind name => exact (drop_goes kept kind name).unnoted rfl
  | move kind name target => exact (move_goes kept kind name target).unnoted rfl
  | inspect kind name pretty =>
    exact (withSlot_goes kept (fun _ => rfl) fun _ _ => kept.stays).unnoted rfl

namespace Client

/-- What a client brings into every act. -/
def Kept (terms : Terms) (client : Client) : Prop :=
  Session.Kept terms client.session client.ledger

/-- A step that takes no title, chooses nothing and is made through a resource is permitted if it
names an attached device or none. -/
theorem PermitsStep.of_plain {client : Client} {step : Step}
    (takes : client.session.takes? step = none)
    (attached : ∀ device ∈ step.namedDevice?, client.session.world.bus.Knows device)
    (injected : step.injected? = none) (starts : client.session.startsWith? step = none)
    (indirect : step.isNative = false) : client.PermitsStep terms step where
  held := by simp [takes]
  attached := attached
  codes := by simp [injected]
  libraries := by simp [starts]
  indirect := indirect

/-- Every act of a client that keeps to the rules is a chain of moves. -/
theorem act_leads {client : Client} (kept : client.Kept terms) (act : Act)
    (permits : client.Permits terms act) :
    Leads terms client.custody (client.act act).custody ∧ (client.act act).Kept terms := by
  cases act with
  | step step =>
    have goes := Session.step_goes kept step permits
    exact ⟨goes.leads, goes.kept kept⟩
  | giveBack title =>
    have leads : Leads terms client.custody (client.act (.giveBack title)).custody :=
      .single (.giveBack permits)
    exact ⟨leads, Leads.sound leads kept.sound, kept.named, kept.library⟩
  | returnReference device =>
    have leads : Leads terms client.custody (client.act (.returnReference device)).custody :=
      .single (.returnReference permits.1 permits.2)
    exact ⟨leads, Leads.sound leads kept.sound, kept.named, kept.library⟩
  | choose library => exact ⟨.refl, kept.sound, kept.named, permits⟩

theorem fresh_kept (allowed : terms.library {}) : fresh.Kept terms :=
  ⟨fresh_sound terms, List.nodup_nil, allowed⟩

theorem run_leads {client : Client} (kept : client.Kept terms) (acts : List Act)
    (permitted : client.Permitted terms acts) :
    Leads terms client.custody (client.run acts).custody ∧ (client.run acts).Kept terms := by
  induction acts generalizing client with
  | nil => exact ⟨.refl, kept⟩
  | cons act rest ih =>
    obtain ⟨first, keptAfter⟩ := act_leads kept act permitted.1
    obtain ⟨others, keptLast⟩ := ih keptAfter permitted.2
    exact ⟨first.trans others, keptLast⟩

end Client

end UsbHost
