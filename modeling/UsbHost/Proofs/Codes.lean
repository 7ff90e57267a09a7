import UsbHost.Proofs.ClientMoves
import UsbHost.Proofs.Governance

/-!
# The codes of failed calls

Which codes a call may answer in place of its own, and what becomes of a negative code: the caller
gets it as an error if the policy of the call raises, and otherwise as if it were an answer. In
both cases the bus is as the native call left it.
-/

set_option autoImplicit false

namespace UsbHost

open Custody (Move Leads Sound)

namespace Terms

/-- Injected codes are failures of the width of a machine word; any policies may be chosen. -/
def failing : Terms where
  library _ := true
  code injected := -9223372036854775808 ≤ injected ∧ injected < 0

theorem failing_code {code : Int} (allowed : failing.code code) :
    -9223372036854775808 ≤ code ∧ code < 0 := by
  simpa [failing] using allowed

end Terms

/-! ## What becomes of a code -/

namespace Usb

variable {α β : Type} {operation : Usb α} {world : World} {governance : Governance} {code : Int}
  {value : α} {bus : Bus}

/-- The operation makes a call that answers `code` and leaves `bus` behind. It ends with `value`,
unless the call failed under a policy that raises. -/
def Concludes (operation : Usb α) (world : World) (governance : Governance) (code : Int)
    (value : α) (bus : Bus) : Prop :=
  operation.Ends world
    (fun result after =>
      result = value ∧ after.bus = bus ∧ ¬ (code < 0 ∧ governance.policy.raise))
    (fun error after =>
      error = governance.failure code ∧ after.bus = bus ∧ code < 0 ∧ governance.policy.raise)

namespace Concludes

theorem answers (concludes : operation.Concludes world governance code value bus)
    (passes : ¬ (code < 0 ∧ governance.policy.raise)) :
    ∃ after, operation world = .ok value after ∧ after.bus = bus := by
  unfold Concludes Ends at concludes
  cases reached : operation world with
  | ok result after =>
    rw [reached] at concludes
    obtain ⟨rfl, same, -⟩ := concludes
    exact ⟨after, rfl, same⟩
  | error error after =>
    rw [reached] at concludes
    exact absurd concludes.2.2 passes

theorem answers_of_nonneg (concludes : operation.Concludes world governance code value bus)
    (nonneg : 0 ≤ code) : ∃ after, operation world = .ok value after ∧ after.bus = bus :=
  concludes.answers fun fails => Int.not_lt.mpr nonneg fails.1

theorem refuses (concludes : operation.Concludes world governance code value bus)
    (negative : code < 0) (raises : governance.policy.raise) :
    ∃ after, operation world = .error (governance.failure code) after := by
  unfold Concludes Ends at concludes
  cases reached : operation world with
  | ok result after =>
    rw [reached] at concludes
    exact absurd ⟨negative, raises⟩ concludes.2.2
  | error error after =>
    rw [reached] at concludes
    obtain ⟨rfl, -⟩ := concludes
    exact ⟨after, rfl⟩

/-- What follows on the call may turn its answer into another one and write to the log. -/
theorem bind {next : α → Usb β} {result : β}
    (concludes : operation.Concludes world governance code value bus)
    (follows : ∀ after,
      (next value).Ends after (fun other last => other = result ∧ last.bus = after.bus)
        fun _ _ => False) :
    (operation >>= next).Concludes world governance code result bus := by
  unfold Concludes at concludes ⊢
  rw [ends_bind]
  refine concludes.imp ?_ fun _ _ refused => refused
  rintro _ after ⟨rfl, same, passes⟩
  refine (follows after).imp ?_ fun _ _ impossible => impossible.elim
  rintro other last ⟨rfl, still⟩
  exact ⟨rfl, still.trans same, passes⟩

end Concludes

/-- A checked call logs its failure and raises it where the policy says so. The bus is as the call
left it in either case. -/
theorem invoke_eq (library : Library) (policy : CallPolicy) (site : String)
    (function : NativeFunction) (native : Bus → Reply α × Bus) (world : World) :
    library.invoke policy site function native world =
      if (native world.bus).1.code < 0 ∧ policy.raise then
        .error ((library.governs site policy).failure (native world.bus).1.code)
          { bus := (native world.bus).2
            log := world.log ++
              (library.governs site policy).lines function (native world.bus).1.code }
      else
        .ok (native world.bus).1
          { bus := (native world.bus).2
            log := world.log ++
              (library.governs site policy).lines function (native world.bus).1.code } := by
  rw [Library.invoke_apply, library.raised?_eq site, ← library.failureLog_eq]
  by_cases fails : (native world.bus).1.code < 0 ∧ policy.raise
  · simp only [if_pos fails]
    rfl
  · simp only [if_neg fails]
    rfl

theorem invoke_concludes (library : Library) (policy : CallPolicy) (site : String)
    (function : NativeFunction) (native : Bus → Reply α × Bus) (world : World) :
    (library.invoke policy site function native).Concludes world (library.governs site policy)
      (native world.bus).1.code (native world.bus).1 (native world.bus).2 := by
  unfold Concludes
  rw [Library.invoke_ends, library.raised?_eq site]
  split
  · next error raised =>
    split at raised
    · next fails => exact ⟨(Option.some.inj raised).symm, rfl, fails⟩
    · contradiction
  · next raised =>
    split at raised
    · contradiction
    · next passes => exact ⟨rfl, rfl, passes⟩

end Usb

/-! ## The codes that are injected -/

/-- Every code that is to be injected is one that the terms allow. -/
structure Bus.Arranged (terms : Terms) (bus : Bus) : Prop where
  failures : ∀ failure ∈ bus.failures, terms.code failure.2
  releaseFailures : ∀ failure ∈ bus.releaseFailures, terms.code failure.2

namespace Bus.Arranged

variable {terms : Terms} {bus later : Bus}

theorem injected {function : NativeFunction} {code : Int} (arranged : bus.Arranged terms)
    (injected : bus.injected function = some code) : terms.code code := by
  obtain ⟨before, after, same, -⟩ := List.lookup_eq_some_iff.mp injected
  exact arranged.failures (function, code) (by simp [same])

theorem persists (arranged : bus.Arranged terms) (touched : Option Title)
    (persists : bus.Persists touched later) :
    later.Arranged terms where
  failures := by
    rw [persists.failures]
    exact arranged.failures
  releaseFailures := by
    rw [persists.releaseFailures]
    exact arranged.releaseFailures

end Bus.Arranged

namespace Custody

variable {terms : Terms} {custody after : Custody}

theorem Move.arranged (move : Move terms custody after) (sound : Sound terms custody)
    (arranged : custody.world.bus.Arranged terms) : after.world.bus.Arranged terms := by
  cases move with
  | shuffle | adopt | release => exact arranged
  | observe quiet => exact arranged.persists none quiet.persists
  | attach info => exact arranged.persists none (Bus.attach_persists _ info)
  | arrange failures releaseFailures =>
    exact
      { failures := fun failure member =>
          (failures failure member).elim (arranged.failures failure) id
        releaseFailures := fun failure member =>
          (releaseFailures failure member).elim (arranged.releaseFailures failure) id }
  | acquire makes => exact arranged.persists none makes.acquires.persists
  | drop => exact arranged.persists _ sound.drop_persists
  | claim ends => exact arranged.persists _ ends.persists
  | unclaim ends => exact arranged.persists _ ends.persists
  | @giveBack world title => exact arranged.persists _ (world.bus.returnCall_persists title)
  | @returnReference world device =>
    exact arranged.persists _ (world.bus.returnCall_persists (.reference device))

theorem Leads.arranged (leads : Leads terms custody after) (sound : Sound terms custody)
    (arranged : custody.world.bus.Arranged terms) : after.world.bus.Arranged terms := by
  induction leads with
  | refl => exact arranged
  | tail chain move ih => exact move.arranged (Leads.sound chain sound) ih

end Custody

/-- In every reachable state the terms allow every code that is to be injected. -/
theorem Client.run_arranged {terms : Terms} (allowed : terms.library {}) (acts : List Act)
    (permitted : fresh.Permitted terms acts) :
    (fresh.run acts).session.world.bus.Arranged terms := by
  obtain ⟨leads, -⟩ := run_leads (fresh_kept allowed) acts permitted
  exact Custody.Leads.arranged leads (fresh_sound terms)
    ⟨List.forall_mem_nil _, List.forall_mem_nil _⟩

end UsbHost
