import UsbHost.Owner.Board
import UsbHost.Proofs.Keyed

/-!
# Every address is with someone

Whatever is done to any number of owners, and whatever their disposers do, the addresses that were
handed in are those that were disposed of, those that were released, and those that are owned, each
as often as it was handed in. One step moves an address from one of these places to another, and
the law for a run follows by induction.
-/

set_option autoImplicit false

namespace UsbHost

namespace Slots

variable {α : Type} {slots : Slots α} {name : String} {value : α}

def Distinct (slots : Slots α) : Prop := (slots.map Prod.fst).Nodup

theorem Distinct.remove (distinct : slots.Distinct) (name : String) :
    (slots.remove name).Distinct :=
  distinct.sublist (List.filter_sublist.map _)

theorem Distinct.put (distinct : slots.Distinct) (name : String) (value : α) :
    (slots.put name value).Distinct := by
  have absent : name ∉ (slots.remove name).map Prod.fst := by simp [Slots.remove]
  rw [Distinct, Slots.put, List.map_append, List.nodup_append]
  refine ⟨distinct.remove name, by simp, fun other member last single same => absent ?_⟩
  rw [List.map_singleton, List.mem_singleton] at single
  rwa [same, single] at member

/-- A table is the value under a name and the table without the name. -/
theorem Distinct.perm_get? (distinct : slots.Distinct) (name : String) :
    slots.Perm (((slots.get? name).map (name, ·)).toList ++ slots.remove name) := by
  unfold get?
  cases found : slots.find? fun slot => slot.1 == name with
  | none =>
    have absent : name ∉ slots.map Prod.fst := Keyed.find?_eq_none_iff.mp found
    have kept : slots.remove name = slots :=
      List.filter_eq_self.mpr fun slot member => by
        have different : slot.1 ≠ name := fun same => absent (same ▸ List.mem_map_of_mem member)
        simpa using different
    rw [kept]
    exact .refl _
  | some slot =>
    obtain ⟨member, rfl⟩ := (Keyed.find?_eq_some_iff distinct).mp found
    exact Keyed.perm_cons_filter distinct member

end Slots

namespace Owner

/-! ## Places -/

def Held.holding {δ : Type} (held : Held δ) : List Nat := held.owner.raw.toList

def holdings {δ : Type} (slots : Slots (Held δ)) : List Nat :=
  slots.flatMap fun slot => slot.2.holding

namespace Pool

variable {δ σ : Type}

/-- The address that a step hands in: null is nothing, and without an owner nothing is reset. -/
def handsIn? (pool : Pool δ σ) (slot : String) : PoolStep δ → Option Nat
  | .fromRaw raw _ => nonNull raw
  | .reset raw => (pool.slots.get? slot).bind fun _ => nonNull raw
  | _ => none

def handedIn (disposer : Disposer δ σ) (pool : Pool δ σ) : List (String × PoolStep δ) → List Nat
  | [] => []
  | step :: later => (pool.handsIn? step.1 step.2).toList ++
      (pool.step disposer step.1 step.2).2.handedIn disposer later

def released (disposer : Disposer δ σ) (pool : Pool δ σ) : List (String × PoolStep δ) → List Nat
  | [] => []
  | step :: later => (pool.step disposer step.1 step.2).1.toList ++
      (pool.step disposer step.1 step.2).2.released disposer later

end Pool

/-! ## One step -/

/-- The shared state shows what was disposed of. -/
def Disposer.Shows {δ σ : Type} (disposer : Disposer δ σ) (seen : σ → List Nat) : Prop :=
  ∀ raw own state, seen (disposer.dispose raw own state).2 = seen state ++ [raw]

namespace Pool

variable {δ σ : Type} {disposer : Disposer δ σ} {seen : σ → List Nat} {pool : Pool δ σ}
  {held : Held δ} {slot : String}

theorem holdings_put (slots : Slots (Held δ)) (slot : String) (held : Held δ) :
    holdings (slots.put slot held) = holdings (slots.remove slot) ++ held.holding := by
  simp [holdings, Slots.put]

theorem count_holdings {slots : Slots (Held δ)} (distinct : slots.Distinct) (slot : String)
    (raw : Nat) : (holdings slots).count raw =
      (holdings (slots.remove slot)).count raw +
        ((slots.get? slot).elim [] Held.holding).count raw := by
  have perm := (distinct.perm_get? slot).flatMap_right fun slot => slot.2.holding
  rw [holdings, perm.count_eq, List.flatMap_append, List.count_append, Nat.add_comm]
  cases slots.get? slot <;> simp [holdings]

theorem dispose_shows (shows : disposer.Shows seen) (owner : Owner Nat) (own : δ) (state : σ) :
    seen (owner.dispose disposer.disposal (own, state)).2 = seen state ++ owner.raw.toList := by
  unfold Owner.dispose
  cases owner.raw with
  | none => simp
  | some raw => exact shows raw own state

theorem dropHeld_shows (shows : disposer.Shows seen) (pool : Pool δ σ) (held : Held δ) :
    seen (pool.dropHeld disposer held).state = seen pool.state ++ held.holding :=
  dispose_shows shows ..

/-- What was owned or disposed of before a step, and what the step hands in, is owned, disposed of
or released afterwards. -/
def Balanced (seen : σ → List Nat) (pool : Pool δ σ) (handed : Option Nat)
    (outcome : Option Nat × Pool δ σ) : Prop :=
  ∀ raw, (holdings outcome.2.slots).count raw + (seen outcome.2.state).count raw +
      outcome.1.toList.count raw =
    (holdings pool.slots).count raw + (seen pool.state).count raw + handed.toList.count raw

theorem store_balanced (shows : disposer.Shows seen) (pool : Pool δ σ)
    (distinct : pool.slots.Distinct) (slot : String) (held : Held δ) :
    pool.Balanced seen held.owner.raw (none, pool.store disposer slot held) := by
  intro raw
  have before := count_holdings distinct slot raw
  have put := congrArg (List.count raw) (holdings_put pool.slots slot held)
  rw [List.count_append] at put
  dsimp only [store]
  cases found : pool.slots.get? slot with
  | none =>
    rw [found] at before
    simp only [Option.elim_none, Option.toList_none, List.count_nil] at before ⊢
    rw [put, before]
    simp only [Held.holding]
    omega
  | some old =>
    rw [found] at before
    have dropped := dropHeld_shows shows { pool with slots := pool.slots.put slot held } old
    simp only [Option.elim_some, Option.toList_none, List.count_nil] at before ⊢
    rw [dropped, List.count_append]
    simp only [dropHeld, put, before]
    simp only [Held.holding]
    omega

theorem stepOn_balanced (shows : disposer.Shows seen) (distinct : pool.slots.Distinct)
    (found : pool.slots.get? slot = some held) (step : PoolStep δ)
    (needs : ∀ own, step ≠ .empty own) (needsOwner : ∀ raw own, step ≠ .fromRaw raw own) :
    pool.Balanced seen (pool.handsIn? slot step) (pool.stepOn disposer slot held step) := by
  intro raw
  have before := count_holdings distinct slot raw
  rw [found, Option.elim_some, Held.holding] at before
  have disposed := dispose_shows shows held.owner held.disposer pool.state
  have emptied := holdings_put pool.slots slot { held with owner := .empty }
  cases step with
  | empty own => exact absurd rfl (needs own)
  | fromRaw raw own => exact absurd rfl (needsOwner raw own)
  | reset next =>
    simp only [stepOn, Owner.reset, update, handsIn?, found, holdings_put, disposed, Held.holding,
      List.count_append]
    simp [ofRaw]
    omega
  | clear =>
    simp only [stepOn, Owner.clear, update, handsIn?, holdings_put, disposed, Held.holding,
      List.count_append]
    simp [Owner.empty]
    omega
  | release =>
    simp only [stepOn, Owner.release, update, handsIn?, holdings_put, Held.holding,
      List.count_append]
    simp [Owner.empty]
    omega
  | takeTo target =>
    have stored := store_balanced shows (pool.update slot { held with owner := .empty })
      (distinct.put slot _) target { held with disposer := disposer.clone held.disposer } raw
    simp only [update, holdings_put, Held.holding, List.count_append] at stored
    simp [Owner.empty, stepOn, Owner.take, update, handsIn?] at stored ⊢
    omega
  | moveTo target =>
    have stored := store_balanced shows { pool with slots := pool.slots.remove slot }
      (distinct.remove slot) target held raw
    simp [stepOn, handsIn?] at stored ⊢
    omega
  | drop =>
    have dropped := dropHeld_shows shows { pool with slots := pool.slots.remove slot } held
    simp only [stepOn, handsIn?, dropped, List.count_append, Held.holding]
    simp [dropHeld]
    omega

theorem step_balanced (shows : disposer.Shows seen) (distinct : pool.slots.Distinct)
    (slot : String) (step : PoolStep δ) :
    pool.Balanced seen (pool.handsIn? slot step) (pool.step disposer slot step) := by
  have onOwner (needs : ∀ own, step ≠ .empty own) (needsOwner : ∀ raw own, step ≠ .fromRaw raw own)
      (same : pool.step disposer slot step = (pool.slots.get? slot).elim (none, pool) fun held =>
        pool.stepOn disposer slot held step) :
      pool.Balanced seen (pool.handsIn? slot step) (pool.step disposer slot step) := by
    rw [same]
    cases found : pool.slots.get? slot with
    | some held => exact stepOn_balanced shows distinct found step needs needsOwner
    | none =>
      have nothing : pool.handsIn? slot step = none := by
        cases step <;> simp_all [handsIn?]
      rw [nothing]
      exact fun raw => rfl
  cases step with
  | empty own => exact store_balanced shows pool distinct slot { owner := .empty, disposer := own }
  | fromRaw raw own =>
    exact store_balanced shows pool distinct slot
      { owner := .ofRaw (nonNull raw), disposer := own }
  | reset | clear | release | takeTo | moveTo | drop => exact onOwner nofun nofun rfl

theorem store_distinct (distinct : pool.slots.Distinct) (slot : String) (held : Held δ) :
    (pool.store disposer slot held).slots.Distinct := by
  unfold store
  cases pool.slots.get? slot <;> exact distinct.put slot held

theorem step_distinct (disposer : Disposer δ σ) (distinct : pool.slots.Distinct) (slot : String)
    (step : PoolStep δ) : (pool.step disposer slot step).2.slots.Distinct := by
  have onOwner (act : Held δ → Option Nat × Pool δ σ)
      (kept : ∀ held, (act held).2.slots.Distinct) :
      ((pool.slots.get? slot).elim (none, pool) act).2.slots.Distinct := by
    cases pool.slots.get? slot with
    | none => exact distinct
    | some held => exact kept held
  cases step with
  | empty | fromRaw => exact store_distinct distinct slot _
  | reset | clear | release => exact onOwner _ fun held => distinct.put slot _
  | takeTo target => exact onOwner _ fun held => store_distinct (distinct.put slot _) target _
  | moveTo target => exact onOwner _ fun held => store_distinct (distinct.remove slot) target _
  | drop => exact onOwner _ fun held => distinct.remove slot

/-! ## Runs -/

theorem run_append (disposer : Disposer δ σ) (pool : Pool δ σ)
    (earlier later : List (String × PoolStep δ)) :
    pool.run disposer (earlier ++ later) = (pool.run disposer earlier).run disposer later :=
  List.foldl_append

/-- The law of a step adds up over a run. -/
theorem run_count (shows : disposer.Shows seen) (pool : Pool δ σ) (distinct : pool.slots.Distinct)
    (steps : List (String × PoolStep δ)) (raw : Nat) :
    (holdings (pool.run disposer steps).slots).count raw +
        (seen (pool.run disposer steps).state).count raw +
        (pool.released disposer steps).count raw =
      (holdings pool.slots).count raw + (seen pool.state).count raw +
        (pool.handedIn disposer steps).count raw := by
  induction steps generalizing pool with
  | nil => rfl
  | cons step later ih =>
    -- The pool is general in the induction: the later steps start from where this one ends.
    have first := step_balanced shows distinct step.1 step.2 raw
    have rest := ih _ (step_distinct disposer distinct step.1 step.2)
    rw [released, handedIn, List.count_append, List.count_append]
    show _ + _ + (_ + _) = _ + _ + (_ + _)
    have unfolded : pool.run disposer (step :: later) =
      (pool.step disposer step.1 step.2).2.run disposer later := rfl
    rw [unfolded]
    omega

end Pool

/-! ## Disposers that are watched -/

/-- The disposer that also notes what it is handed. -/
def Disposer.watched {δ σ : Type} (disposer : Disposer δ σ) : Disposer δ (σ × List Nat) where
  dispose raw own state :=
    let (own, next) := disposer.dispose raw own state.1
    (own, next, state.2 ++ [raw])
  clone := disposer.clone

namespace Pool

variable {δ σ : Type}

def unwatched (pool : Pool δ (σ × List Nat)) : Pool δ σ where
  slots := pool.slots
  state := pool.state.1

theorem watched_shows (disposer : Disposer δ σ) : disposer.watched.Shows Prod.snd :=
  fun _ _ _ => rfl

theorem dispose_unwatched (disposer : Disposer δ σ) (owner : Owner Nat) (own : δ)
    (state : σ × List Nat) :
    let watched := owner.dispose disposer.watched.disposal (own, state)
    owner.dispose disposer.disposal (own, state.1) = (watched.1, watched.2.1) := by
  unfold Owner.dispose
  cases owner.raw <;> rfl

theorem store_unwatched (disposer : Disposer δ σ) (pool : Pool δ (σ × List Nat)) (slot : String)
    (held : Held δ) :
    (pool.store disposer.watched slot held).unwatched =
      pool.unwatched.store disposer slot held := by
  have same : pool.unwatched.slots = pool.slots := rfl
  unfold store
  rw [same]
  cases pool.slots.get? slot with
  | none => rfl
  | some old =>
    simp only [Option.elim_some, dropHeld, unwatched, Owner.drop, dispose_unwatched]

theorem stepOn_unwatched (disposer : Disposer δ σ) (pool : Pool δ (σ × List Nat)) (slot : String)
    (held : Held δ) (step : PoolStep δ) :
    pool.unwatched.stepOn disposer slot held step =
      (pool.stepOn disposer.watched slot held step).map id unwatched := by
  cases step with
  | empty | fromRaw | release => rfl
  | reset raw =>
    simp only [stepOn, Owner.reset, unwatched, dispose_unwatched]
    rfl
  | clear =>
    simp only [stepOn, Owner.clear, unwatched, dispose_unwatched]
    rfl
  | takeTo target =>
    have stored := store_unwatched disposer (pool.update slot { held with owner := .empty }) target
      { held with disposer := disposer.clone held.disposer }
    exact congrArg (none, ·) stored.symm
  | moveTo target =>
    have stored :=
      store_unwatched disposer { pool with slots := pool.slots.remove slot } target held
    exact congrArg (none, ·) stored.symm
  | drop =>
    simp only [stepOn, dropHeld, Owner.drop, unwatched, dispose_unwatched]
    rfl

theorem step_unwatched (disposer : Disposer δ σ) (pool : Pool δ (σ × List Nat)) (slot : String)
    (step : PoolStep δ) :
    pool.unwatched.step disposer slot step =
      (pool.step disposer.watched slot step).map id unwatched := by
  have onOwner : ((pool.slots.get? slot).elim (none, pool.unwatched) fun held =>
        pool.unwatched.stepOn disposer slot held step) =
      ((pool.slots.get? slot).elim (none, pool) fun held =>
        pool.stepOn disposer.watched slot held step).map id unwatched := by
    cases pool.slots.get? slot with
    | none => rfl
    | some held => exact stepOn_unwatched disposer pool slot held step
  cases step with
  | empty own => exact congrArg (none, ·) (store_unwatched ..).symm
  | fromRaw raw own => exact congrArg (none, ·) (store_unwatched ..).symm
  | reset | clear | release | takeTo | moveTo | drop => exact onOwner

theorem run_unwatched (disposer : Disposer δ σ) (pool : Pool δ (σ × List Nat))
    (steps : List (String × PoolStep δ)) :
    (pool.run disposer.watched steps).unwatched = pool.unwatched.run disposer steps := by
  induction steps generalizing pool with
  | nil => rfl
  | cons step later ih =>
    have first := congrArg Prod.snd (step_unwatched disposer pool step.1 step.2)
    exact (ih _).trans (congrArg (run disposer · later) first.symm)

theorem handedIn_unwatched (disposer : Disposer δ σ) (pool : Pool δ (σ × List Nat))
    (steps : List (String × PoolStep δ)) :
    pool.unwatched.handedIn disposer steps = pool.handedIn disposer.watched steps := by
  induction steps generalizing pool with
  | nil => rfl
  | cons step later ih =>
    have same : pool.unwatched.handsIn? step.1 step.2 = pool.handsIn? step.1 step.2 := rfl
    rw [handedIn, handedIn, step_unwatched, same]
    exact congrArg (_ ++ ·) (ih _)

theorem released_unwatched (disposer : Disposer δ σ) (pool : Pool δ (σ × List Nat))
    (steps : List (String × PoolStep δ)) :
    pool.unwatched.released disposer steps = pool.released disposer.watched steps := by
  induction steps generalizing pool with
  | nil => rfl
  | cons step later ih =>
    rw [released, released, step_unwatched]
    exact congrArg (_ ++ ·) (ih _)

def disposed (disposer : Disposer δ σ) (pool : Pool δ σ) (steps : List (String × PoolStep δ)) :
    List Nat :=
  (run disposer.watched { slots := pool.slots, state := (pool.state, []) } steps).state.2

/-! ## Conservation -/

theorem handsIn?_ne_zero (pool : Pool δ σ) (slot : String) (step : PoolStep δ) :
    pool.handsIn? slot step ≠ some 0 := by
  have notNull (raw : Nat) : nonNull raw ≠ some 0 := by
    unfold nonNull
    split
    · nofun
    · next proper => exact fun same => proper (Option.some.inj same)
  cases step with
  | fromRaw raw own => exact notNull raw
  | reset raw =>
    unfold handsIn?
    cases pool.slots.get? slot with
    | none => nofun
    | some held => exact notNull raw
  | empty | clear | release | takeTo | moveTo | drop => nofun

theorem zero_not_handedIn (disposer : Disposer δ σ) (pool : Pool δ σ)
    (steps : List (String × PoolStep δ)) : 0 ∉ pool.handedIn disposer steps := by
  induction steps generalizing pool with
  | nil => exact List.not_mem_nil
  | cons step later ih =>
    rw [handedIn, List.mem_append, Option.mem_toList]
    rintro (now | later)
    · exact pool.handsIn?_ne_zero step.1 step.2 now
    · exact ih _ later

def ownersOf (pool : Pool δ σ) (raw : Nat) : List (String × Held δ) :=
  pool.slots.filter fun slot => slot.2.owner.raw = some raw

theorem length_ownersOf (pool : Pool δ σ) (raw : Nat) :
    (pool.ownersOf raw).length = (holdings pool.slots).count raw := by
  rw [ownersOf, holdings, ← List.countP_eq_length_filter]
  induction pool.slots with
  | nil => rfl
  | cons slot rest ih =>
    rw [List.countP_cons, List.flatMap_cons, List.count_append, ih, Nat.add_comm, Held.holding]
    cases slot.2.owner.raw <;> simp [List.count_singleton]

/-- Where the addresses are that a run without owners at first has handed in. -/
structure Conserved (disposer : Disposer δ σ) (state : σ) (steps : List (String × PoolStep δ)) :
    Prop where
  /-- A watched run is the run itself with its disposals noted. -/
  observed : (run disposer.watched { state := (state, []) } steps).unwatched =
    run disposer { state } steps
  balance : (handedIn disposer { state } steps).Perm
    (disposed disposer { state } steps ++ released disposer { state } steps ++
      holdings (run disposer { state } steps).slots)
  nonNull : 0 ∉ disposed disposer { state } steps ∧ 0 ∉ released disposer { state } steps
  /-- Distinct addresses are each in one place, and there once. -/
  once : (handedIn disposer { state } steps).Nodup → ∀ raw ∈ handedIn disposer { state } steps,
    let disposals := (disposed disposer { state } steps).count raw
    let releases := (released disposer { state } steps).count raw
    let owners := ((run disposer { state } steps).ownersOf raw).length
    disposals = 1 ∧ releases = 0 ∧ owners = 0 ∨ disposals = 0 ∧ releases = 1 ∧ owners = 0 ∨
      disposals = 0 ∧ releases = 0 ∧ owners = 1
  /-- Dropping the owners, in any order, leaves none and hands nothing in, and then every address
  was disposed of or released. -/
  dropped : ∀ names : List String,
    (∀ slot ∈ (run disposer { state } steps).slots, slot.1 ∈ names) →
    let all := steps ++ names.map (·, .drop)
    (run disposer { state } all).slots = [] ∧
    handedIn disposer { state } all = handedIn disposer { state } steps ∧
    ((handedIn disposer { state } steps).Nodup → ∀ raw ∈ handedIn disposer { state } steps,
      let disposals := (disposed disposer { state } all).count raw
      let releases := (released disposer { state } all).count raw
      disposals = 1 ∧ releases = 0 ∨ disposals = 0 ∧ releases = 1)

theorem run_balance (disposer : Disposer δ σ) (state : σ) (steps : List (String × PoolStep δ))
    (raw : Nat) :
    (handedIn disposer { state } steps).count raw =
      (disposed disposer { state } steps).count raw +
        (released disposer { state } steps).count raw +
        (holdings (run disposer { state } steps).slots).count raw := by
  let start : Pool δ (σ × List Nat) := { state := (state, []) }
  have law := run_count (watched_shows disposer) start List.nodup_nil steps raw
  have slots : (start.run disposer.watched steps).slots = (run disposer { state } steps).slots :=
    congrArg slots (run_unwatched disposer start steps)
  rw [slots, ← released_unwatched, ← handedIn_unwatched] at law
  have disposals : (start.run disposer.watched steps).state.2 =
    disposed disposer { state } steps := rfl
  have nothing : (holdings start.slots).count raw = 0 ∧ start.state.2.count raw = 0 := ⟨rfl, rfl⟩
  rw [disposals, nothing.1, nothing.2] at law
  have same : start.unwatched = { state } := rfl
  rw [same] at law
  omega

/-! ### Dropping every owner -/

theorem drop_slots (disposer : Disposer δ σ) (pool : Pool δ σ) (name : String) :
    (pool.step disposer name .drop).2.slots = pool.slots.remove name := by
  show ((pool.slots.get? name).elim (none, pool) fun held =>
    pool.stepOn disposer name held .drop).2.slots = _
  cases found : pool.slots.get? name with
  | some held => rfl
  | none =>
    refine (List.filter_eq_self.mpr fun slot member => ?_).symm
    have absent := List.find?_eq_none.mp (Option.map_eq_none_iff.mp found) slot member
    simpa using absent

theorem run_drops_slots (disposer : Disposer δ σ) (pool : Pool δ σ) (names : List String) :
    ∀ slot ∈ (pool.run disposer (names.map (·, .drop))).slots,
      slot ∈ pool.slots ∧ slot.1 ∉ names := by
  induction names generalizing pool with
  | nil => exact fun slot member => ⟨member, List.not_mem_nil⟩
  | cons name later ih =>
    intro slot member
    obtain ⟨kept, notLater⟩ := ih _ slot member
    rw [drop_slots] at kept
    obtain ⟨old, different⟩ := List.mem_filter.mp kept
    exact ⟨old, List.not_mem_cons_of_ne_of_not_mem (by simpa using different) notLater⟩

theorem handedIn_append (disposer : Disposer δ σ) (pool : Pool δ σ)
    (earlier later : List (String × PoolStep δ)) :
    pool.handedIn disposer (earlier ++ later) =
      pool.handedIn disposer earlier ++ (pool.run disposer earlier).handedIn disposer later := by
  induction earlier generalizing pool with
  | nil => rfl
  | cons step rest ih =>
    rw [List.cons_append, handedIn, handedIn, ih, List.append_assoc]
    rfl

theorem handedIn_drops (disposer : Disposer δ σ) (pool : Pool δ σ) (names : List String) :
    pool.handedIn disposer (names.map (·, .drop)) = [] := by
  induction names generalizing pool with
  | nil => rfl
  | cons name later ih => exact ih _

/-- Every disposer and every run conserve what is handed in. -/
theorem run_conserved (disposer : Disposer δ σ) (state : σ) (steps : List (String × PoolStep δ)) :
    Conserved disposer state steps where
  observed := run_unwatched disposer { state := (state, []) } steps
  balance := List.perm_iff_count.mpr fun raw => by
    rw [List.count_append, List.count_append]
    exact run_balance disposer state steps raw
  nonNull := by
    have none := List.count_eq_zero.mpr (zero_not_handedIn disposer { state } steps)
    rw [run_balance] at none
    constructor <;> refine List.count_eq_zero.mp ?_ <;> omega
  once := by
    intro distinct raw member
    have single := List.count_eq_one_of_mem distinct member
    rw [run_balance] at single
    simp only [length_ownersOf]
    omega
  dropped := by
    intro names cover
    have none : (run disposer { state } (steps ++ names.map (·, .drop))).slots = [] := by
      rw [run_append]
      refine List.eq_nil_iff_forall_not_mem.mpr fun slot member => ?_
      obtain ⟨old, gone⟩ := run_drops_slots disposer _ names slot member
      exact gone (cover slot old)
    have handed : handedIn disposer { state } (steps ++ names.map (·, .drop)) =
        handedIn disposer { state } steps := by
      rw [handedIn_append, handedIn_drops, List.append_nil]
    refine ⟨none, handed, fun distinct raw member => ?_⟩
    have single := List.count_eq_one_of_mem distinct member
    rw [← handed, run_balance, none] at single
    have nothing : (holdings ([] : Slots (Held δ))).count raw = 0 := rfl
    omega

end Pool

/-! ## Boards -/

namespace Board

def run (board : Board) (steps : List (String × BoardStep)) : Board :=
  steps.foldl (fun board step => (board.step step.1 step.2).2) board

def acts (board : Board) : List (String × BoardStep) → List (String × PoolStep RecorderId)
  | [] => []
  | step :: later => ((step.2.act? board.recorders).map (step.1, ·)).toList ++
      (board.step step.1 step.2).2.acts later

theorem recording_shows : recording.Shows (List.map Prod.snd) := by
  intro raw recorder disposals
  simp [recording, recordDisposal]

theorem run_pool (board : Board) (steps : List (String × BoardStep)) :
    (board.run steps).pool = board.pool.run recording (board.acts steps) := by
  induction steps generalizing board with
  | nil => rfl
  | cons step later ih =>
    refine (ih _).trans ?_
    rw [acts, Pool.run_append]
    have first : (board.step step.1 step.2).2.pool =
        board.pool.run recording ((step.2.act? board.recorders).map (step.1, ·)).toList := by
      dsimp only [Board.step]
      cases step.2.act? board.recorders <;> rfl
    rw [first]

/-- What the recorders of a board noted is what was disposed of. -/
theorem run_conserves (steps : List (String × BoardStep)) :
    (Pool.handedIn recording { state := [] } (acts {} steps)).Perm
      ((run {} steps).disposals.map Prod.snd ++
        Pool.released recording { state := [] } (acts {} steps) ++
        holdings (run {} steps).pool.slots) := by
  refine List.perm_iff_count.mpr fun raw => ?_
  have law := Pool.run_count recording_shows { state := [] } List.nodup_nil (acts {} steps) raw
  have start : ((run {} steps).pool = Pool.run recording { state := [] } (acts {} steps)) :=
    run_pool {} steps
  rw [← start] at law
  have nothing : (holdings ([] : Slots (Held RecorderId))).count raw = 0 := rfl
  have nobody : (([] : Disposals).map Prod.snd).count raw = 0 := rfl
  dsimp only at law
  rw [nothing, nobody] at law
  rw [List.count_append, List.count_append, disposals]
  omega

end Board

end Owner

end UsbHost
