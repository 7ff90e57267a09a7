import UsbHost.Proofs.CallAccounts

/-!
# No release too many goes unseen

Over any run of the native library on a fresh bus, whatever addresses its calls are handed, the
references to a device are the first one, those that calls took and those that calls gave back in
excess, less those that calls were to give back. The same holds of what is made and freed: a call
to free something either freed it or was taken down.
-/

set_option autoImplicit false

namespace UsbHost

/-- A native call and the bus that it is made on. -/
structure MadeCall where
  bus : Bus
  call : NativeCall

namespace Bus

def calls (bus : Bus) : List BusStep → List MadeCall
  | [] => []
  | .call call :: later => { bus, call } :: (bus.step (.call call)).calls later
  | step :: later => (bus.step step).calls later

def underflows (bus : Bus) (device : Address) : Nat :=
  bus.misuse.countP (Misuse.isUnderflowOf device)

end Bus

namespace MadeCall

def acquires (device : Address) (made : MadeCall) : Bool := made.call.acquires made.bus device

def givesBack (device : Address) (made : MadeCall) : Bool := made.call.givesBack made.bus device

def makes? (stock : Stock) (made : MadeCall) : Option Nat := stock.made? made.call made.bus

def frees (stock : Stock) (made : MadeCall) : Bool := stock.isFreedBy made.call

/-- Whether the call of one of the calls that name a device names one that is not attached. -/
def strays (named : Address → NativeCall) (device : Address) (made : MadeCall) : Bool :=
  made.call = named device ∧ ¬ made.bus.Knows device

end MadeCall

namespace Bus

variable {bus : Bus} {device : Address}

/-! ## Steps that are no native calls -/

theorem attach_ids (bus : Bus) (info : DeviceInfo) :
    (bus.attach info).2.devices.map AttachedDevice.id =
      bus.devices.map AttachedDevice.id ++ [bus.nextAddress] := by
  simp [attach, allocate]

theorem attach_knows (info : DeviceInfo) :
    (bus.attach info).2.Knows device ↔ bus.Knows device ∨ device = bus.nextAddress := by
  rw [Knows, attach_ids, List.mem_append, List.mem_singleton]
  rfl

theorem Coherent.attach (coherent : bus.Coherent) (info : DeviceInfo) :
    (bus.attach info).2.Coherent where
  toOrderly :=
    { coherent.laterAddress with
      devices := by
        rw [attach_ids]
        exact coherent.devices.push bus.lt_nextAddress
      nonNull := by
        intro device known
        rcases (attach_knows info).mp known with old | rfl
        · exact coherent.nonNull device old
        · exact Nat.ne_of_gt coherent.started }
  listed array member device entry :=
    (attach_knows info).mpr (.inl (coherent.listed array member device entry))
  bound opened member := (attach_knows info).mpr (.inl (coherent.bound opened member))

theorem Coherent.attach_references (coherent : bus.Coherent) (info : DeviceInfo)
    (device : Address) : (bus.attach info).2.references device =
      bus.references device + (decide (device = bus.nextAddress)).toNat := by
  have found : (bus.attach info).2.device? device =
      (bus.device? device).or ([AttachedDevice.mk bus.nextAddress _ 1].find? (·.id == device)) :=
    List.find?_append
  rw [references, found, references]
  by_cases same : device = bus.nextAddress
  · subst same
    have missing : bus.device? bus.nextAddress = none :=
      Keyed.find?_eq_none_iff.mpr coherent.not_knows_next
    simp [missing]
  · simp [same, Ne.symm same]

/-- A step that is no native call plugs a device in or changes nothing that is accounted for. -/
theorem step_cases (bus : Bus) (step : BusStep) :
    (∃ call, step = .call call) ∨ (∃ info, step = .attach info) ∨
      ((∀ earlier : Bus, earlier.calls [step] = []) ∧ bus.Steady (bus.step step)) := by
  cases step with
  | call call => exact .inl ⟨call, rfl⟩
  | attach info => exact .inr (.inl ⟨info, rfl⟩)
  | fail | failReleaseOf | clearFailures =>
    exact .inr (.inr ⟨fun _ => rfl, rfl, rfl, rfl, rfl, rfl, rfl, rfl, rfl⟩)

/-! ## Runs -/

theorem Coherent.step (coherent : bus.Coherent) (step : BusStep) : (bus.step step).Coherent := by
  rcases bus.step_cases step with ⟨call, rfl⟩ | ⟨info, rfl⟩ | ⟨-, steady⟩
  · exact (perform_fair coherent call).coherent
  · exact coherent.attach info
  · exact steady.coherent coherent

theorem run_append (bus : Bus) (earlier later : List BusStep) :
    bus.run (earlier ++ later) = (bus.run earlier).run later :=
  List.foldl_append

theorem calls_cons (bus : Bus) (step : BusStep) (later : List BusStep) :
    bus.calls (step :: later) = bus.calls [step] ++ (bus.step step).calls later := by
  cases step <;> rfl

theorem Coherent.run (coherent : bus.Coherent) (steps : List BusStep) :
    (bus.run steps).Coherent := by
  induction steps generalizing bus with
  | nil => exact coherent
  | cons step later ih => exact ih (coherent.step step)

/-- What every native call adds to and takes from a meter, and no other step changes, adds up over
a run. -/
theorem Coherent.run_meter (meter : Bus → Int) (loss gain : MadeCall → Bool)
    (call : ∀ bus : Bus, bus.Coherent → ∀ call : NativeCall,
      meter (call.after bus) + (loss ⟨bus, call⟩).toNat = meter bus + (gain ⟨bus, call⟩).toNat)
    (attach : ∀ bus : Bus, bus.Coherent → ∀ info, meter (bus.attach info).2 = meter bus)
    (steady : ∀ {bus after : Bus}, bus.Steady after → meter after = meter bus)
    (coherent : bus.Coherent) (steps : List BusStep) :
    meter (bus.run steps) + (bus.calls steps).countP loss =
      meter bus + (bus.calls steps).countP gain := by
  induction steps generalizing bus with
  | nil => rfl
  | cons step later ih =>
    have rest := ih (coherent.step step)
    -- The step alone: only a call moves the meter.
    have first : meter (bus.step step) + (bus.calls [step]).countP loss =
        meter bus + (bus.calls [step]).countP gain := by
      rcases bus.step_cases step with ⟨named, rfl⟩ | ⟨info, rfl⟩ | ⟨none, kept⟩
      · have count (counts : MadeCall → Bool) :
            (bus.calls [.call named]).countP counts = (counts ⟨bus, named⟩).toNat := by
          rw [calls, calls, List.countP_singleton]
          cases counts ⟨bus, named⟩ <;> rfl
        rw [count, count]
        exact call bus coherent named
      · exact congrArg (· + 0) (attach bus coherent info)
      · rw [none]
        exact congrArg (· + 0) (steady kept)
    rw [calls_cons, List.countP_append, List.countP_append]
    show meter ((bus.step step).run later) + _ = _
    omega

/-! ### References -/

/-- The reference that the bus itself takes to a device when it is plugged in. -/
def firstShare (bus : Bus) (device : Address) : Nat :=
  if bus.Knows device then 1 else 0

theorem firstShare_congr {after : Bus} (same : after.Knows device ↔ bus.Knows device) :
    after.firstShare device = bus.firstShare device := by
  simp only [firstShare, same]

theorem Coherent.run_references (coherent : bus.Coherent) (steps : List BusStep)
    (device : Address) :
    ((bus.run steps).balance device - (bus.run steps).firstShare device : Int) +
        (bus.calls steps).countP (MadeCall.givesBack device) =
      (bus.balance device - bus.firstShare device) +
        (bus.calls steps).countP (MadeCall.acquires device) := by
  refine run_meter (fun bus => bus.balance device - bus.firstShare device) _ _
    (fun bus coherent call => ?_) (fun bus coherent info => ?_) (fun steady => ?_) coherent steps
  · have fair := perform_fair coherent call
    have share : (call.after bus).firstShare device = bus.firstShare device :=
      firstShare_congr (by rw [Knows, Knows, fair.ids])
    have balance := fair.balance device
    dsimp only [MadeCall.givesBack, MadeCall.acquires]
    rw [share]
    omega
  · have misuse : (bus.attach info).2.misuse = bus.misuse := rfl
    rw [balance, balance, misuse, coherent.attach_references info device]
    have known := coherent.not_knows_next
    simp only [firstShare, attach_knows]
    by_cases new : device = bus.nextAddress
    · subst new
      simp [known]
      omega
    · simp [new]
  · rw [steady.balance, firstShare_congr steady.knows_iff]

theorem run_references (steps : List BusStep) {device : Address}
    (attached : (run {} steps).Knows device) :
    (run {} steps).references device + (calls {} steps).countP (MadeCall.givesBack device) =
      1 + (calls {} steps).countP (MadeCall.acquires device) +
        (run {} steps).underflows device := by
  have law := coherent_nothing.run_references steps device
  have share : (run {} steps).firstShare device = 1 := by simp [firstShare, attached]
  have start : balance {} device - firstShare {} device = 0 := rfl
  rw [share, start, balance] at law
  unfold underflows
  omega

/-! ### Stocks -/

theorem Coherent.live (coherent : bus.Coherent) (stock : Stock) :
    Numbered (stock.live bus) (stock.next bus) := by
  cases stock with
  | contexts => exact coherent.contexts
  | lists => exact coherent.lists
  | handles => exact coherent.handles
  | descriptors => exact coherent.descriptors

/-- What is alive of a kind is among the distinct numbers that were handed out so far. -/
structure Stocked (stock : Stock) (past : List Nat) (bus : Bus) : Prop where
  numbered : Numbered past (stock.next bus)
  alive : (stock.live bus).Sublist past

variable {stock : Stock} {past : List Nat} {after : Bus}

theorem Stocked.unmade (stocked : Stocked stock past bus)
    (next : stock.next bus ≤ stock.next after)
    (live : (stock.live after).Sublist (stock.live bus)) : Stocked stock past after :=
  ⟨stocked.numbered.mono next, live.trans stocked.alive⟩

theorem Stocked.turn {call : NativeCall} (stocked : Stocked stock past bus)
    (turn : stock.Turn call bus after) :
    Stocked stock (past ++ (stock.made? call bus).toList) after := by
  cases turn with
  | idle made freed live next unknown =>
    rw [made, Option.toList_none, List.append_nil]
    exact stocked.unmade next (live ▸ List.Sublist.refl _)
  | made made freed live next unknown =>
    rw [made, Option.toList_some]
    exact ⟨stocked.numbered.push next, live ▸ stocked.alive.append_right _⟩
  | freed number made freed member live next unknown =>
    rw [made, Option.toList_none, List.append_nil]
    exact stocked.unmade next (live ▸ List.filter_sublist)
  | missed made freed live next unknown =>
    rw [made, Option.toList_none, List.append_nil]
    exact stocked.unmade next (live ▸ List.Sublist.refl _)

theorem attach_live (bus : Bus) (info : DeviceInfo) (stock : Stock) :
    stock.live (bus.attach info).2 = stock.live bus := by
  cases stock <;> rfl

theorem attach_next (bus : Bus) (info : DeviceInfo) (stock : Stock) :
    stock.next bus ≤ stock.next (bus.attach info).2 := by
  cases stock with
  | contexts | handles => exact Nat.le_of_lt bus.lt_nextAddress
  | lists | descriptors => exact Nat.le_refl _

theorem Stocked.step (stocked : Stocked stock past bus) (coherent : bus.Coherent)
    (step : BusStep) :
    Stocked stock (past ++ (bus.calls [step]).filterMap (MadeCall.makes? stock))
      (bus.step step) := by
  rcases bus.step_cases step with ⟨call, rfl⟩ | ⟨info, rfl⟩ | ⟨none, steady⟩
  · have made : (bus.calls [.call call]).filterMap (MadeCall.makes? stock) =
        (stock.made? call bus).toList := by
      cases found : stock.made? call bus with
      | none => exact List.filterMap_cons_none found
      | some number => exact List.filterMap_cons_some found
    rw [made]
    exact stocked.turn ((perform_fair coherent call).stocks stock)
  · rw [show bus.calls [.attach info] = [] from rfl, List.filterMap_nil, List.append_nil]
    exact stocked.unmade (bus.attach_next info stock)
      ((bus.attach_live info stock).symm ▸ List.Sublist.refl _)
  · rw [none, List.filterMap_nil, List.append_nil]
    exact stocked.unmade (Nat.le_of_eq (steady.next stock).symm)
      (steady.live stock ▸ List.Sublist.refl _)

theorem Stocked.run (stocked : Stocked stock past bus) (coherent : bus.Coherent)
    (steps : List BusStep) :
    Stocked stock (past ++ (bus.calls steps).filterMap (MadeCall.makes? stock))
      (bus.run steps) := by
  induction steps generalizing bus past with
  | nil =>
    rw [calls, List.filterMap_nil, List.append_nil]
    exact stocked
  | cons step later ih =>
    rw [calls_cons, List.filterMap_append, ← List.append_assoc]
    exact ih (stocked.step coherent step) (coherent.step step)

/-- What is freed was made before or is taken down. -/
theorem Coherent.run_stock (coherent : bus.Coherent) (steps : List BusStep) (stock : Stock) :
    ((stock.live (bus.run steps)).length - stock.unknown (bus.run steps) : Int) +
        (bus.calls steps).countP (MadeCall.frees stock) =
      ((stock.live bus).length - stock.unknown bus) +
        (bus.calls steps).countP (fun made => (made.makes? stock).isSome) := by
  refine run_meter (fun bus => (stock.live bus).length - stock.unknown bus) _ _
    (fun bus coherent call => ?_) (fun bus coherent info => ?_) (fun steady => ?_) coherent steps
  · dsimp only [MadeCall.frees, MadeCall.makes?]
    cases (perform_fair coherent call).stocks stock with
    | idle made freed live next unknown =>
      rw [made, freed, live, unknown]
      rfl
    | made made freed live next unknown =>
      rw [made, freed, live, unknown, List.length_append]
      simp
      omega
    | freed number made freed member live next unknown =>
      -- No number is alive twice, so exactly one goes.
      have distinct : ((stock.live bus).map id).Nodup := by
        rw [List.map_id]
        exact (coherent.live stock).nodup
      have shorter := (Keyed.perm_cons_filter distinct member).length_eq
      simp only [id, List.length_cons] at shorter
      rw [made, freed, live, unknown]
      simp only [Option.isSome_none, Bool.toNat_true, Bool.toNat_false]
      omega
    | missed made freed live next unknown =>
      rw [made, freed, live, unknown]
      simp
      omega
  · have unknown : stock.unknown (bus.attach info).2 = stock.unknown bus := rfl
    rw [attach_live, unknown]
  · rw [steady.live, steady.unknown]

/-- How many of the distinct numbers are missing from some of them. -/
theorem length_gone {numbers kept : List Nat} (distinct : numbers.Nodup)
    (some : kept.Sublist numbers) :
    (numbers.filter (· ∉ kept)).length + kept.length = numbers.length := by
  have remaining : (numbers.filter (· ∈ kept)).Perm kept :=
    (List.perm_ext_iff_of_nodup (distinct.filter _) (distinct.sublist some)).mpr fun number => by
      rw [List.mem_filter, decide_eq_true_eq]
      exact ⟨fun both => both.2, fun member => ⟨some.subset member, member⟩⟩
  rw [← remaining.length_eq, Nat.add_comm]
  simpa using List.length_eq_length_filter_add (fun number => decide (number ∈ kept)) |>.symm

theorem run_stocked (steps : List BusStep) (stock : Stock) :
    Stocked stock ((calls {} steps).filterMap (MadeCall.makes? stock)) (run {} steps) := by
  have nothing : Stocked stock [] {} :=
    ⟨⟨List.nodup_nil, List.forall_mem_nil _⟩, by cases stock <;> exact .slnil⟩
  exact nothing.run coherent_nothing steps

theorem run_stock (steps : List BusStep) (stock : Stock) :
    (calls {} steps).countP (MadeCall.frees stock) =
      (((calls {} steps).filterMap (MadeCall.makes? stock)).filter
        (· ∉ stock.live (run {} steps))).length + stock.unknown (run {} steps) := by
  have stocked := run_stocked steps stock
  have law := coherent_nothing.run_stock steps stock
  have start : ((stock.live {}).length - stock.unknown {} : Int) = 0 := by cases stock <;> rfl
  have gone := length_gone stocked.numbered.nodup stocked.alive
  rw [start, ← List.length_filterMap_eq_countP] at law
  omega

/-! ### Calls that name a device that is not attached -/

theorem Notes.count {function : NativeFunction} (notes : bus.Notes function after)
    (misuse : Misuse) (foreign : misuse.function ≠ function) :
    after.misuse.count misuse = bus.misuse.count misuse := by
  obtain ⟨noted, same, own⟩ := notes
  have absent : noted.count misuse = 0 := List.count_eq_zero.mpr fun member =>
    foreign (own misuse member)
  rw [same, List.count_append, absent, Nat.add_zero]

/-- A call that names a device takes the name down if and only if it is not attached. -/
theorem count_unknown {function : NativeFunction} {named : Address}
    (known : bus.Knows named → after.misuse.count (.unknownDevice function device) =
      bus.misuse.count (.unknownDevice function device))
    (unknown : ¬ bus.Knows named →
      after.misuse = bus.misuse ++ [.unknownDevice function named]) :
    after.misuse.count (.unknownDevice function device) =
      bus.misuse.count (.unknownDevice function device) +
        (decide (named = device ∧ ¬ bus.Knows device)).toNat := by
  by_cases attached : bus.Knows named
  · have none : ¬ (named = device ∧ ¬ bus.Knows device) := by
      rintro ⟨rfl, missing⟩
      exact missing attached
    rw [known attached, decide_eq_false none]
    rfl
  · rw [unknown attached, List.count_append]
    by_cases same : named = device
    · subst same
      simp [attached]
    · simp [same]

theorem refDevice_count (bus : Bus) (named device : Address) :
    (bus.refDevice named).misuse.count (.unknownDevice .refDevice device) =
      bus.misuse.count (.unknownDevice .refDevice device) +
        (decide (named = device ∧ ¬ bus.Knows device)).toNat := by
  refine count_unknown (fun known => ?_) fun unknown => ?_
  · obtain ⟨attached, found⟩ := known.device?
    have recorded : (bus.record .refDevice).device? named = some attached := found
    rw [refDevice, recorded]
    rfl
  · have missing : (bus.record .refDevice).device? named = none :=
      Keyed.find?_eq_none_iff.mpr unknown
    rw [refDevice, missing]
    rfl

theorem unrefDevice_count (bus : Bus) (named device : Address) :
    (bus.unrefDevice named).misuse.count (.unknownDevice .unrefDevice device) =
      bus.misuse.count (.unknownDevice .unrefDevice device) +
        (decide (named = device ∧ ¬ bus.Knows device)).toNat := by
  refine count_unknown (fun known => ?_) fun unknown => ?_
  · obtain ⟨attached, found⟩ := known.device?
    have recorded : (bus.record .unrefDevice).device? named = some attached := found
    rw [unrefDevice, giveBack, recorded]
    dsimp only
    split
    · rw [report, List.count_append]
      rfl
    · rfl
  · have missing : (bus.record .unrefDevice).device? named = none :=
      Keyed.find?_eq_none_iff.mpr unknown
    rw [unrefDevice, giveBack, missing]
    rfl

/-- A call that names no attached device is always taken down. -/
theorem run_strays {named : Address → NativeCall} {misuse : Misuse}
    (call : ∀ (bus : Bus) (call : NativeCall), (call.after bus).misuse.count misuse =
      bus.misuse.count misuse + (MadeCall.strays named device ⟨bus, call⟩).toNat)
    (steps : List BusStep) : (run {} steps).misuse.count misuse =
      (calls {} steps).countP (MadeCall.strays named device) := by
  have law := coherent_nothing.run_meter (fun bus => (bus.misuse.count misuse : Nat))
    (fun _ => false) (MadeCall.strays named device)
    (fun bus _ made => by
      have counted := call bus made
      simp only [Bool.toNat_false]
      omega)
    (fun bus _ info => rfl) (fun steady => by rw [steady.misuse]) steps
  simp at law
  omega

theorem run_strays_refDevice (steps : List BusStep) (device : Address) :
    (run {} steps).misuse.count (.unknownDevice .refDevice device) =
      (calls {} steps).countP (MadeCall.strays .refDevice device) := by
  refine run_strays (fun bus call => ?_) steps
  by_cases own : call.function = .refDevice
  · cases call <;> first | contradiction | skip
    refine (refDevice_count ..).trans ?_
    simp [MadeCall.strays]
  · have other (named : Address) : call ≠ .refDevice named := by
      rintro rfl
      exact own rfl
    rw [(bus.perform_notes call).count (.unknownDevice .refDevice device) (Ne.symm own)]
    simp [MadeCall.strays, other]

theorem run_strays_unrefDevice (steps : List BusStep) (device : Address) :
    (run {} steps).misuse.count (.unknownDevice .unrefDevice device) =
      (calls {} steps).countP (MadeCall.strays .unrefDevice device) := by
  refine run_strays (fun bus call => ?_) steps
  by_cases own : call.function = .unrefDevice
  · cases call <;> first | contradiction | skip
    refine (unrefDevice_count ..).trans ?_
    simp [MadeCall.strays]
  · have other (named : Address) : call ≠ .unrefDevice named := by
      rintro rfl
      exact own rfl
    rw [(bus.perform_notes call).count (.unknownDevice .unrefDevice device) (Ne.symm own)]
    simp [MadeCall.strays, other]

/-! ### What is written down -/

/-- Every native call adds one entry to the journal, no other step adds any, and no misuse is ever
struck out. -/
theorem run_records (bus : Bus) (steps : List BusStep) :
    bus.misuse <+: (bus.run steps).misuse ∧
      ∃ entries, (bus.run steps).journal = bus.journal ++ entries ∧
        entries.map JournalEntry.function =
          (bus.calls steps).map fun made => made.call.function := by
  induction steps generalizing bus with
  | nil => exact ⟨List.prefix_refl _, [], (List.append_nil _).symm, rfl⟩
  | cons step later ih =>
    obtain ⟨grown, entries, journal, functions⟩ := ih (bus.step step)
    have silent (misuse : (bus.step step).misuse = bus.misuse)
        (kept : (bus.step step).journal = bus.journal) (none : bus.calls [step] = []) :
        bus.misuse <+: (bus.run (step :: later)).misuse ∧
          ∃ entries, (bus.run (step :: later)).journal = bus.journal ++ entries ∧
            entries.map JournalEntry.function =
              (bus.calls (step :: later)).map fun made => made.call.function := by
      rw [calls_cons, none]
      exact ⟨misuse ▸ grown, entries, kept ▸ journal, functions⟩
    cases step with
    | call call =>
      obtain ⟨noted, misuse, -⟩ := bus.perform_notes call
      obtain ⟨entry, named, first⟩ := bus.perform_entry call
      refine ⟨.trans ⟨noted, misuse.symm⟩ grown, entry :: entries, ?_, ?_⟩
      · refine journal.trans ?_
        rw [show (bus.step (.call call)).journal = _ from first, List.append_assoc]
        rfl
      · rw [List.map_cons, named, functions]
        rfl
    | attach | fail | failReleaseOf | clearFailures => exact silent rfl rfl rfl

/-! ## The audit -/

/-- The books of a run on a fresh bus. -/
structure Audit (steps : List BusStep) : Prop where
  /-- The references to an attached device, and those it was to give back, are the first one, those
  that were taken, and those that were given back in excess. -/
  references : ∀ device, (run {} steps).Knows device →
    (run {} steps).references device + (calls {} steps).countP (MadeCall.givesBack device) =
      1 + (calls {} steps).countP (MadeCall.acquires device) + (run {} steps).underflows device
  /-- What was to be freed was made and is gone, or is not known. -/
  stocks : ∀ stock : Stock,
    ((calls {} steps).filterMap (MadeCall.makes? stock)).Nodup ∧
    stock.live (run {} steps) ⊆ (calls {} steps).filterMap (MadeCall.makes? stock) ∧
    (calls {} steps).countP (MadeCall.frees stock) =
      (((calls {} steps).filterMap (MadeCall.makes? stock)).filter
        (· ∉ stock.live (run {} steps))).length + stock.unknown (run {} steps)
  /-- A reference that is taken or given back by a name which no attached device has is taken
  down. -/
  strays : ∀ device,
    (calls {} steps).countP (MadeCall.strays .refDevice device) =
      (run {} steps).misuse.count (.unknownDevice .refDevice device) ∧
    (calls {} steps).countP (MadeCall.strays .unrefDevice device) =
      (run {} steps).misuse.count (.unknownDevice .unrefDevice device)
  /-- At any point of the run, what was taken down before stays, and every later native call adds
  one journal entry, in order. -/
  records : ∀ earlier later, steps = earlier ++ later →
    (run {} earlier).misuse <+: (run {} steps).misuse ∧
    ∃ entries, (run {} steps).journal = (run {} earlier).journal ++ entries ∧
      entries.map JournalEntry.function =
        ((run {} earlier).calls later).map fun made => made.call.function

/-- Whatever a run on a fresh bus calls, nothing that it gives back or frees goes unseen. -/
theorem run_audit (steps : List BusStep) : Audit steps where
  references _ attached := run_references steps attached
  stocks stock := by
    have stocked := run_stocked steps stock
    exact ⟨stocked.numbered.nodup, stocked.alive.subset, run_stock steps stock⟩
  strays device :=
    ⟨(run_strays_refDevice steps device).symm, (run_strays_unrefDevice steps device).symm⟩
  records earlier later split := by
    rw [split, run_append]
    exact run_records _ later

example : (run {} [.attach {}, .call (.unrefDevice firstAddress),
    .call (.unrefDevice firstAddress)]).underflows firstAddress = 1 := by
  decide

end Bus

end UsbHost
