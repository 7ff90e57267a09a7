import UsbHost.Owner.Pool

/-!
# A board of owners

Owners in named slots whose disposers are recorders: they note what was disposed of. An owner
writes either to the shared recorder or to one of its own.
-/

set_option autoImplicit false

namespace UsbHost.Owner

inductive RecorderId where
  | common
  | own (serial : Nat)
  deriving DecidableEq, Repr

/-- What was disposed of, in order, with the recorder that noted it. -/
abbrev Disposals := List (RecorderId × Nat)

/-- Notes that the address `raw` was disposed of. -/
def recordDisposal (recorder : RecorderId) (raw : Nat) (disposals : Disposals) : Disposals :=
  disposals ++ [(recorder, raw)]

/-- The copy of a recorder notes where the recorder does. -/
def recording : Disposer RecorderId Disposals where
  dispose raw recorder disposals := (recorder, recordDisposal recorder raw disposals)
  clone := id

/-- Owners with their recorders, all disposals so far, and the number of recorders handed out. -/
structure Board where
  pool : Pool RecorderId Disposals := { state := [] }
  recorders : Nat := 0

inductive BoardStep where
  | empty
  | default
  | fromRaw (raw : Nat)
  | get
  | release
  | asPointer
  | isEmpty
  | disposedCount
  | inspect (pretty : Bool)
  | reset (raw : Nat)
  | clear
  | takeTo (target : String)
  | moveTo (target : String)
  | drop
  deriving DecidableEq, Repr

inductive BoardAnswer where
  | done
  | address (raw : Option Nat)
  | pointer (raw : Nat)
  | flag (value : Bool)
  | count (value : Nat)
  | text (value : String)
  deriving DecidableEq, Repr

/-- What a step does to the owner in its slot; a step that only looks does nothing. -/
def BoardStep.act? (recorders : Nat) : BoardStep → Option (PoolStep RecorderId)
  | empty => some (.empty .common)
  | default => some (.empty (.own recorders))
  | fromRaw raw => some (.fromRaw raw .common)
  | get | asPointer | isEmpty | disposedCount | inspect _ => none
  | release => some .release
  | reset raw => some (.reset raw)
  | clear => some .clear
  | takeTo target => some (.takeTo target)
  | moveTo target => some (.moveTo target)
  | drop => some .drop

namespace Board

def disposals (board : Board) : Disposals := board.pool.state

/-- What the recorder of an owner has noted. The shared recorder is emptied whenever `seen`
disposals have been looked at. -/
def disposedBy (board : Board) (seen : Nat) (recorder : RecorderId) : Nat :=
  let relevant := match recorder with
    | .common => board.disposals.drop seen
    | .own _ => board.disposals
  (relevant.filter fun disposal => disposal.1 == recorder).length

/-- What a step on the owner of a slot answers. -/
def answer (board : Board) (held : Held RecorderId) : BoardStep → BoardAnswer
  | .get => .address held.owner.raw
  | .release => .address held.owner.release.1
  | .asPointer => .pointer (held.owner.raw.getD 0)
  | .isEmpty => .flag held.owner.isEmpty
  | .disposedCount => .count (board.disposedBy board.disposals.length held.disposer)
  | .inspect pretty => .text (held.owner.inspect.render pretty)
  | _ => .done

/-- Whether a step makes an owner, so that its slot may be empty. -/
def makesOwner : BoardStep → Bool
  | .empty | .default | .fromRaw _ => true
  | _ => false

/-- Performs one step. A step that needs an owner answers nothing on an empty slot. -/
def step (board : Board) (slot : String) (step : BoardStep) : Option BoardAnswer × Board :=
  let answer := if makesOwner step then some .done
    else (board.pool.slots.get? slot).map fun held => board.answer held step
  let pool := (step.act? board.recorders).elim board.pool fun act =>
    (board.pool.step recording slot act).2
  let recorders := if step = .default then board.recorders + 1 else board.recorders
  (answer, { pool, recorders })

/-- Drops all owners, in the order of their names. -/
def teardown (board : Board) : Board :=
  { board with pool := board.pool.teardown recording }

/-- The addresses that the shared recorder has noted since `seen` disposals ago. -/
def disposedSince (board : Board) (seen : Nat) : List Nat :=
  ((board.disposals.drop seen).filter fun disposal => disposal.1 == .common).map Prod.snd

/-- What every live owner owns, null being zero. -/
def owned (board : Board) : List (String × Nat) :=
  board.pool.slots.map fun slot => (slot.1, slot.2.owner.raw.getD 0)

end Board

end UsbHost.Owner
