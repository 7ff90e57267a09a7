import UsbHost.Proofs.LikeSteps

/-!
# Views

A view shows libraries and events in another way, and with them everything that carries one. What
is alike looks the same if the two sides are seen through views that fit the likeness.
-/

set_option autoImplicit false

namespace UsbHost

/-- A way to show libraries and events. -/
structure View where
  library : Library → Library
  event : Event → Event

namespace View

/-- The view that shows everything as it is. -/
def plain : View := ⟨id, id⟩

variable (view : View)

def resource : Resource → Resource
  | .context value => .context { value with library := view.library value.library }
  | .list value => .list { value with library := view.library value.library }
  | .device value => .device { value with library := view.library value.library }
  | .handle value => .handle { value with library := view.library value.library }
  | .descriptor value => .descriptor { value with library := view.library value.library }

def answer : Answer → Answer
  | .context value => .context { value with library := view.library value.library }
  | .list value => .list { value with library := view.library value.library }
  | .device value => .device { value with library := view.library value.library }
  | .handle value claims => .handle { value with library := view.library value.library } claims
  | .descriptor value => .descriptor { value with library := view.library value.library }
  | answer => answer

/-- An outcome whose answer is shown in another way; what a step is refused with stays. -/
def outcome (outcome : Outcome) : Outcome where
  result := outcome.result.map view.answer
  claimed := outcome.claimed

def session (session : Session) : Session where
  library := view.library session.library
  world := { bus := session.world.bus, log := session.world.log.map view.event }
  resources := session.resources.map fun entry => (entry.1, view.resource entry.2)
  heldArrays := session.heldArrays
  heldRecords := session.heldRecords

variable {view}

theorem answer_plain {answer : Answer} (plain : answer.isPlain) : view.answer answer = answer := by
  cases answer with
  | context | list | device | handle | descriptor => cases plain
  | _ => rfl

theorem plain_answer (answer : Answer) : plain.answer answer = answer := by
  cases answer <;> rfl

theorem plain_resource (resource : Resource) : plain.resource resource = resource := by
  cases resource <;> rfl

theorem plain_session (session : Session) : plain.session session = session := by
  have log : session.world.log.map plain.event = session.world.log := List.map_id _
  have resources : session.resources.map (fun entry => (entry.1, plain.resource entry.2)) =
      session.resources := by
    simp only [plain_resource]
    exact List.map_id _
  rw [View.session, log, resources]
  rfl

end View

/-- Two views, one for each side, that show the same wherever the sides are alike. -/
structure Likeness.Shows (like : Likeness) (view view' : View) : Prop where
  library : ∀ {left right}, like.library left right → view'.library right = view.library left
  event : ∀ {left right}, like.event left right → view'.event right = view.event left

namespace Likeness.Shows

variable {like : Likeness} {view view' : View}

theorem resource (shows : like.Shows view view') {one other : Resource}
    (alike : one.Like like other) : view'.resource other = view.resource one := by
  cases alike with
  | context alike | list alike | device alike | handle alike | descriptor alike =>
    obtain ⟨library, libraries, rfl⟩ := alike
    simp only [View.resource, shows.library libraries]

theorem answer (shows : like.Shows view view') {one other : Answer} (alike : one.Like like other) :
    view'.answer other = view.answer one := by
  cases alike with
  | plain plain => rw [View.answer_plain plain, View.answer_plain plain]
  | context alike | list alike | device alike | handle _ alike | descriptor alike =>
    obtain ⟨library, libraries, rfl⟩ := alike
    simp only [View.answer, shows.library libraries]

theorem log (shows : like.Shows view view') {one other : Log}
    (alike : List.Forall₂ like.event one other) :
    other.map view'.event = one.map view.event := by
  induction alike with
  | nil => rfl
  | cons events _ ih => rw [List.map_cons, List.map_cons, shows.event events, ih]

theorem resources (shows : like.Shows view view') {one other : Resources}
    (alike : Resources.Like like one other) :
    other.map (fun entry => (entry.1, view'.resource entry.2)) =
      one.map fun entry => (entry.1, view.resource entry.2) := by
  induction alike with
  | nil => rfl
  | cons entries _ ih =>
    rw [List.map_cons, List.map_cons, entries.1, shows.resource entries.2, ih]

theorem session (shows : like.Shows view view') {one other : Session}
    (alike : one.Like like other) : view'.session other = view.session one := by
  unfold View.session
  rw [shows.library alike.library, alike.worlds.bus, shows.log alike.worlds.log,
    shows.resources alike.resources, alike.arrays, alike.records]

end Likeness.Shows

end UsbHost
