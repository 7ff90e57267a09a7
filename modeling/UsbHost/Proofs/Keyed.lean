import Mathlib.Data.List.Nodup

/-!
# Lists with distinct keys

Looking an entry up by its key, taking it out again, and changing it in place.
-/

set_option autoImplicit false

namespace UsbHost.Keyed

variable {α κ : Type} {key : α → κ} {items : List α}

theorem eq_of_mem (unique : (items.map key).Nodup) {left right : α}
    (leftMember : left ∈ items) (rightMember : right ∈ items) (same : key left = key right) :
    left = right :=
  List.inj_on_of_nodup_map unique leftMember rightMember same

/-- Taking an entry out by its key takes out that entry alone. -/
theorem perm_cons_filter [DecidableEq κ] (unique : (items.map key).Nodup) {item : α}
    (member : item ∈ items) :
    items.Perm (item :: items.filter fun candidate => key candidate ≠ key item) := by
  induction items with
  | nil => simp at member
  | cons first rest ih =>
    simp only [List.map_cons, List.nodup_cons] at unique
    rcases List.mem_cons.mp member with rfl | inRest
    · have kept : (rest.filter fun candidate => key candidate ≠ key item) = rest := by
        refine List.filter_eq_self.mpr fun candidate inside => ?_
        have different : key candidate ≠ key item := fun same =>
          unique.1 (same ▸ List.mem_map_of_mem inside)
        simpa using different
      rw [List.filter_cons_of_neg (by simp), kept]
    · have different : key first ≠ key item := fun same =>
        unique.1 (same ▸ List.mem_map_of_mem inRest)
      rw [List.filter_cons_of_pos (by simpa using different)]
      exact ((ih unique.2 inRest).cons first).trans (.swap ..)

/-- Changing entries in place shows in no view that the change keeps. -/
theorem map_update {β : Type} (items : List α) {chosen : α → Prop} [DecidablePred chosen]
    {change : α → α} {view : α → β} (same : ∀ item, view (change item) = view item) :
    (items.map fun item => if chosen item then change item else item).map view =
      items.map view := by
  rw [List.map_map]
  refine List.map_congr_left fun item _ => ?_
  rw [Function.comp_apply]
  split
  · exact same item
  · rfl

theorem find?_update [BEq κ] (items : List α) {chosen : α → Prop} [DecidablePred chosen]
    {change : α → α} (same : ∀ item, key (change item) = key item) {wanted : κ} :
    (items.map fun item => if chosen item then change item else item).find?
        (fun candidate => key candidate == wanted) =
      (items.find? fun candidate => key candidate == wanted).map
        fun item => if chosen item then change item else item := by
  have keys : (fun candidate => key candidate == wanted) ∘
      (fun item => if chosen item then change item else item) =
        fun candidate => key candidate == wanted := by
    funext item
    rw [Function.comp_apply]
    split
    · rw [same]
    · rfl
  rw [List.find?_map, keys]

/-- Entries other than those of one key do not feel a change of it. -/
theorem filter_update [DecidableEq κ] (items : List α) {change : α → α}
    (same : ∀ item, key (change item) = key item) (wanted : κ) :
    ((items.map fun item => if key item = wanted then change item else item).filter
        fun item => key item ≠ wanted) =
      items.filter fun item => key item ≠ wanted := by
  induction items with
  | nil => rfl
  | cons item rest ih =>
    rw [List.map_cons]
    by_cases chosen : key item = wanted
    · rw [if_pos chosen, List.filter_cons_of_neg (by simp [same, chosen]),
        List.filter_cons_of_neg (by simp [chosen]), ih]
    · rw [if_neg chosen, List.filter_cons_of_pos (by simp [chosen]),
        List.filter_cons_of_pos (by simp [chosen]), ih]

variable [BEq κ] [LawfulBEq κ]

theorem find?_eq_some_iff (unique : (items.map key).Nodup) {wanted : κ} {item : α} :
    (items.find? fun candidate => key candidate == wanted) = some item ↔
      item ∈ items ∧ key item = wanted := by
  constructor
  · intro found
    exact ⟨List.mem_of_find?_eq_some found, by simpa using List.find?_some found⟩
  · rintro ⟨member, rfl⟩
    cases found : items.find? fun candidate => key candidate == key item with
    | none => exact absurd (List.find?_eq_none.mp found item member) (by simp)
    | some other =>
      have same : key other = key item := by simpa using List.find?_some found
      rw [eq_of_mem unique (List.mem_of_find?_eq_some found) member same]

theorem find?_eq_none_iff {wanted : κ} :
    (items.find? fun candidate => key candidate == wanted) = none ↔ wanted ∉ items.map key := by
  simp only [List.find?_eq_none, beq_iff_eq, List.mem_map, not_exists, not_and]

theorem find?_isSome_iff {wanted : κ} :
    (items.find? fun candidate => key candidate == wanted).isSome ↔ wanted ∈ items.map key := by
  simp [List.find?_isSome]

/-- Taking out the entries of one key hides no entry of another key. -/
theorem find?_filter_ne [DecidableEq κ] (items : List α) {removed wanted : κ}
    (different : wanted ≠ removed) :
    (items.filter fun item => key item ≠ removed).find? (fun item => key item == wanted) =
      items.find? fun item => key item == wanted := by
  rw [List.find?_filter]
  congr 1
  funext item
  rw [Bool.eq_iff_iff, decide_eq_true_eq, beq_iff_eq]
  constructor
  · exact fun holds => holds.2
  · rintro rfl
    exact ⟨by simpa using different, rfl⟩

end UsbHost.Keyed
