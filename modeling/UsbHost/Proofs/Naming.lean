import UsbHost.Proofs.Custody

/-!
# Resources under names

A session finds a resource by its kind and name. As long as no two resources of a kind have the
same name, putting a resource under a name, and taking it away, exchanges exactly that resource.
-/

set_option autoImplicit false

namespace UsbHost

namespace Resources

variable {resources : Resources} {kind : ResourceKind} {name : String} {resource : Resource}

def key (entry : String × Resource) : String × ResourceKind :=
  (entry.1, entry.2.kind)

def Named (resources : Resources) : Prop :=
  (List.map key resources).Nodup

theorem key_beq (kind : ResourceKind) (name : String) :
    (fun entry : String × Resource => entry.1 == name && entry.2.kind == kind) =
      fun entry => key entry == (name, kind) := by
  funext entry
  rw [Bool.eq_iff_iff, Bool.and_eq_true, beq_iff_eq, beq_iff_eq, beq_iff_eq, key, Prod.mk.injEq]

theorem remove_eq : resources.remove kind name =
    List.filter (fun entry => key entry ≠ (name, kind)) resources := by
  refine List.filter_congr fun entry _ => ?_
  rw [congrFun (key_beq kind name) entry, beq_eq_decide]
  simp

theorem find?_eq : resources.find? kind name =
    (List.find? (fun entry => key entry == (name, kind)) resources).map Prod.snd := by
  rw [find?, key_beq]

theorem find?_perm (named : resources.Named) (found : resources.find? kind name = some resource) :
    (List.map Prod.snd resources).Perm
      (resource :: List.map Prod.snd (resources.remove kind name)) := by
  rw [find?_eq] at found
  obtain ⟨entry, inside, rfl⟩ := Option.map_eq_some_iff.mp found
  obtain ⟨member, same⟩ := (Keyed.find?_eq_some_iff named).mp inside
  rw [remove_eq, ← same]
  exact (Keyed.perm_cons_filter named member).map Prod.snd

theorem mem_of_find? (found : resources.find? kind name = some resource) :
    resource ∈ List.map Prod.snd resources := by
  obtain ⟨entry, inside, rfl⟩ := Option.map_eq_some_iff.mp found
  exact List.mem_map_of_mem (List.mem_of_find?_eq_some inside)

theorem find?_kind (found : resources.find? kind name = some resource) :
    resource.kind = kind := by
  obtain ⟨entry, inside, rfl⟩ := Option.map_eq_some_iff.mp found
  have matched := List.find?_some inside
  rw [Bool.and_eq_true, beq_iff_eq, beq_iff_eq] at matched
  exact matched.2

theorem remove_of_not_found (missing : resources.find? kind name = none) :
    resources.remove kind name = resources := by
  rw [find?_eq, Option.map_eq_none_iff, List.find?_eq_none] at missing
  rw [remove_eq]
  exact List.filter_eq_self.mpr fun entry member => by simpa using missing entry member

theorem Named.remove (named : resources.Named) : (resources.remove kind name).Named := by
  rw [remove_eq]
  exact List.Nodup.sublist (List.filter_sublist.map key) named

theorem Named.put (named : resources.Named) : (resources.put name resource).Named := by
  have kept : (resources.remove resource.kind name).Named := named.remove
  unfold Named at kept ⊢
  rw [Resources.put, List.map_append]
  refine List.nodup_append.mpr ⟨kept, by simp, ?_⟩
  rintro inside member other single rfl
  rw [remove_eq] at member
  obtain ⟨entry, filtered, same⟩ := List.mem_map.mp member
  have different : key entry ≠ (name, resource.kind) := by
    simpa using (List.mem_filter.mp filtered).2
  rw [List.map_singleton, List.mem_singleton] at single
  exact different (same.trans single)

theorem put_perm : (List.map Prod.snd (resources.put name resource)).Perm
    (resource :: List.map Prod.snd (resources.remove resource.kind name)) := by
  rw [put, List.map_append]
  exact List.perm_append_singleton _ _

/-- A resource is found under the name that it was put under. -/
theorem find?_put : (resources.put name resource).find? resource.kind name = some resource := by
  have missing : List.find? (fun entry => key entry == (name, resource.kind))
      (resources.remove resource.kind name) = none := by
    rw [remove_eq]
    refine List.find?_eq_none.mpr fun entry member => ?_
    simpa using (List.mem_filter.mp member).2
  rw [find?_eq, put, List.find?_append, missing]
  simp [key]

theorem find?_remove {key : ResourceKind × String} (different : key ≠ (kind, name)) :
    (resources.remove kind name).find? key.1 key.2 = resources.find? key.1 key.2 := by
  have other : (key.2, key.1) ≠ (name, kind) := fun same =>
    different (congrArg Prod.swap same)
  rw [find?_eq, find?_eq, remove_eq, Keyed.find?_filter_ne resources other]

/-- Putting a resource under a name hides none that stands under another one. -/
theorem find?_put_ne {key : ResourceKind × String} (different : key ≠ (resource.kind, name)) :
    (resources.put name resource).find? key.1 key.2 = resources.find? key.1 key.2 := by
  have missing : List.find? (fun entry => Resources.key entry == (key.2, key.1))
      [(name, resource)] = none := by
    refine List.find?_eq_none.mpr fun entry member => ?_
    rw [List.mem_singleton.mp member, beq_iff_eq]
    exact fun same => different (congrArg Prod.swap same).symm
  rw [put, find?_eq, List.find?_append, missing, Option.or_none, ← find?_eq,
    find?_remove different]

/-! ## By kind -/

theorem context?_eq_some {context : Context} (found : resources.context? name = some context) :
    resources.find? .context name = some (.context context) := by
  unfold context? at found
  split at found
  · next inside => rw [inside, Option.some.inj found]
  · contradiction

theorem list?_eq_some {list : DeviceList} (found : resources.list? name = some list) :
    resources.find? .list name = some (.list list) := by
  unfold list? at found
  split at found
  · next inside => rw [inside, Option.some.inj found]
  · contradiction

theorem device?_eq_some {device : Device} (found : resources.device? name = some device) :
    resources.find? .device name = some (.device device) := by
  unfold device? at found
  split at found
  · next inside => rw [inside, Option.some.inj found]
  · contradiction

@[simp] theorem list?_put {list : DeviceList} :
    (resources.put name (.list list)).list? name = some list := by
  have found : (resources.put name (.list list)).find? .list name = some (.list list) := find?_put
  rw [list?, found]

@[simp] theorem device?_put {device : Device} :
    (resources.put name (.device device)).device? name = some device := by
  have found : (resources.put name (.device device)).find? .device name = some (.device device) :=
    find?_put
  rw [device?, found]

@[simp] theorem handle?_put {handle : Handle} :
    (resources.put name (.handle handle)).handle? name = some handle := by
  have found : (resources.put name (.handle handle)).find? .handle name = some (.handle handle) :=
    find?_put
  rw [handle?, found]

@[simp] theorem descriptor?_put {descriptor : ConfigDescriptor} :
    (resources.put name (.descriptor descriptor)).descriptor? name = some descriptor := by
  have found : (resources.put name (.descriptor descriptor)).find? .descriptor name =
      some (.descriptor descriptor) := find?_put
  rw [descriptor?, found]

theorem handle?_eq_some {handle : Handle} (found : resources.handle? name = some handle) :
    resources.find? .handle name = some (.handle handle) := by
  unfold handle? at found
  split at found
  · next inside => rw [inside, Option.some.inj found]
  · contradiction

theorem handle?_of_find? {handle : Handle}
    (found : resources.find? .handle name = some (.handle handle)) :
    resources.handle? name = some handle := by
  rw [handle?, found]

theorem descriptor?_eq_some {descriptor : ConfigDescriptor}
    (found : resources.descriptor? name = some descriptor) :
    resources.find? .descriptor name = some (.descriptor descriptor) := by
  unfold descriptor? at found
  split at found
  · next inside => rw [inside, Option.some.inj found]
  · contradiction

theorem descriptor?_of_find? {descriptor : ConfigDescriptor}
    (found : resources.find? .descriptor name = some (.descriptor descriptor)) :
    resources.descriptor? name = some descriptor := by
  rw [descriptor?, found]

end Resources

end UsbHost
