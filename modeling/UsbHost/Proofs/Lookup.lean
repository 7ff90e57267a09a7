import UsbHost.FileTree

/-!
# Where paths lead

The names of a path lead from location to location, whoever follows them. The system follows them
only so far: what it finds is there, but it does not find everything that is there.
-/

set_option autoImplicit false

namespace UsbHost

namespace FileTree

/-- The ways in which a name leads from a directory. -/
inductive Strides (files : FileTree) (location : Location) : String → Stride → Prop where
  | stay {name} : name = "" ∨ name = "." → Strides files location name (.lands location)
  | up : Strides files location ".." (.lands location.dropLast)
  | down {name node} : files.node? (location ++ [name]) = some node →
      (∀ target, node ≠ .link target) → Strides files location name (.lands (location ++ [name]))
  | through {name target} : files.node? (location ++ [name]) = some (.link target) →
      Strides files location name (.through target)

/-- Names lead from one location to another. Neither permissions nor the number of links nor the
length of anything play a part. -/
inductive Leads (files : FileTree) : Location → List String → Location → Prop where
  | here {location} : Leads files location [] location
  | lands {location name next rest final} : files.next? location name = some (.lands next) →
      Leads files next rest final → Leads files location (name :: rest) final
  | through {location name target rest final} :
      files.next? location name = some (.through target) →
      Leads files (start target location) (Text.split '/' target ++ rest) final →
      Leads files location (name :: rest) final

variable {files : FileTree} {path name : String} {names front back : List String}
  {location middle final : Location} {stride : Stride} {node : FileNode} {cause : ReadError}

/-- A path names an entry of a directory. The entry may be a link that leads nowhere. -/
def Occupied (files : FileTree) (path : String) : Prop :=
  ∃ front name folder stride, Text.split '/' path = front ++ [name] ∧
    files.Leads (start path files.current) front folder ∧ files.next? folder name = some stride

/-- The system does not find anything at a path, for whatever reason. -/
def Unseen (files : FileTree) (path : String) : Prop :=
  ∃ cause, files.status path = .error cause

/-- Something is there, and the system does not find it. -/
def Masked (files : FileTree) (path : String) : Prop :=
  files.Occupied path ∧ files.Unseen path

theorem has_eq_false_iff : files.has path = false ↔ files.Unseen path := by
  unfold has Unseen
  cases files.status path with
  | error cause => simp [Except.isOk, Except.toBool]
  | ok node => simp [Except.isOk, Except.toBool]

theorem unseen_or_seen (files : FileTree) (path : String) :
    files.Unseen path ∨ ∃ node, files.status path = .ok node := by
  cases found : files.status path with
  | error cause => exact .inl ⟨cause, found⟩
  | ok node => exact .inr ⟨node, rfl⟩

theorem Unseen.not_seen (unseen : files.Unseen path) : files.status path ≠ .ok node := by
  obtain ⟨cause, failed⟩ := unseen
  rw [failed]
  exact nofun

/-- Links are followed. -/
theorem status_ne_link (files : FileTree) (path target : String) :
    files.status path ≠ .ok (.link target) := by
  intro found
  unfold status at found
  split at found
  · contradiction
  · split at found
    · contradiction
    · contradiction
    · next noLink _ => exact noLink target (Except.ok.inj found)

/-- At a path that is too long the system finds nothing, whatever is there. -/
theorem unseen_of_long (files : FileTree) (long : maxPathSize < path.utf8ByteSize) :
    files.Unseen path := by
  have refused : ∃ cause, files.resolve path = .error cause := by
    unfold resolve
    rw [if_pos long]
    split
    · exact ⟨_, rfl⟩
    · split <;> exact ⟨_, rfl⟩
  obtain ⟨cause, refused⟩ := refused
  refine ⟨cause, ?_⟩
  unfold status
  rw [refused]

/-! ## What the system finds is there -/

theorem next?_of_enter (entered : files.enter location name = .ok stride) :
    files.next? location name = some stride := by
  unfold enter at entered
  split at entered
  · split at entered
    · contradiction
    · split at entered
      · contradiction
      · split at entered
        · next found => exact found.trans (congrArg some (Except.ok.inj entered))
        · contradiction
  · contradiction
  · contradiction

theorem walkWith_leads {follow : List String → Location → Except ReadError Location}
    (follows : ∀ names location final, follow names location = .ok final →
      files.Leads location names final)
    (walked : files.walkWith follow names location = .ok final) :
    files.Leads location names final := by
  induction names generalizing location with
  | nil =>
    obtain rfl := Except.ok.inj walked
    exact .here
  | cons name rest ih =>
    unfold walkWith at walked
    split at walked
    · contradiction
    · next entered => exact .lands (next?_of_enter entered) (ih walked)
    · next entered => exact .through (next?_of_enter entered) (follows _ _ _ walked)

theorem walk_leads {links : Nat} (walked : files.walk links names location = .ok final) :
    files.Leads location names final := by
  induction links generalizing names location final with
  | zero => exact walkWith_leads (fun _ _ _ followed => by cases followed) walked
  | succ links ih => exact walkWith_leads (fun _ _ _ => ih) walked

theorem Leads.split (leads : files.Leads location (front ++ back) final) :
    ∃ middle, files.Leads location front middle ∧ files.Leads middle back final := by
  generalize whole : front ++ back = names at leads
  induction leads generalizing front with
  | here =>
    obtain ⟨rfl, rfl⟩ := List.append_eq_nil_iff.mp whole
    exact ⟨_, .here, .here⟩
  | @lands location name next rest final found leads ih =>
    cases front with
    | nil =>
      obtain rfl := whole
      exact ⟨_, .here, .lands found leads⟩
    | cons first front =>
      obtain ⟨rfl, rfl⟩ := List.cons.inj whole
      obtain ⟨middle, before, behind⟩ := ih rfl
      exact ⟨middle, .lands found before, behind⟩
  | @through location name target rest final found leads ih =>
    cases front with
    | nil =>
      obtain rfl := whole
      exact ⟨_, .here, .through found leads⟩
    | cons first front =>
      obtain ⟨rfl, rfl⟩ := List.cons.inj whole
      -- The names of the link belong to the front.
      obtain ⟨middle, before, behind⟩ := ih (List.append_assoc ..)
      exact ⟨middle, .through found before, behind⟩

theorem Leads.next (leads : files.Leads location [name] final) :
    ∃ stride, files.next? location name = some stride := by
  cases leads with
  | lands found => exact ⟨_, found⟩
  | through found => exact ⟨_, found⟩

theorem resolve_walks (resolved : files.resolve path = .ok location) :
    files.walk maxLinks (Text.split '/' path) (start path files.current) = .ok location := by
  unfold resolve at resolved
  split at resolved
  · contradiction
  · split at resolved
    · contradiction
    · split at resolved
      · contradiction
      · exact resolved

theorem occupied_of_seen (seen : files.status path = .ok node) : files.Occupied path := by
  have resolved : ∃ location, files.resolve path = .ok location := by
    unfold status at seen
    split at seen
    · contradiction
    · next location resolved => exact ⟨location, resolved⟩
  obtain ⟨location, resolved⟩ := resolved
  have leads := walk_leads (resolve_walks resolved)
  rcases (Text.split '/' path).eq_nil_or_concat with none | ⟨front, name, names⟩
  · exact absurd none (Text.split_ne_nil '/' path)
  · rw [List.concat_eq_append] at names
    rw [names] at leads
    obtain ⟨folder, before, last⟩ := leads.split
    obtain ⟨stride, found⟩ := last.next
    exact ⟨front, name, folder, stride, names, before, found⟩

theorem unseen_of_absent (absent : ¬ files.Occupied path) : files.Unseen path :=
  (files.unseen_or_seen path).resolve_right fun ⟨_, seen⟩ => absent (occupied_of_seen seen)

/-! ## What is there in a plain tree is found -/

/-- Everything may be searched, nothing is a link, names are short, and what stands somewhere stands
in something. -/
structure Plain (files : FileTree) : Prop where
  searchable : ∀ location searchable readable,
    files.node? location = some (.directory searchable readable) → searchable = true
  unlinked : ∀ location target, files.node? location ≠ some (.link target)
  short : ∀ location name, (files.node? (location ++ [name])).isSome →
    name.utf8ByteSize ≤ maxNameSize
  rooted : ∀ location, (files.node? location).isSome → (files.node? location.dropLast).isSome

/-- A path that the system takes. -/
structure Fits (path : String) : Prop where
  noNul : '\x00' ∉ path.toList
  named : path ≠ ""
  short : path.utf8ByteSize ≤ maxPathSize

theorem next?_cases (found : files.next? location name = some stride) :
    (∃ searchable readable, files.node? location = some (.directory searchable readable)) ∧
      files.Strides location name stride := by
  unfold next? at found
  split at found
  · next searchable readable stands =>
    refine ⟨⟨searchable, readable, stands⟩, ?_⟩
    split at found
    · next stays =>
      obtain rfl := Option.some.inj found
      exact .stay (by simpa using stays)
    · split at found
      · next isUp =>
        obtain rfl := Option.some.inj found
        obtain rfl := eq_of_beq isUp
        exact .up
      · split at found
        · next link =>
          obtain rfl := Option.some.inj found
          exact .through link
        · next node noLink stands =>
          obtain rfl := Option.some.inj found
          exact .down stands noLink
        · contradiction
  · contradiction

theorem Leads.append (leads : files.Leads location front middle)
    (behind : files.Leads middle back final) : files.Leads location (front ++ back) final := by
  induction leads with
  | here => exact behind
  | lands found _ ih => exact .lands found (ih behind)
  | through found _ ih => exact .through found (List.append_assoc .. ▸ ih behind)

namespace Plain

variable (plain : files.Plain)
include plain

theorem enter (found : files.next? location name = some stride) :
    files.enter location name = .ok stride := by
  obtain ⟨⟨searchable, readable, stands⟩, strides⟩ := next?_cases found
  have unlocked : searchable = true := plain.searchable _ _ _ stands
  have short : name.utf8ByteSize ≤ maxNameSize := by
    cases strides with
    | stay stays => rcases stays with rfl | rfl <;> decide
    | up => decide
    | down stands => exact plain.short location name (stands ▸ rfl)
    | through link => exact plain.short location name (link ▸ rfl)
  unfold FileTree.enter
  rw [stands]
  dsimp only
  rw [unlocked, found, if_neg (by simp), if_neg (Nat.not_lt.mpr short)]

theorem next_stands (stands : (files.node? location).isSome)
    (strides : files.Strides location name stride) :
    ∃ next, stride = .lands next ∧ (files.node? next).isSome := by
  cases strides with
  | stay => exact ⟨_, rfl, stands⟩
  | up => exact ⟨_, rfl, plain.rooted location stands⟩
  | down found => exact ⟨_, rfl, found ▸ rfl⟩
  | through link => exact absurd link (plain.unlinked _ _)

theorem walkWith {follow : List String → Location → Except ReadError Location}
    (leads : files.Leads location names final) :
    files.walkWith follow names location = .ok final := by
  induction leads with
  | here => rfl
  | lands found _ ih =>
    unfold FileTree.walkWith
    rw [plain.enter found]
    exact ih
  | through found =>
    obtain ⟨⟨_, _, stands⟩, strides⟩ := next?_cases found
    obtain ⟨_, same, _⟩ := plain.next_stands (stands ▸ rfl) strides
    contradiction

/-- What is there is found. -/
theorem seen (fits : Fits path) (occupied : files.Occupied path) :
    ∃ node, files.status path = .ok node := by
  obtain ⟨front, name, folder, stride, names, leads, found⟩ := occupied
  obtain ⟨⟨_, _, stands⟩, strides⟩ := next?_cases found
  obtain ⟨next, rfl, there⟩ := plain.next_stands (stands ▸ rfl) strides
  obtain ⟨node, standing⟩ := Option.isSome_iff_exists.mp there
  have walked : files.walk maxLinks (Text.split '/' path) (start path files.current) = .ok next :=
    names ▸ plain.walkWith (leads.append (.lands found .here))
  refine ⟨node, ?_⟩
  unfold status resolve
  rw [if_neg (by simpa using fits.noNul), if_neg (by simpa using fits.named),
    if_neg (Nat.not_lt.mpr fits.short), walked]
  dsimp only
  rw [standing]
  cases node with
  | directory | file => rfl
  | link target => exact absurd standing (plain.unlinked next target)

theorem not_masked (fits : Fits path) : ¬ files.Masked path := by
  rintro ⟨occupied, unseen⟩
  obtain ⟨node, seen⟩ := plain.seen fits occupied
  exact unseen.not_seen seen

end Plain

end FileTree

end UsbHost
