import Mathlib.Data.List.Basic
import WorldAccess.Entity.Permissions

/-!
# Who stands in a permission record

A record keeps two lists of ids, and an id has one rank in it: it is an admin, or it is listed, or
it is neither. In a sound record no id is in both lists, neither list repeats an id, and neither is
longer than it may be, and changes in place keep it so. Each of the four changes that name an id
gives that id a rank and leaves the others alone. It is refused if the id names nothing, if there is
no room, or if there is nobody to take out. A refused change leaves the record as it was; so an id
that should move into a list without room stays where it is.

The two lists are alike but for what they are worth. What holds of the one is carried over to the
other by exchanging them.

## Main definitions

* `Permissions.Sound`, `Permissions.Tidy` — what a record should be, and with valid ids only
* `Permissions.Rank`, `Permissions.HasRank` — the ranks of ids
* `Permissions.Assigns` — one record comes from another by giving an id a rank
* `Change.assigned?`, `Change.Feasible` — what a change asks for, and when that can be done
* `Permissions.changed` — a record after changes in sequence

## Main results

* `Permissions.Sound.change`, `Permissions.Tidy.changed` — what changes in place keep
* `Permissions.addAdmin_cases` — what making an admin can come to
* `Permissions.Tidy.assigns` — what a change does that is not refused
* `Permissions.changes_assign_ranks` — records after any changes
-/

namespace WorldAccess

/-! ### Sound records -/

namespace Permissions

variable {p : Permissions} {ids : List EntityId} {id : EntityId}

/-- Whether a list repeats no id and is no longer than it may be. -/
structure Orderly (ids : List EntityId) : Prop where
  nodup : ids.Nodup
  length_le : ids.length ≤ capacity

theorem Orderly.filter (h : Orderly ids) (keep : EntityId → Bool) : Orderly (ids.filter keep) :=
  ⟨h.nodup.filter keep, Nat.le_trans (List.length_filter_le keep ids) h.length_le⟩

/-- A new id may be put behind the others while there is room. -/
theorem Orderly.concat (h : Orderly ids) (new : id ∉ ids) (room : ¬ capacity ≤ ids.length) :
    Orderly (ids ++ [id]) := by
  refine ⟨List.nodup_append.mpr ⟨h.nodup, List.pairwise_singleton _ id, ?_⟩, ?_⟩
  · rintro a among _ last rfl
    rw [List.mem_singleton.mp last] at among
    exact new among
  · rw [List.length_append, List.length_singleton]
    exact Nat.lt_of_not_le room

/-- Whether no id is in both lists of a record and each list is in order. -/
structure Sound (p : Permissions) : Prop where
  admins : Orderly p.admins
  listed : Orderly p.listed
  apart : ∀ id ∈ p.admins, id ∉ p.listed

instance (ids : List EntityId) : Decidable (Orderly ids) :=
  decidable_of_iff (ids.Nodup ∧ ids.length ≤ capacity)
    ⟨fun h => ⟨h.1, h.2⟩, fun h => ⟨h.nodup, h.length_le⟩⟩

instance (p : Permissions) : Decidable p.Sound :=
  decidable_of_iff (Orderly p.admins ∧ Orderly p.listed ∧ ∀ id ∈ p.admins, id ∉ p.listed)
    ⟨fun h => ⟨h.1, h.2.1, h.2.2⟩, fun h => ⟨h.admins, h.listed, h.apart⟩⟩

/-- Records without anybody in their lists are sound, whatever the rights. -/
theorem sound_make (listRights otherRights : Rights) : (make listRights otherRights).Sound where
  admins := ⟨List.nodup_nil, Nat.zero_le _⟩
  listed := ⟨List.nodup_nil, Nat.zero_le _⟩
  apart _ among := absurd among List.not_mem_nil

/-! ### The two lists exchanged -/

/-- The record with its lists exchanged. -/
def mirror (p : Permissions) : Permissions := { p with admins := p.listed, listed := p.admins }

theorem addToList_eq_mirror (p : Permissions) (id : EntityId) :
    p.addToList id = ((p.mirror.addAdmin id).1.mirror, (p.mirror.addAdmin id).2) := by
  by_cases valid : id.isValid = true
  all_goals by_cases already : id ∈ p.listed
  all_goals by_cases full : capacity ≤ p.listed.length
  all_goals simp [addToList, addAdmin, mirror, valid, already, full]

theorem removeFromList_eq_mirror (p : Permissions) (id : EntityId) :
    p.removeFromList id = ((p.mirror.removeAdmin id).1.mirror, (p.mirror.removeAdmin id).2) := rfl

theorem Sound.mirror (h : p.Sound) : p.mirror.Sound :=
  ⟨h.listed, h.admins, fun id listed admin => h.apart id admin listed⟩

/-! ### Changes of sound records -/

theorem Sound.addAdmin (h : p.Sound) (id : EntityId) : (p.addAdmin id).1.Sound := by
  unfold Permissions.addAdmin
  split
  · exact h
  split
  · exact h
  split
  · exact h
  next new room =>
    refine ⟨h.admins.concat new room, h.listed.filter _, fun other admin listed => ?_⟩
    -- whoever is listed still is not the new admin
    obtain ⟨listed, apart⟩ := List.mem_filter.mp listed
    rcases List.mem_append.mp admin with admin | last
    · exact h.apart other admin listed
    · exact of_decide_eq_true apart (List.mem_singleton.mp last)

theorem Sound.removeAdmin (h : p.Sound) (id : EntityId) : (p.removeAdmin id).1.Sound :=
  ⟨h.admins.filter _, h.listed, fun other admin => h.apart other (List.mem_filter.mp admin).1⟩

theorem Sound.addToList (h : p.Sound) (id : EntityId) : (p.addToList id).1.Sound := by
  rw [addToList_eq_mirror]
  exact (h.mirror.addAdmin id).mirror

theorem Sound.removeFromList (h : p.Sound) (id : EntityId) : (p.removeFromList id).1.Sound := by
  rw [removeFromList_eq_mirror]
  exact (h.mirror.removeAdmin id).mirror

/-- Changes in place keep a record sound. -/
theorem Sound.change (h : p.Sound) (change : Change) : (p.change change).1.Sound := by
  cases change with
  | setListRights rights => exact ⟨h.admins, h.listed, h.apart⟩
  | setOtherRights rights => exact ⟨h.admins, h.listed, h.apart⟩
  | addAdmin id => exact h.addAdmin id
  | addToList id => exact h.addToList id
  | removeAdmin id => exact h.removeAdmin id
  | removeFromList id => exact h.removeFromList id

/-! ### Ranks -/

/-- How an id stands in a record: as an admin, on the list, or in neither way. -/
inductive Rank where
  | admin
  | listed
  | neither
deriving DecidableEq

/-- Whether an id has a rank in a record, and no other. -/
def HasRank (p : Permissions) (id : EntityId) : Rank → Prop
  | .admin => id ∈ p.admins ∧ id ∉ p.listed
  | .listed => id ∉ p.admins ∧ id ∈ p.listed
  | .neither => id ∉ p.admins ∧ id ∉ p.listed

/-- Whether a record comes from another by giving one id a rank. In each list the other ids are the
same, in the same order, and the rights are the same. -/
structure Assigns (id : EntityId) (rank : Rank) (p q : Permissions) : Prop where
  hasRank : q.HasRank id rank
  admins : q.admins.filter (· ≠ id) = p.admins.filter (· ≠ id)
  listed : q.listed.filter (· ≠ id) = p.listed.filter (· ≠ id)
  listRights : q.listRights = p.listRights
  otherRights : q.otherRights = p.otherRights

/-- Whether a record is sound and names valid ids only. -/
structure Tidy (p : Permissions) : Prop extends Sound p where
  valid : ∀ id, id ∈ p.admins ∨ id ∈ p.listed → id.isValid = true

namespace Change

/-- The id that a change names, with the rank that it asks for. A change of rights names nobody. -/
def assigned? : Change → Option (EntityId × Rank)
  | setListRights _ | setOtherRights _ => none
  | addAdmin id => some (id, .admin)
  | addToList id => some (id, .listed)
  | removeAdmin id | removeFromList id => some (id, .neither)

/-- Whether a change can be done: an id that is put into a list is valid, and is there already or
finds room; one that is taken out of a list is there. -/
def Feasible (p : Permissions) : Change → Prop
  | setListRights _ | setOtherRights _ => True
  | addAdmin id => id.isValid = true ∧ (id ∈ p.admins ∨ p.admins.length < capacity)
  | addToList id => id.isValid = true ∧ (id ∈ p.listed ∨ p.listed.length < capacity)
  | removeAdmin id => id ∈ p.admins
  | removeFromList id => id ∈ p.listed

end Change

/-- The record after changes in sequence. -/
def changed (p : Permissions) (changes : List Change) : Permissions :=
  changes.foldl (fun p c => (p.change c).1) p

/-- The rank that an id has once the lists are exchanged. -/
def Rank.mirror : Rank → Rank
  | admin => listed
  | listed => admin
  | neither => neither

theorem Tidy.mirror (h : p.Tidy) : p.mirror.Tidy :=
  ⟨h.toSound.mirror, fun id among => h.valid id among.symm⟩

theorem HasRank.mirror {rank : Rank} (h : p.HasRank id rank) : p.mirror.HasRank id rank.mirror := by
  cases rank
  all_goals exact And.symm h

theorem Assigns.mirror {q : Permissions} {rank : Rank} (h : Assigns id rank p q) :
    Assigns id rank.mirror p.mirror q.mirror :=
  ⟨h.hasRank.mirror, h.listed, h.admins, h.listRights, h.otherRights⟩

/-! ### What a change comes to -/

/-- Making an id an admin is refused and changes nothing, or the id is one already, or it is put
behind the admins that there are and taken off the list. -/
theorem addAdmin_cases (p : Permissions) (id : EntityId) :
    (p.addAdmin id = (p, false) ∧ ¬ (Change.addAdmin id).Feasible p) ∨
      (p.addAdmin id = (p, true) ∧ id.isValid = true ∧ id ∈ p.admins) ∨
      (p.addAdmin id =
          ({ p with admins := p.admins ++ [id], listed := p.listed.filter (· ≠ id) }, true) ∧
        id.isValid = true ∧ p.admins.length < capacity) := by
  unfold addAdmin Change.Feasible
  by_cases valid : id.isValid = true
  · by_cases already : id ∈ p.admins
    · exact Or.inr (Or.inl (by simp [valid, already]))
    · by_cases room : p.admins.length < capacity
      · exact Or.inr (Or.inr (by simp [valid, already, room]))
      · exact Or.inl (by simp [valid, already, room, Nat.le_of_not_lt room])
  · exact Or.inl (by simp [valid])

theorem addAdmin_snd_iff : (p.addAdmin id).2 = true ↔ (Change.addAdmin id).Feasible p := by
  rcases p.addAdmin_cases id with ⟨eq, infeasible⟩ | ⟨eq, valid, already⟩ | ⟨eq, valid, room⟩
  · simp [eq, infeasible]
  · simp [eq, Change.Feasible, valid, already]
  · simp [eq, Change.Feasible, valid, room]

/-- A change is done iff it can be. -/
theorem change_snd_iff (p : Permissions) (c : Change) : (p.change c).2 = true ↔ c.Feasible p := by
  cases c with
  | setListRights | setOtherRights => exact iff_of_true rfl trivial
  | addAdmin id => exact addAdmin_snd_iff
  | addToList id =>
    rw [change, addToList_eq_mirror]
    exact addAdmin_snd_iff
  | removeAdmin id => exact decide_eq_true_iff
  | removeFromList id => exact decide_eq_true_iff

theorem addAdmin_of_refused (refused : (p.addAdmin id).2 = false) : (p.addAdmin id).1 = p := by
  rcases p.addAdmin_cases id with ⟨eq, _⟩ | ⟨eq, _⟩ | ⟨eq, _⟩
  · rw [eq]
  · rw [eq]
  · rw [eq] at refused
    cases refused

theorem removeAdmin_of_refused (refused : (p.removeAdmin id).2 = false) :
    (p.removeAdmin id).1 = p := by
  have absent : id ∉ p.admins := of_decide_eq_false refused
  have kept : p.admins.filter (· ≠ id) = p.admins := by
    refine List.filter_eq_self.mpr fun other among => ?_
    simpa using ne_of_mem_of_not_mem among absent
  rw [removeAdmin, kept]

/-- A refused change leaves the record as it was. -/
theorem change_of_refused {c : Change} (refused : (p.change c).2 = false) : (p.change c).1 = p := by
  cases c with
  | setListRights | setOtherRights => cases refused
  | addAdmin id => exact addAdmin_of_refused refused
  | addToList id =>
    rw [change, addToList_eq_mirror] at refused ⊢
    exact congrArg mirror (addAdmin_of_refused refused)
  | removeAdmin id => exact removeAdmin_of_refused refused
  | removeFromList id =>
    rw [change, removeFromList_eq_mirror] at refused ⊢
    exact congrArg mirror (removeAdmin_of_refused refused)

namespace Tidy

/-- An id that has been made an admin is one and is not listed, and all else is as it was. -/
theorem assigns_addAdmin (h : p.Tidy) (done : (p.addAdmin id).2 = true) :
    Assigns id .admin p (p.addAdmin id).1 := by
  rcases p.addAdmin_cases id with ⟨eq, _⟩ | ⟨eq, _, already⟩ | ⟨eq, _⟩
  · rw [eq] at done
    cases done
  · rw [eq]
    exact ⟨⟨already, h.apart id already⟩, rfl, rfl, rfl, rfl⟩
  · rw [eq]
    exact ⟨⟨by simp, by simp⟩, by simp, by simp, rfl, rfl⟩

theorem assigns_removeAdmin (h : p.Tidy) (done : (p.removeAdmin id).2 = true) :
    Assigns id .neither p (p.removeAdmin id).1 := by
  have admin : id ∈ p.admins := of_decide_eq_true done
  exact ⟨⟨p.notMem_admins_removeAdmin id, h.apart id admin⟩, by simp [removeAdmin], rfl, rfl, rfl⟩

/-- A change that is done gives the id that it names the rank that it asks for. -/
theorem assigns (h : p.Tidy) {c : Change} {rank : Rank} (asked : c.assigned? = some (id, rank))
    (done : (p.change c).2 = true) : Assigns id rank p (p.change c).1 := by
  cases c with
  | setListRights | setOtherRights => cases asked
  | addAdmin id =>
    cases asked
    exact h.assigns_addAdmin done
  | addToList id =>
    cases asked
    rw [change, addToList_eq_mirror] at done ⊢
    exact (h.mirror.assigns_addAdmin done).mirror
  | removeAdmin id =>
    cases asked
    exact h.assigns_removeAdmin done
  | removeFromList id =>
    cases asked
    rw [change, removeFromList_eq_mirror] at done ⊢
    exact (h.mirror.assigns_removeAdmin done).mirror

/-! ### Changes in sequence -/

theorem addAdmin (h : p.Tidy) (id : EntityId) : (p.addAdmin id).1.Tidy := by
  refine ⟨h.toSound.addAdmin id, fun other among => ?_⟩
  rcases p.addAdmin_cases id with ⟨eq, _⟩ | ⟨eq, _⟩ | ⟨eq, valid, _⟩
  · exact h.valid other (by simpa [eq] using among)
  · exact h.valid other (by simpa [eq] using among)
  · simp only [eq, List.mem_append, List.mem_singleton, List.mem_filter] at among
    rcases among with (admin | rfl) | listed
    · exact h.valid other (Or.inl admin)
    · exact valid
    · exact h.valid other (Or.inr listed.1)

theorem removeAdmin (h : p.Tidy) (id : EntityId) : (p.removeAdmin id).1.Tidy :=
  ⟨h.toSound.removeAdmin id, fun other among =>
    h.valid other (among.imp_left fun admin => (List.mem_filter.mp admin).1)⟩

/-- Changes in place keep a record tidy. -/
theorem change (h : p.Tidy) (c : Change) : (p.change c).1.Tidy := by
  cases c with
  | setListRights rights => exact ⟨⟨h.admins, h.listed, h.apart⟩, h.valid⟩
  | setOtherRights rights => exact ⟨⟨h.admins, h.listed, h.apart⟩, h.valid⟩
  | addAdmin id => exact h.addAdmin id
  | addToList id =>
    rw [Permissions.change, addToList_eq_mirror]
    exact (h.mirror.addAdmin id).mirror
  | removeAdmin id => exact h.removeAdmin id
  | removeFromList id =>
    rw [Permissions.change, removeFromList_eq_mirror]
    exact (h.mirror.removeAdmin id).mirror

theorem changed (h : p.Tidy) (changes : List Change) : (p.changed changes).Tidy := by
  induction changes generalizing p with
  | nil => exact h
  | cons c rest ih => exact ih (h.change c)

end Tidy

theorem tidy_make (listRights otherRights : Rights) : (make listRights otherRights).Tidy :=
  ⟨sound_make listRights otherRights, fun _ among => by simp [make] at among⟩

/-- Whatever has been changed in a record that began without anybody, its lists hold valid ids only,
repeat none, share none, and are no longer than they may be. A further change is done iff it can be.
If it is refused, the record is as it was. If it is done, the id that it names has the rank that it
asks for and no other, and all other ids keep their ranks and their order. -/
theorem changes_assign_ranks (listRights otherRights : Rights) (before : List Change) (c : Change) :
    let p := (make listRights otherRights).changed before
    p.Tidy ∧
      ((p.change c).2 = true ↔ c.Feasible p) ∧
      ((p.change c).2 = false → (p.change c).1 = p) ∧
      ∀ id rank, c.assigned? = some (id, rank) → (p.change c).2 = true →
        Assigns id rank p (p.change c).1 := by
  intro p
  have tidy : p.Tidy := (tidy_make listRights otherRights).changed before
  exact ⟨tidy, p.change_snd_iff c, change_of_refused, fun _ _ => tidy.assigns⟩

/-- Changes that make as many admins as there may be, and put one more id on the list. -/
def crowding : List Change :=
  (List.range capacity).map (fun n => .addAdmin ⟨2, n.toUInt64 + 1⟩) ++ [.addToList ⟨2, 99⟩]

/-- A record after these changes. -/
def crowded : Permissions := (make .read .empty).changed crowding

theorem changes_assign_ranks_crowded :
    crowded.admins.length = capacity ∧
      (crowded.change (.addAdmin ⟨2, 99⟩)).1 = crowded ∧
      Assigns ⟨2, 1⟩ .listed crowded (crowded.change (.addToList ⟨2, 1⟩)).1 := by
  have further := changes_assign_ranks .read .empty crowding
  have full : crowded.admins.length = capacity := by cbv
  have apart : ⟨2, 99⟩ ∉ crowded.admins := by
    rw [← List.contains_iff_mem, Bool.not_eq_true]
    cbv
  have room : crowded.listed.length < capacity := by cbv
  refine ⟨full, ?_, ?_⟩
  · -- the listed id is not among the admins, and finds no room there
    obtain ⟨_, feasible, refused, _⟩ := further (.addAdmin ⟨2, 99⟩)
    refine refused (Bool.eq_false_iff.mpr fun done => ?_)
    rcases (feasible.mp done).2 with already | less
    · exact apart already
    · exact Nat.ne_of_lt less full
  · obtain ⟨_, feasible, _, done⟩ := further (.addToList ⟨2, 1⟩)
    exact done _ _ rfl (feasible.mpr ⟨by decide, Or.inr room⟩)

end Permissions

end WorldAccess
