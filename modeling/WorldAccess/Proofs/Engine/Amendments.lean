import WorldAccess.Proofs.Engine.Standing

/-!
# Amended permission records

An edit of who stands in a permission record moves rights in one direction. Making an id an admin
takes nothing from anybody, although the id leaves the list; taking an id out of either list gives
nothing to anybody. Both hold for ids that a record reaches through a group just as for those that
it names, since all that is asked of the edit is where the names of the one record are found in the
other. Putting an id on the list is an edit of neither kind, for it may cost an admin his standing.

## Main definitions

* `Permissions.AtMost` — the names of one record stand as high in another
* `Store.GrantsNoMore` — what is granted by one record is granted by another

## Main results

* `Store.grantsNoMore_of_atMost` — a record with more names, or higher ones, grants no less
* `Store.amendments_are_one_way` — making an admin takes no right away, and removals give none
-/

namespace WorldAccess

namespace Permissions

variable {p q r : Permissions}

/-- Whether the rights of two records are the same, every admin of the first is one of the second,
and whoever the first lists is listed by the second or has become an admin there. -/
structure AtMost (p q : Permissions) : Prop where
  admins : p.admins ⊆ q.admins
  listed : ∀ id ∈ p.listed, id ∈ q.admins ∨ id ∈ q.listed
  listRights : p.listRights = q.listRights
  otherRights : p.otherRights = q.otherRights

theorem AtMost.refl (p : Permissions) : AtMost p p :=
  ⟨List.Subset.refl _, fun _ listed => Or.inr listed, rfl, rfl⟩

theorem atMost_addAdmin (p : Permissions) (id : EntityId) : AtMost p (p.addAdmin id).1 := by
  unfold addAdmin
  split
  · exact .refl p
  split
  · exact .refl p
  split
  · exact .refl p
  · refine ⟨List.subset_append_left _ _, fun other listed => ?_, rfl, rfl⟩
    by_cases moved : other = id
    · exact Or.inl (List.mem_append_right _ (List.mem_singleton.mpr moved))
    · exact Or.inr (List.mem_filter.mpr ⟨listed, decide_eq_true moved⟩)

theorem removeAdmin_atMost (p : Permissions) (id : EntityId) : AtMost (p.removeAdmin id).1 p :=
  ⟨fun _ admin => (List.mem_filter.mp admin).1, fun _ listed => Or.inr listed, rfl, rfl⟩

theorem removeFromList_atMost (p : Permissions) (id : EntityId) :
    AtMost (p.removeFromList id).1 p :=
  ⟨List.Subset.refl _, fun _ listed => Or.inr (List.mem_filter.mp listed).1, rfl, rfl⟩

end Permissions

namespace Store

variable {s : Store} {p q : Permissions} {owner : EntityId}

/-- Whether all that is granted by one record is granted by another, to whoever asks, for whatever
right: by the record read alone, and by the record read with the store. -/
structure GrantsNoMore (s : Store) (owner : EntityId) (p q : Permissions) : Prop where
  allows : ∀ wanted first second rule,
    p.allows owner wanted first second rule = true → q.allows owner wanted first second rule = true
  isAdmin : ∀ first second,
    p.isAdmin owner first second = true → q.isAdmin owner first second = true
  permits : ∀ wanted first second rule,
    s.permits owner p wanted first second rule = true →
      s.permits owner q wanted first second rule = true
  administers : ∀ first second,
    s.administers owner p first second = true → s.administers owner q first second = true

/-! ### Records read alone -/

theorem covers_empty (ids : List EntityId) (candidate : EntityId) :
    Store.empty.covers ids candidate = ids.contains candidate := by
  simp [covers, isGroup, get?, entity?, Store.empty]

/-- A record read alone is the record read where nothing is stored. -/
theorem permits_empty (owner : EntityId) (p : Permissions) (wanted : Rights) (first : EntityId)
    (second : Option EntityId) (rule : BasicRule) :
    Store.empty.permits owner p wanted first second rule =
      p.allows owner wanted first second rule := by
  have candidates : Store.empty.entitles owner p wanted rule = p.names owner wanted rule := by
    funext candidate
    rw [entitles, Permissions.names, covers_empty, covers_empty,
      Bool.and_comm (p.listed.contains _)]
  rw [permits, candidates]
  rfl

theorem administers_empty (owner : EntityId) (p : Permissions) (first : EntityId)
    (second : Option EntityId) :
    Store.empty.administers owner p first second = p.isAdmin owner first second := by
  simp only [administers, Permissions.isAdmin, covers_empty]

/-! ### Records read with a store -/

theorem entitles_of_atMost (more : p.AtMost q) {wanted : Rights} {rule : BasicRule}
    {candidate : EntityId} (entitled : s.entitles owner p wanted rule candidate = true) :
    s.entitles owner q wanted rule candidate = true := by
  rw [entitles_iff] at entitled ⊢
  obtain ⟨valid, standing⟩ := entitled
  refine ⟨valid, ?_⟩
  rcases standing with owner | ⟨id, admin, stands⟩ | ⟨granted, id, listed, stands⟩
  · exact Or.inl owner
  · exact Or.inr (Or.inl ⟨id, more.admins admin, stands⟩)
  · -- an id that leaves the list for the admins takes along all that it stands for
    rcases more.listed id listed with admin | listed
    · exact Or.inr (Or.inl ⟨id, admin, stands⟩)
    · exact Or.inr (Or.inr ⟨more.listRights ▸ granted, id, listed, stands⟩)

theorem permits_of_atMost (more : p.AtMost q) (wanted : Rights) (first : EntityId)
    (second : Option EntityId) (rule : BasicRule)
    (permitted : s.permits owner p wanted first second rule = true) :
    s.permits owner q wanted first second rule = true := by
  simp only [permits, Bool.or_eq_true, List.any_eq_true] at permitted ⊢
  rcases permitted with ⟨candidate, among, entitled⟩ | anybody
  · exact Or.inl ⟨candidate, among, entitles_of_atMost more entitled⟩
  · exact Or.inr (more.otherRights ▸ anybody)

theorem administers_of_atMost (more : p.AtMost q) (first : EntityId) (second : Option EntityId)
    (standing : s.administers owner p first second = true) :
    s.administers owner q first second = true := by
  rw [administers_iff] at standing ⊢
  obtain ⟨candidate, among, valid, standing⟩ := standing
  refine ⟨candidate, among, valid, standing.imp_right ?_⟩
  rintro ⟨id, admin, stands⟩
  exact ⟨id, more.admins admin, stands⟩

/-- A record in which the names of another stand as high grants all that the other does. -/
theorem grantsNoMore_of_atMost (more : p.AtMost q) (s : Store) (owner : EntityId) :
    s.GrantsNoMore owner p q where
  allows wanted first second rule := by
    rw [← permits_empty, ← permits_empty]
    exact permits_of_atMost more wanted first second rule
  isAdmin first second := by
    rw [← administers_empty, ← administers_empty]
    exact administers_of_atMost more first second
  permits := permits_of_atMost more
  administers := administers_of_atMost more

/-! ### Edits -/

/-- Who is granted something by a record, by its name or through a group, is granted it still when
an id has been made an admin. Who is granted something after an id has been taken from the admins or
off the list was granted it before. And these edits do what they are for: an id that has been made
an admin has full standing along with all that it stands for, and an id that has been taken from the
admins has none by its own name. -/
theorem amendments_are_one_way (s : Store) (owner : EntityId) (p : Permissions) (id : EntityId) :
    s.GrantsNoMore owner p (p.addAdmin id).1 ∧
      s.GrantsNoMore owner (p.removeAdmin id).1 p ∧
      s.GrantsNoMore owner (p.removeFromList id).1 p ∧
      ((p.addAdmin id).2 = true → ∀ c : EntityId, c.isValid = true → s.StandsFor id c →
        s.administers owner (p.addAdmin id).1 c none = true) ∧
      (id ≠ owner → (p.removeAdmin id).1.isAdmin owner id none = false) := by
  refine ⟨grantsNoMore_of_atMost (p.atMost_addAdmin id) s owner,
    grantsNoMore_of_atMost (p.removeAdmin_atMost id) s owner,
    grantsNoMore_of_atMost (p.removeFromList_atMost id) s owner, ?_, ?_⟩
  · intro done c valid stands
    rw [administers_iff]
    exact ⟨c, by simp, valid, Or.inr ⟨id, Permissions.mem_admins_addAdmin done, stands⟩⟩
  · intro stranger
    simp [Permissions.isAdmin, stranger, p.notMem_admins_removeAdmin id]

/-- A record whose list names the outer group and grants writing. -/
def outerListed : Permissions := { listRights := .write, listed := [⟨2, 3⟩] }

theorem amendments_are_one_way_nested :
    nestedStore.permits .none outerListed .write ⟨2, 2⟩ none .ignored = true ∧
      nestedStore.permits .none (outerListed.addAdmin ⟨2, 3⟩).1 .write ⟨2, 2⟩ none .ignored =
        true ∧
      nestedStore.administers .none (outerListed.addAdmin ⟨2, 3⟩).1 ⟨2, 2⟩ none = true ∧
      (outerAdmins.removeAdmin ⟨2, 3⟩).1.isAdmin .none ⟨2, 3⟩ none = false := by
  have granted : nestedStore.permits .none outerListed .write ⟨2, 2⟩ none .ignored = true := by
    decide +kernel
  obtain ⟨kept, _, _, full, _⟩ := amendments_are_one_way nestedStore .none outerListed ⟨2, 3⟩
  obtain ⟨_, _, _, _, gone⟩ := amendments_are_one_way nestedStore .none outerAdmins ⟨2, 3⟩
  refine ⟨granted, kept.permits _ _ _ _ granted, ?_, gone (by decide)⟩
  refine full (by decide) ⟨2, 2⟩ (by decide) (Or.inr ?_)
  decide +kernel

-- an admin who is put on the list keeps no more than the list rights
example : outerAdmins.isAdmin .none ⟨2, 3⟩ none = true ∧
    (outerAdmins.addToList ⟨2, 3⟩).1.isAdmin .none ⟨2, 3⟩ none = false := by
  decide

end Store

end WorldAccess
