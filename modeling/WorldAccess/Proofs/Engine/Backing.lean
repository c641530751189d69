import WorldAccess.Engine.Grants
import WorldAccess.Proofs.Store.Fate

/-!
# What backs a capability

A grant list says something about the store: its head is the one capability entity of the site with
the capability's name, and its tail are enabled members of the head. This is so when the list is
resolved. Afterwards the store may move on, but as long as edits keep their changes, every move that
makes the list wrong announces an event that clears it. One thing escapes: an entity may be marked
deleted while its list is kept. So what a kept list goes on to say does not speak of that mark.

## Main definitions

* `Store.Backs` — an entity backs a capability in a site
* `Store.Supports` — what a kept grant list says about the store
* `Event.clears` — an event that clears the lists of a head

## Main results

* `GrantLists.resolve_sole`, `GrantLists.supports_resolve` — what a resolved list says
* `GrantLists.resolve_eq_nil_of_ne` — two backing entities resolve to nothing
* `Store.Supports.of_moves` — a list that is no longer right is cleared by what is announced
-/

namespace WorldAccess

open Std

variable {s s' : Store} {site : SiteId} {c : Capability} {head : EntityId} {tail : List EntityId}

/-! ### Backing entities -/

/-- Whether an entity is a capability entity of a capability's name. -/
def Entity.BearsNameOf (e : Entity) (c : Capability) : Prop :=
  e.kind = .capability ∧ Text.fold e.name = Text.fold c.entityName

namespace Store

/-- Whether the entity stored under an id backs a capability in a site: it is a capability entity of
the site with the capability's name, and it is not marked deleted. -/
def Backs (s : Store) (site : SiteId) (c : Capability) (id : EntityId) : Prop :=
  ∃ e, s.entity? id = some e ∧ id.site = site ∧ e.BearsNameOf c ∧ e.deleted = false

/-- Whether an entity alone backs a capability. -/
def SolelyBacks (s : Store) (site : SiteId) (c : Capability) (id : EntityId) : Prop :=
  s.Backs site c id ∧ ∀ other, s.Backs site c other → other = id

theorem mem_inSite {e : Entity} :
    e ∈ s.inSite site ↔ ∃ id, s.entity? id = some e ∧ id.site = site := by
  simp only [inSite, entity?, List.mem_map, List.mem_filter, Prod.exists,
    ExtTreeMap.mem_toList_iff_getElem?_eq_some, Option.map_eq_some_iff, beq_iff_eq]
  constructor
  · rintro ⟨id, stored, ⟨live, here⟩, rfl⟩
    exact ⟨id, ⟨stored, live, rfl⟩, here⟩
  · rintro ⟨id, ⟨stored, live, rfl⟩, here⟩
    exact ⟨id, stored, ⟨live, here⟩, rfl⟩

theorem WellFormed.id_of_entity? (wf : s.WellFormed) {id : EntityId} {e : Entity}
    (he : s.entity? id = some e) : e.id = id := by
  obtain ⟨stored, live, rfl⟩ := Option.map_eq_some_iff.mp he
  exact wf.own id stored live

theorem WellFormed.get?_eq (wf : s.WellFormed) {id : EntityId} {e : Entity}
    (he : s.entity? id = some e) : s.get? id = some e := by
  obtain ⟨stored, live, rfl⟩ := Option.map_eq_some_iff.mp he
  have valid := wf.valid stored (holds_of_live live)
  rw [wf.own id stored live] at valid
  simpa [get?, valid] using he

/-- The name of a capability is not blank. -/
theorem fold_entityName_isEmpty (c : Capability) : (Text.fold c.entityName).isEmpty = false := by
  cases c <;> decide +kernel

/-- The search for capability entities of a capability's name finds what backs the capability. -/
theorem mem_find_iff (wf : s.WellFormed) {id : EntityId} :
    id ∈ s.find site (some .capability) c.entityName true ↔ s.Backs site c id := by
  simp only [find, fold_entityName_isEmpty, Bool.false_eq_true, if_false, List.mem_map,
    List.mem_filter, mem_inSite, Option.all_some, nameHit, if_true, Bool.and_eq_true, beq_iff_eq,
    Bool.not_eq_true']
  constructor
  · rintro ⟨e, ⟨⟨id', stored, here⟩, ⟨kind, name⟩, current⟩, rfl⟩
    rw [wf.id_of_entity? stored]
    exact ⟨e, stored, here, ⟨kind.symm, name⟩, current⟩
  · rintro ⟨e, stored, here, ⟨kind, name⟩, current⟩
    exact ⟨e, ⟨⟨id, stored, here⟩, ⟨kind.symm, name⟩, current⟩, wf.id_of_entity? stored⟩

end Store

/-! ### Resolved lists -/

/-- What a grant list says about the store for as long as it is kept: its head is a capability
entity of the site with the capability's name, and its tail are enabled members of the head. -/
def Store.Supports (s : Store) (site : SiteId) (c : Capability) (head : EntityId)
    (tail : List EntityId) : Prop :=
  ∃ e, s.entity? head = some e ∧ head.site = site ∧ e.BearsNameOf c ∧
    tail.Sublist ((e.group.map (·.enabled)).getD [])

namespace GrantLists

/-- A resolved list that is not empty comes from the only entity that was found. -/
theorem resolve_eq_cons (h : resolve s site c = head :: tail) :
    s.find site (some .capability) c.entityName true = [head] ∧
      ∃ e, s.get? head = some e ∧
        tail = ((e.group.map (·.enabled)).getD []).filter s.isGroup := by
  unfold resolve at h
  split at h
  next backing found =>
    split at h
    · cases h
    next e he =>
      injection h with same rest
      subst same
      exact ⟨found, e, he, rest.symm⟩
  · cases h

theorem resolve_sole (wf : s.WellFormed) (h : resolve s site c = head :: tail) :
    s.SolelyBacks site c head := by
  obtain ⟨found, _⟩ := resolve_eq_cons h
  refine ⟨(Store.mem_find_iff wf).mp (by simp [found]), fun other backs => ?_⟩
  have hit := (Store.mem_find_iff wf).mpr backs
  rw [found] at hit
  exact List.mem_singleton.mp hit

theorem supports_resolve (wf : s.WellFormed) (h : resolve s site c = head :: tail) :
    s.Supports site c head tail := by
  obtain ⟨_, e, he, rfl⟩ := resolve_eq_cons h
  obtain ⟨⟨e', stored, here, bears, _⟩, _⟩ := resolve_sole wf h
  obtain rfl : e' = e := Option.some_inj.mp ((wf.get?_eq stored).symm.trans he)
  exact ⟨e', stored, here, bears, List.filter_sublist⟩

/-- Two entities that back a capability leave it to nobody. -/
theorem resolve_eq_nil_of_ne (wf : s.WellFormed) {a b : EntityId} (ha : s.Backs site c a)
    (hb : s.Backs site c b) (ne : a ≠ b) : resolve s site c = [] := by
  cases h : resolve s site c with
  | nil => rfl
  | cons head tail =>
    obtain ⟨_, only⟩ := resolve_sole wf h
    exact absurd ((only a ha).trans (only b hb).symm) ne

end GrantLists

namespace Store

/-- The enabled members of a stored entity are those that its roster lists. -/
theorem isMember_iff (wf : s.WellFormed) {e : Entity} (stored : s.entity? head = some e)
    {m : EntityId} : s.isMember head m = true ↔ m ∈ (e.group.map (·.enabled)).getD [] := by
  rw [isMember, wf.get?_eq stored, Option.any_some, Entity.hasMember]
  cases e.group with
  | none => simp
  | some r => simp [Roster.hasMember, Roster.enabled]

/-- The tail of a list that the store supports is strictly increasing and holds enabled members of
the head. -/
theorem Supports.members (wf : s.WellFormed) (h : s.Supports site c head tail) :
    tail.Pairwise (compare · · = .lt) ∧ ∀ m ∈ tail, s.isMember head m = true := by
  obtain ⟨e, stored, _, _, sub⟩ := h
  have increasing : ((e.group.map (·.enabled)).getD []).Pairwise (compare · · = .lt) := by
    cases e.group with
    | none => exact .nil
    | some r => exact List.Pairwise.filter _ r.members.ordered_toList
  exact ⟨increasing.sublist sub, fun m hm => (isMember_iff wf stored).mpr (sub.mem hm)⟩

end Store

/-! ### Events that clear lists -/

/-- Whether an event clears the lists that an id heads: it is a change of that entity that the watch
asks for, or the deletion of its site. -/
def Event.clears (head : EntityId) : Event → Bool
  | .entityChanged change =>
    change.id == head && Watch.membership.covers (.entityChanged change)
  | .siteDeleted site => site == head.site

namespace Event

theorem clears_deleted (head : EntityId) : (deleted head .capability).clears head = true := by
  simp [clears, deleted, Interest.covers, Watch.membership]

theorem clears_siteDeleted (head : EntityId) : (siteDeleted head.site).clears head = true := by
  simp [clears]

/-- An update clears the lists of a capability entity if it wrote the name or the members. -/
theorem clears_updated_iff {fields : FieldSet} :
    (updated head .capability fields).clears head = true ↔
      Field.groupIds ∈ fields ∨ Field.groupDisabledIds ∈ fields ∨ Field.name ∈ fields := by
  simp [clears, updated, Interest.covers, Watch.membership]

end Event

namespace Store

/-- An edit that writes neither the name nor the members leaves what a list says in place. -/
theorem supports_of_follows {e : Entity} {d : Draft} (bears : e.BearsNameOf c)
    (follows : (Draft.ofEntity e).Follows d) (members : Field.groupIds ∉ d.changes)
    (disabled : Field.groupDisabledIds ∉ d.changes) (name : Field.name ∉ d.changes) :
    d.entity.BearsNameOf c ∧ d.entity.group = e.group := by
  have kinds : d.entity.kind = e.kind := congrArg (·.2.1) follows.identity
  have names : e.name = d.entity.name := follows.agrees .name rfl name
  refine ⟨⟨kinds.trans bears.1, names ▸ bears.2⟩, Eq.symm ?_⟩
  exact Entity.group_eq_of_agreesIn (follows.agrees .groupIds rfl members)
    (follows.agrees .groupDisabledIds rfl disabled)

/-- When the store moves, a capability entity keeps its name and its roster, or one of the events
clears the lists that it heads. -/
theorem bearsNameOf_of_moves {events : List Event} {keeps : Prop} (m : s.Moves s' events keeps)
    (kept : keeps) {e : Entity} (stored : s.entity? head = some e) (bears : e.BearsNameOf c) :
    (∃ e', s'.entity? head = some e' ∧ e'.BearsNameOf c ∧ e'.group = e.group) ∨
      ∃ event ∈ events, event.clears head = true := by
  obtain ⟨old, live, rfl⟩ := Option.map_eq_some_iff.mp stored
  have kind : old.entity.kind = .capability := bears.1
  -- the cases are what may have become of the head
  cases m.fate head with
  | kept same => exact Or.inl ⟨old.entity, by rw [entity?, same, live]; rfl, bears, rfl⟩
  | stored _ _ _ before _ _ => simp [live] at before
  | deleted gone before _ told =>
    obtain rfl : gone = old := Option.some_inj.mp (before.symm.trans live)
    exact Or.inr ⟨_, told, kind ▸ Event.clears_deleted head⟩
  | dropped _ told => exact Or.inr ⟨_, told, Event.clears_siteDeleted head⟩
  | edited old' d before after identity told follows =>
    obtain rfl : old' = old := Option.some_inj.mp (before.symm.trans live)
    by_cases clears : (Event.updated head .capability d.changes).clears head = true
    · -- a field was written, so the event was told
      refine Or.inr ⟨_, kind ▸ told ?_, clears⟩
      rcases Event.clears_updated_iff.mp clears with written | written | written
      all_goals
        exact ExtTreeSet.isEmpty_eq_false_iff.mpr (ExtTreeSet.ne_empty_of_mem written)
    · -- neither name nor members were written, so the new entity agrees with the old one
      simp only [Event.clears_updated_iff, not_or] at clears
      obtain ⟨members, disabled, name⟩ := clears
      obtain ⟨bears', group⟩ := supports_of_follows bears (follows kept) members disabled name
      exact Or.inl ⟨d.entity, by rw [entity?, after]; rfl, bears', group⟩

/-- When the store moves, a list stays right or one of the events clears it. -/
theorem Supports.of_moves {events : List Event} {keeps : Prop} (m : s.Moves s' events keeps)
    (kept : keeps) (h : s.Supports site c head tail) :
    s'.Supports site c head tail ∨ ∃ event ∈ events, event.clears head = true := by
  obtain ⟨e, stored, here, bears, sub⟩ := h
  rcases bearsNameOf_of_moves m kept stored bears with ⟨e', stored', bears', group⟩ | told
  · exact Or.inl ⟨e', stored', here, bears', group ▸ sub⟩
  · exact Or.inr told

end Store

end WorldAccess
