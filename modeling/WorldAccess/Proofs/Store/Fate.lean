import WorldAccess.Proofs.Entity.Tracking
import WorldAccess.Store.Snapshot

/-!
# What may become of a stored entity

Every operation on the store does one of few things to what is stored under an id: it leaves it
alone, stores an entity where there was none, deletes it, drops it with its site, or edits it in
place. Whatever it does it announces; an edit only as far as its changes are not taken away. Here
this is said once for each operation, and what holds of every store is derived from it.

## Main definitions

* `Store.Fate` — what may become of what is stored under an id, and what is announced of it
* `Store.Moves` — the fate of every id, and where retired entities come from
* `Store.WellFormed` — entities are stored under their own ids, and every id is valid

## Main results

* `Store.loadSites_keeps`, `Store.loadEntities_keeps` — the inductions over what is loaded
* `Store.moves_insert`, `moves_create`, `moves_delete`, `moves_deleteSite`, `moves_load`,
  `moves_edit` — every operation moves the store
* `Store.WellFormed.of_moves` — a store that is moved stays well-formed
* `Store.WellFormed.isValid_of_read?` — what a handle reads has a valid id
-/

namespace WorldAccess.Store

open Std

variable {s s' : Store} {events : List Event} {keeps : Prop} {id : EntityId}

/-- What may become of what is stored under an id when entities were stored as in `live` and are
stored as in `live'`, and what must be among the events. If the edits keep their changes, the new
entity follows the old one. -/
inductive Fate (live live' : ExtTreeMap EntityId Stored) (events : List Event) (keeps : Prop)
    (id : EntityId) : Prop where
  | kept (same : live'[id]? = live[id]?)
  | stored (c : Stored) (own : c.entity.id = id) (valid : id.isValid = true)
      (before : live[id]? = none) (after : live'[id]? = some c)
      (told : Event.created id c.entity.kind ∈ events)
  | deleted (c : Stored) (before : live[id]? = some c) (after : live'[id]? = none)
      (told : Event.deleted id c.entity.kind ∈ events)
  | dropped (after : live'[id]? = none) (told : Event.siteDeleted id.site ∈ events)
  | edited (c : Stored) (d : Draft) (before : live[id]? = some c)
      (after : live'[id]? = some ⟨c.serial, d.entity⟩)
      (identity : d.entity.identity = c.entity.identity)
      (told : d.changes.isEmpty = false → Event.updated id c.entity.kind d.changes ∈ events)
      (follows : keeps → (Draft.ofEntity c.entity).Follows d)

/-- Whether a stored entity is in the store, live or retired. -/
def Holds (s : Store) (c : Stored) : Prop :=
  c ∈ s.retired ∨ ∃ id : EntityId, s.live[id]? = some c

theorem holds_of_retired {c : Stored} (h : c ∈ s.retired) : s.Holds c := Or.inl h

theorem holds_of_live {c : Stored} (h : s.live[id]? = some c) : s.Holds c := Or.inr ⟨id, h⟩

/-- What an operation does: every id has a fate, and an entity that is retired afterwards was in the
store before, up to edits. -/
structure Moves (s s' : Store) (events : List Event) (keeps : Prop) : Prop where
  fate : ∀ id, Fate s.live s'.live events keeps id
  retired : ∀ c ∈ s'.retired, ∃ c₀, s.Holds c₀ ∧ c.entity.identity = c₀.entity.identity

/-! ### Each operation -/

/-- Entities are as they were. -/
theorem moves_of_eq (live : s'.live = s.live) (retired : s'.retired = s.retired) :
    s.Moves s' events keeps where
  fate id := .kept (by rw [live])
  retired c hc := ⟨c, holds_of_retired (retired ▸ hc), rfl⟩

theorem moves_createSite (s : Store) (name : String) :
    s.Moves (s.createSite name).store (s.createSite name).events keeps :=
  moves_of_eq rfl rfl

theorem moves_registerSite (s : Store) (id : SiteId) (name : String) :
    s.Moves (s.registerSite id name).store (s.registerSite id name).events keeps := by
  unfold registerSite
  split
  · exact moves_of_eq rfl rfl
  · exact moves_of_eq rfl rfl

/-- What an operation does to an id that only stores entities under free ids. -/
def Gains (live live' : ExtTreeMap EntityId Stored) (events : List Event) (id : EntityId) : Prop :=
  live'[id]? = live[id]? ∨
    ∃ c, c.entity.id = id ∧ id.isValid = true ∧ live[id]? = none ∧ live'[id]? = some c ∧
      Event.created id c.entity.kind ∈ events

theorem Gains.fate {live live' : ExtTreeMap EntityId Stored} (h : Gains live live' events id) :
    Fate live live' events keeps id := by
  rcases h with same | ⟨c, own, valid, before, after, told⟩
  · exact .kept same
  · exact .stored c own valid before after told

/-- Storing an entity concerns only its own id, which must be free. -/
theorem gains_insert (s : Store) (e : Entity) (id : EntityId) :
    Gains s.live (s.insert e).store.live (s.insert e).events id := by
  unfold insert
  split
  · exact Or.inl rfl
  next valid =>
    split
    · exact Or.inl rfl
    next site hsite =>
      dsimp only
      split
      · exact Or.inl rfl
      next free =>
        by_cases h : e.id = id
        · -- the id was free, so nothing was stored under it
          subst h
          refine Or.inr ⟨⟨s.nextSerial, e⟩, rfl, by simpa using valid, ?_, by simp, by simp⟩
          exact ExtTreeMap.getElem?_eq_none (by simpa using free)
        · exact Or.inl (by simp [ExtTreeMap.getElem?_insert, h])

theorem retired_insert (s : Store) (e : Entity) : (s.insert e).store.retired = s.retired := by
  unfold insert
  split
  · rfl
  · split
    · rfl
    · dsimp only
      split <;> rfl

theorem moves_insert (s : Store) (e : Entity) :
    s.Moves (s.insert e).store (s.insert e).events keeps where
  fate id := (gains_insert s e id).fate
  retired c hc := ⟨c, holds_of_retired (retired_insert s e ▸ hc), rfl⟩

theorem moves_create (s : Store) (now : Timestamp) (site : SiteId) (kind : Kind) (name : String)
    (owner : EntityId) :
    s.Moves (s.create now site kind name owner).store (s.create now site kind name owner).events
      keeps := by
  unfold create
  split
  · exact moves_of_eq rfl rfl
  next record _ =>
    -- the number is reserved in the site first, which concerns no entity
    let number := max record.nextNumber 1
    let sites := s.sites.insert site { record with nextNumber := number + 1 }
    obtain ⟨fate, retired⟩ : ({ s with sites } : Store).Moves _ _ keeps :=
      moves_insert { s with sites } (Entity.fresh now ⟨site, number⟩ kind name owner)
    exact ⟨fate, retired⟩

/-- Deleting concerns only the deleted id, and retires what was stored under it. -/
theorem moves_delete (s : Store) (id : EntityId) :
    s.Moves (s.delete id).store (s.delete id).events keeps := by
  unfold delete
  split
  · exact moves_of_eq rfl rfl
  next c hc =>
    refine ⟨fun other => ?_, fun old hold => ?_⟩
    · by_cases h : id = other
      · subst h
        exact .deleted c hc (by simp) (by simp)
      · exact .kept (by simp [ExtTreeMap.getElem?_erase, h])
    · rcases List.mem_append.mp hold with hold | hold
      · exact ⟨old, holds_of_retired hold, rfl⟩
      · rw [List.mem_singleton.mp hold]
        exact ⟨c, holds_of_live hc, rfl⟩

/-- Deleting a site concerns only the ids in it, and retires what was stored under them. -/
theorem moves_deleteSite (s : Store) (site : SiteId) :
    s.Moves (s.deleteSite site).store (s.deleteSite site).events keeps := by
  unfold deleteSite
  split
  · refine ⟨fun id => ?_, fun c hc => ?_⟩
    · by_cases h : id.site = site
      · subst h
        exact .dropped (by simp) (by simp)
      · -- ids of other sites pass the filter
        have same : (id.site != site) = true := by simpa using h
        exact .kept (by cases hc : s.live[id]? <;> simp [hc, same, Option.filter])
    · rcases List.mem_append.mp hc with hc | hc
      · exact ⟨c, holds_of_retired hc, rfl⟩
      · obtain ⟨⟨id, c'⟩, hmem, rfl⟩ := List.mem_map.mp hc
        have live := (List.mem_filter.mp hmem).1
        exact ⟨c', holds_of_live (ExtTreeMap.mem_toList_iff_getElem?_eq_some.mp live), rfl⟩
  · exact moves_of_eq rfl rfl

/-- What the registration of one site keeps to, the registration of several keeps to. -/
theorem loadSites_keeps {R : Store → Store → Prop} (refl : ∀ s, R s s)
    (trans : ∀ {s s' s''}, R s s' → R s' s'' → R s s'')
    (step : ∀ (s : Store) id name, R s (s.registerSite id name).store) (s : Store)
    (records : List SiteRecord) : R s (s.loadSites records) := by
  induction records generalizing s with
  | nil => exact refl s
  | cons r rest ih => exact trans (step s r.id r.name) (ih _)

/-- What the storing of each entity keeps to, the loading of all of them keeps to, also where it
ends at a failure. -/
theorem loadEntities_keeps {R : Store → Store → List Event → Prop} (refl : ∀ s, R s s [])
    (trans : ∀ {s s' s'' events events'},
      R s s' events → R s' s'' events' → R s s'' (events ++ events'))
    {entities : List Entity}
    (step : ∀ s, ∀ e ∈ entities, R s (s.insert e).store (s.insert e).events) (s : Store) :
    R s (s.loadEntities entities).store (s.loadEntities entities).events := by
  induction entities generalizing s with
  | nil => exact refl s
  | cons e rest ih =>
    have first := step s e List.mem_cons_self
    have others := ih fun s e among => step s e (List.mem_cons_of_mem _ among)
    unfold loadEntities
    split
    · dsimp only
      split
      · exact first
      · exact trans first (others _)
    · exact others s

/-- Registering the sites of a snapshot concerns no entity. -/
theorem loadSites_eq (s : Store) (records : List SiteRecord) :
    (s.loadSites records).live = s.live ∧ (s.loadSites records).retired = s.retired := by
  refine loadSites_keeps (R := fun s s' => s'.live = s.live ∧ s'.retired = s.retired)
    (fun _ => ⟨rfl, rfl⟩) (fun h h' => ⟨h'.1.trans h.1, h'.2.trans h.2⟩) (fun s id name => ?_)
    s records
  unfold registerSite
  split <;> exact ⟨rfl, rfl⟩

/-- An id that one entity takes is not free for the next. -/
theorem Gains.trans {live live' live'' : ExtTreeMap EntityId Stored} {events' : List Event}
    (h : Gains live live' events id) (h' : Gains live' live'' events' id) :
    Gains live live'' (events ++ events') id := by
  rcases h with same | ⟨c, own, valid, before, after, told⟩
  · rcases h' with later | ⟨c, own, valid, before, after, told⟩
    · exact Or.inl (later.trans same)
    · exact Or.inr ⟨c, own, valid, same ▸ before, after, List.mem_append_right _ told⟩
  · rcases h' with later | ⟨_, _, _, taken, _, _⟩
    · exact Or.inr ⟨c, own, valid, before, later.trans after, List.mem_append_left _ told⟩
    · rw [after] at taken
      cases taken

theorem gains_loadEntities (s : Store) (entities : List Entity) (id : EntityId) :
    Gains s.live (s.loadEntities entities).store.live (s.loadEntities entities).events id :=
  loadEntities_keeps (R := fun s s' events => Gains s.live s'.live events id)
    (fun _ => Or.inl rfl) Gains.trans (fun s e _ => gains_insert s e id) s

theorem retired_loadEntities (s : Store) (entities : List Entity) :
    (s.loadEntities entities).store.retired = s.retired :=
  loadEntities_keeps (R := fun s s' _ => s'.retired = s.retired)
    (fun _ => rfl) (fun h h' => h'.trans h) (fun s e _ => retired_insert s e) s

theorem moves_load (s : Store) (snapshot : Snapshot) :
    s.Moves (s.load snapshot).store (s.load snapshot).events keeps := by
  obtain ⟨live, retired⟩ := loadSites_eq s snapshot.sites
  refine ⟨fun id => ?_, fun c hc => ⟨c, holds_of_retired ?_, rfl⟩⟩
  · rw [← live]
    exact (gains_loadEntities _ _ id).fate
  · rw [← retired, ← retired_loadEntities (s.loadSites snapshot.sites) snapshot.entities]
    exact hc

/-- What a handle reads is in the store. -/
theorem holds_of_read? {h : Handle} {e : Entity} (hr : s.read? h = some e) :
    ∃ c, s.Holds c ∧ c.entity = e := by
  have retired : s.retired? h.serial = some e → ∃ c, s.Holds c ∧ c.entity = e := by
    intro hr
    obtain ⟨c, hc, rfl⟩ := Option.map_eq_some_iff.mp hr
    exact ⟨c, holds_of_retired (List.mem_of_find?_eq_some hc), rfl⟩
  unfold read? at hr
  split at hr
  next c hc =>
    split at hr
    · exact ⟨c, holds_of_live hc, Option.some_inj.mp hr⟩
    · exact retired hr
  next => exact retired hr

/-- Putting an entity back concerns what its handle names: the live entity of that serial number, or
a retired one. -/
theorem moves_edit (s : Store) (now : Timestamp) (h : Handle) (steps : List Draft.Step) :
    s.Moves (s.edit now h steps).store (s.edit now h steps).events (.takeChanges ∉ steps) := by
  unfold edit
  split
  · exact moves_of_eq rfl rfl
  next e he =>
    dsimp only
    have identity := Draft.identity_run (Draft.ofEntity e) now steps
    have follows : .takeChanges ∉ steps →
        (Draft.ofEntity e).Follows ((Draft.ofEntity e).run now steps).1 :=
      Draft.run_follows (Draft.ofEntity e) now
    generalize ((Draft.ofEntity e).run now steps).1 = d at identity follows ⊢
    unfold write
    split
    next isLive =>
      -- the handle names what is stored now, so that is what was read
      obtain ⟨c, hc, serial⟩ := (Option.any_eq_true _ _).mp isLive
      have serial : c.serial = h.serial := by simpa using serial
      have found : c.entity = e := by simpa [read?, hc, serial] using he
      subst found
      refine ⟨fun id => ?_, fun old hold => ⟨old, holds_of_retired hold, rfl⟩⟩
      by_cases own : h.id = id
      · subst own
        refine .edited c d hc (by simp [serial]) identity (fun changed => ?_) follows
        simp [changed]
      · exact .kept (by simp [ExtTreeMap.getElem?_insert, own])
    next notLive =>
      -- the handle names a retired entity, and what is stored now is left alone
      refine ⟨fun id => .kept rfl, fun c hc => ?_⟩
      obtain ⟨c₀, hc₀, rfl⟩ := List.mem_map.mp hc
      split
      · obtain ⟨old, hold, rfl⟩ := holds_of_read? he
        exact ⟨old, hold, identity⟩
      · exact ⟨c₀, holds_of_retired hc₀, rfl⟩

/-! ### Well-formed stores -/

/-- Entities are stored under their own ids, and every id, also of a retired entity, is valid. -/
structure WellFormed (s : Store) : Prop where
  own : ∀ (id : EntityId) (c : Stored), s.live[id]? = some c → c.entity.id = id
  valid : ∀ c, s.Holds c → c.entity.id.isValid = true

theorem wellFormed_empty : WellFormed empty where
  own id c h := by simp [empty] at h
  valid c h := by
    rcases h with h | ⟨id, h⟩
    · simp [empty] at h
    · simp [empty] at h

theorem id_eq_of_identity {a b : Entity} (h : a.identity = b.identity) : a.id = b.id := by
  injection h

/-- What an operation leaves under an id was there before, up to an edit, or is new and in order. -/
theorem Fate.before {live live' : ExtTreeMap EntityId Stored} {c : Stored}
    (h : Fate live live' events keeps id) (hc : live'[id]? = some c) :
    (∃ c₀ : Stored, live[id]? = some c₀ ∧ c.entity.identity = c₀.entity.identity) ∨
      (c.entity.id = id ∧ id.isValid = true) := by
  cases h with
  | kept same => exact Or.inl ⟨c, same ▸ hc, rfl⟩
  | stored c' own valid _ after _ =>
    obtain rfl : c' = c := Option.some_inj.mp (after.symm.trans hc)
    exact Or.inr ⟨own, valid⟩
  | deleted _ _ after _ => simp [after] at hc
  | dropped after _ => simp [after] at hc
  | edited c₀ d before after identity _ _ =>
    obtain rfl : _ = c := Option.some_inj.mp (after.symm.trans hc)
    exact Or.inl ⟨c₀, before, identity⟩

theorem WellFormed.of_moves (wf : s.WellFormed) (m : s.Moves s' events keeps) :
    s'.WellFormed := by
  have own : ∀ (id : EntityId) (c : Stored), s'.live[id]? = some c → c.entity.id = id := by
    intro id c hc
    rcases (m.fate id).before hc with ⟨c₀, hc₀, same⟩ | ⟨own, _⟩
    · exact (id_eq_of_identity same).trans (wf.own id c₀ hc₀)
    · exact own
  refine ⟨own, fun c hc => ?_⟩
  rcases hc with hc | ⟨id, hc⟩
  · obtain ⟨c₀, hc₀, same⟩ := m.retired c hc
    rw [id_eq_of_identity same]
    exact wf.valid c₀ hc₀
  · rcases (m.fate id).before hc with ⟨c₀, hc₀, same⟩ | ⟨own, valid⟩
    · rw [id_eq_of_identity same]
      exact wf.valid c₀ (holds_of_live hc₀)
    · rw [own]
      exact valid

theorem WellFormed.isValid_of_read? (wf : s.WellFormed) {h : Handle} {e : Entity}
    (he : s.read? h = some e) : e.id.isValid = true := by
  obtain ⟨c, hc, rfl⟩ := holds_of_read? he
  exact wf.valid c hc

end WorldAccess.Store
