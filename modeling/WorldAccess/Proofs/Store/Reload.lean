import WorldAccess.Proofs.Engine.Backing
import WorldAccess.Proofs.Store.Numbering

/-!
# A store that is saved and loaded again

The snapshot of a store can be loaded into an empty one: its sites are all new there, and its
entities lie in them under ids that differ. What comes out has the same sites by the same names and
the same entities. It need not have the same counters. A site that is loaded begins to count anew
and goes on from the highest number that is loaded, whatever next number was saved with it. So a
number that was given out to an entity since deleted may be given out again.

## Main definitions

* `Store.SameRecords` — stores with the same sites and entities
* `Store.Storable` — entities that can be stored one after the other

## Main results

* `Store.getElem?_loadSites`, `Store.loadEntities_of_storable` — what loading does to each id
* `Store.result_load_snapshot`, `Store.sameRecords_load_snapshot` — nothing is lost
* `World.create_load_snapshot_iff` — when a store and its copy go on with the same number
* `World.lastDeleted_reissued` — they need not
-/

namespace WorldAccess

open Std

namespace Store

variable {s : Store} {site : Site}

/-- Whether two stores have the same sites by the same names, and the same entities. -/
structure SameRecords (s s' : Store) : Prop where
  names : ∀ id : SiteId, s'.sites[id]?.map (·.name) = s.sites[id]?.map (·.name)
  entities : ∀ id, s'.entity? id = s.entity? id

/-! ### Sites -/

/-- A site is registered under a number that is free and not zero. -/
theorem getElem?_registerSite (s : Store) (id : SiteId) (name : String) (k : SiteId) :
    (s.registerSite id name).store.sites[k]? =
      s.sites[k]?.or (if id = k ∧ k ≠ 0 then some { name } else none) := by
  unfold registerSite
  split
  next refused =>
    by_cases same : id = k
    · subst same
      rcases refused with zero | taken
      · rw [if_neg fun given => given.2 zero, Option.or_none]
      · obtain ⟨site, found⟩ := Option.isSome_iff_exists.mp
          (ExtTreeMap.isSome_getElem?_eq_contains.trans taken)
        rw [found, Option.some_or]
    · rw [if_neg fun given => same given.1, Option.or_none]
  next free =>
    obtain ⟨ne, unknown⟩ := not_or.mp free
    rw [getElem?_insert_site]
    by_cases same : id = k
    · subst same
      have none : s.sites[id]? = none :=
        ExtTreeMap.getElem?_eq_none (by simpa [hasSite] using unknown)
      rw [if_pos rfl, if_pos ⟨rfl, ne⟩, none, Option.none_or]
    · rw [if_neg same, if_neg fun given => same given.1, Option.or_none]

/-- Of several records of a site the first counts. -/
theorem getElem?_loadSites (s : Store) (records : List SiteRecord) (k : SiteId) :
    (s.loadSites records).sites[k]? =
      s.sites[k]?.or
        ((records.find? fun r => r.id == k && k != 0).map fun r => { name := r.name }) := by
  induction records generalizing s with
  | nil => rw [List.find?_nil, Option.map_none, Option.or_none]; rfl
  | cons r rest ih =>
    have later := ih (s.registerSite r.id r.name).store
    rw [getElem?_registerSite, Option.or_assoc] at later
    refine later.trans ?_
    congr 1
    by_cases hit : r.id = k ∧ k ≠ 0
    · rw [if_pos hit, List.find?_cons_of_pos (by simpa using hit)]
      rfl
    · rw [if_neg hit, List.find?_cons_of_neg (by simpa using hit), Option.none_or]

/-- Every site of a store is found in its snapshot. -/
theorem find?_snapshot_sites (housed : s.Housed) (k : SiteId) :
    ((s.snapshot.sites.find? fun r => r.id == k && k != 0).map (·.name)) =
      s.sites[k]?.map (·.name) := by
  -- every record is that of a site which stands, so that the first one found is the right one
  have among : ∀ r ∈ s.snapshot.sites,
      ∃ site, s.sites[r.id]? = some site ∧ r.name = site.name := by
    intro r hr
    obtain ⟨⟨id, site⟩, listed, rfl⟩ := List.mem_map.mp hr
    exact ⟨site, ExtTreeMap.mem_toList_iff_getElem?_eq_some.mp listed, rfl⟩
  cases found : s.snapshot.sites.find? fun r => r.id == k && k != 0 with
  | some r =>
    obtain ⟨site, stands, name⟩ := among r (List.mem_of_find?_eq_some found)
    have hit := List.find?_some found
    obtain ⟨rfl, _⟩ : r.id = k ∧ k ≠ 0 := by simpa using hit
    rw [stands, Option.map_some, Option.map_some, name]
  | none =>
    cases stands : s.sites[k]? with
    | none => rfl
    | some site =>
      have listed : (⟨k, site.name, site.nextNumber⟩ : SiteRecord) ∈ s.snapshot.sites :=
        List.mem_map.mpr ⟨(k, site), ExtTreeMap.mem_toList_iff_getElem?_eq_some.mpr stands, rfl⟩
      have miss := List.find?_eq_none.mp found _ listed
      simp [housed.ne_zero stands] at miss

/-- The sites of a snapshot are registered in an empty store, and begin to count anew. -/
theorem getElem?_loadSites_snapshot (housed : s.Housed) (k : SiteId) :
    (empty.loadSites s.snapshot.sites).sites[k]? =
      s.sites[k]?.map fun site => { name := site.name } := by
  have names := congrArg (Option.map fun name : String => ({ name } : Site))
    (find?_snapshot_sites housed k)
  rw [Option.map_map, Option.map_map] at names
  rw [getElem?_loadSites]
  exact (Option.none_or ..).trans names

/-! ### Entities -/

/-- Reserves numbers in a site one after the other. -/
def Site.reserveAll (site : Site) (numbers : List UInt64) : Site := numbers.foldl Site.reserve site

theorem Site.name_reserveAll (site : Site) (numbers : List UInt64) :
    (Site.reserveAll site numbers).name = site.name := by
  induction numbers generalizing site with
  | nil => rfl
  | cons n rest ih =>
    refine (ih (Site.reserve site n)).trans ?_
    unfold Site.reserve
    split <;> rfl

/-- After numbers have been reserved, the next number lies above them all, and only just. -/
theorem Site.nextNumber_reserveAll (site : Site) (numbers : List UInt64)
    (within : ∀ n ∈ numbers, n.toNat < Text.max64) :
    site.nextNumber ≤ (Site.reserveAll site numbers).nextNumber ∧
      (∀ n ∈ numbers, n < (Site.reserveAll site numbers).nextNumber) ∧
      ((Site.reserveAll site numbers).nextNumber = site.nextNumber ∨
        ∃ n ∈ numbers, (Site.reserveAll site numbers).nextNumber = n + 1) := by
  induction numbers generalizing site with
  | nil => exact ⟨UInt64.le_refl _, fun n none => absurd none List.not_mem_nil, Or.inl rfl⟩
  | cons n rest ih =>
    obtain ⟨first, later⟩ := List.forall_mem_cons.mp within
    obtain ⟨higher, above⟩ := Site.reserve_spec site first
    obtain ⟨grows, beyond, tight⟩ := ih (Site.reserve site n) later
    refine ⟨UInt64.le_trans higher grows, List.forall_mem_cons.mpr ⟨?_, beyond⟩, ?_⟩
    · exact UInt64.lt_of_lt_of_le above grows
    · rcases tight with same | ⟨m, among, last⟩
      · -- no later number has raised the counter, so the first one has, or none
        by_cases low : site.nextNumber ≤ n
        · refine Or.inr ⟨n, List.mem_cons_self, same.trans ?_⟩
          rw [Site.reserve, if_pos low]
        · refine Or.inl (same.trans ?_)
          rw [Site.reserve, if_neg low]
      · exact Or.inr ⟨m, List.mem_cons_of_mem n among, last⟩

/-- The numbers that entities have in a site. -/
def numbersIn (k : SiteId) (entities : List Entity) : List UInt64 :=
  (entities.filter (·.id.site == k)).map (·.id.number)

/-- Whether entities can be stored one after the other: their sites are registered, their ids are
valid and free, and no two are the same. -/
structure Storable (s : Store) (entities : List Entity) : Prop where
  registered : ∀ e ∈ entities, s.hasSite e.id.site = true
  valid : ∀ e ∈ entities, e.id.isValid = true
  free : ∀ e ∈ entities, e.id ∉ s.live
  distinct : entities.Pairwise fun a b => a.id ≠ b.id

/-- What storing an entity under a free id does. -/
theorem insert_of_free {e : Entity} (stands : s.sites[e.id.site]? = some site)
    (valid : e.id.isValid = true) (free : e.id ∉ s.live) :
    (s.insert e).result = .ok ⟨e.id, s.nextSerial⟩ ∧
      (s.insert e).store.live = s.live.insert e.id ⟨s.nextSerial, e⟩ ∧
      (s.insert e).store.sites = s.sites.insert e.id.site (Site.reserve site e.id.number) := by
  simp [insert, valid, stands, free]

/-- Storing the first of several entities leaves the others storable. -/
theorem Storable.tail {e : Entity} {rest : List Entity} (h : s.Storable (e :: rest))
    (stands : s.sites[e.id.site]? = some site) : (s.insert e).store.Storable rest := by
  obtain ⟨_, live, sites⟩ := insert_of_free stands (h.valid e List.mem_cons_self)
    (h.free e List.mem_cons_self)
  obtain ⟨apart, distinct⟩ := List.pairwise_cons.mp h.distinct
  refine ⟨fun other among => ?_, fun other among => ?_, fun other among => ?_, distinct⟩
  · have before := h.registered other (List.mem_cons_of_mem e among)
    rw [hasSite, sites, ExtTreeMap.contains_insert, ← hasSite, before, Bool.or_true]
  · exact h.valid other (List.mem_cons_of_mem e among)
  · rw [live, ExtTreeMap.mem_insert, Std.compare_eq_iff_eq]
    rintro (same | taken)
    · exact apart other among same
    · exact h.free other (List.mem_cons_of_mem e among) taken

/-- Once the first entity is stored, the others are loaded. -/
theorem loadEntities_cons_of_ok {e : Entity} {rest : List Entity} {h : Handle}
    (registered : s.hasSite e.id.site = true) (stored : (s.insert e).result = .ok h) :
    s.loadEntities (e :: rest) =
      { store := ((s.insert e).store.loadEntities rest).store
        events := (s.insert e).events ++ ((s.insert e).store.loadEntities rest).events
        result := ((s.insert e).store.loadEntities rest).result.map (· + 1) } := by
  rw [loadEntities, if_pos registered]
  dsimp only
  rw [stored]

/-- Entities that can be stored one after the other are all stored, and their numbers reserved. -/
theorem loadEntities_of_storable {entities : List Entity} (h : s.Storable entities) :
    (s.loadEntities entities).result = .ok entities.length ∧
      (∀ id, (s.loadEntities entities).store.entity? id =
        (s.entity? id).or (entities.find? (·.id == id))) ∧
      ∀ k : SiteId, (s.loadEntities entities).store.sites[k]? =
        s.sites[k]?.map fun site => Site.reserveAll site (numbersIn k entities) := by
  -- the store changes with every entity; what is left can still be stored in the one after
  induction entities generalizing s with
  | nil =>
    refine ⟨rfl, fun id => ?_, fun k => ?_⟩
    · exact (Option.or_none ..).symm
    · exact (Option.map_id_fun' ▸ rfl : s.sites[k]? = s.sites[k]?.map fun site => site)
  | cons e rest ih =>
    have registered := h.registered e List.mem_cons_self
    obtain ⟨site, stands⟩ := Option.isSome_iff_exists.mp
      (ExtTreeMap.isSome_getElem?_eq_contains.trans registered)
    obtain ⟨stored, live, sites⟩ := insert_of_free stands (h.valid e List.mem_cons_self)
      (h.free e List.mem_cons_self)
    obtain ⟨count, entities, counters⟩ := ih (h.tail stands)
    rw [loadEntities_cons_of_ok registered stored]
    refine ⟨?_, fun id => ?_, fun k => ?_⟩
    · dsimp only
      rw [count]
      rfl
    · refine (entities id).trans ?_
      rw [entity?, live, ExtTreeMap.getElem?_insert]
      by_cases same : e.id = id
      · -- nothing was stored under the id before
        subst same
        have none : s.entity? e.id = none := by
          rw [entity?, ExtTreeMap.getElem?_eq_none (h.free e List.mem_cons_self), Option.map_none]
        rw [List.find?_cons_of_pos (by simp), none]
        simp
      · rw [List.find?_cons_of_neg (by simpa using same)]
        simp [same, entity?]
    · -- the entity reserves its number in its own site and in no other
      refine (counters k).trans ?_
      rw [sites, getElem?_insert_site]
      by_cases same : e.id.site = k
      · subst same
        rw [if_pos rfl, stands, Option.map_some, Option.map_some, numbersIn, numbersIn,
          List.filter_cons_of_pos (by simp)]
        rfl
      · rw [if_neg same, numbersIn, numbersIn, List.filter_cons_of_neg (by simpa using same)]

/-! ### Snapshots -/

theorem WellFormed.isValid_of_mem (wf : s.WellFormed) {id : EntityId} (stored : id ∈ s.live) :
    id.isValid = true := by
  obtain ⟨c, live⟩ := Option.isSome_iff_exists.mp (ExtTreeMap.mem_iff_isSome_getElem?.mp stored)
  rw [← wf.own id c live]
  exact wf.valid c (holds_of_live live)

/-- The entities of a snapshot are those of the store. -/
theorem mem_snapshot_entities (wf : s.WellFormed) {e : Entity} :
    e ∈ s.snapshot.entities ↔ s.entity? e.id = some e := by
  simp only [snapshot, List.mem_map, Prod.exists, ExtTreeMap.mem_toList_iff_getElem?_eq_some]
  constructor
  · rintro ⟨id, c, stored, rfl⟩
    rw [entity?, wf.own id c stored, stored, Option.map_some]
  · intro stored
    obtain ⟨c, live, rfl⟩ := Option.map_eq_some_iff.mp stored
    exact ⟨_, c, live, rfl⟩

/-- The entities of a snapshot have different ids. -/
theorem distinct_snapshot (wf : s.WellFormed) :
    s.snapshot.entities.Pairwise fun a b => a.id ≠ b.id := by
  rw [snapshot, List.pairwise_map]
  apply List.Pairwise.imp_of_mem _ s.live.distinct_keys_toList
  intro a b ha hb apart same
  have ha' : a.2.entity.id = a.1 := wf.own _ _ (ExtTreeMap.mem_toList_iff_getElem?_eq_some.mp ha)
  have hb' : b.2.entity.id = b.1 := wf.own _ _ (ExtTreeMap.mem_toList_iff_getElem?_eq_some.mp hb)
  rw [ha', hb'] at same
  exact apart (Std.compare_eq_iff_eq.mpr same)

/-- The entities of a store can be stored once its sites are there. -/
theorem storable_snapshot (wf : s.WellFormed) (housed : s.Housed) :
    (empty.loadSites s.snapshot.sites).Storable s.snapshot.entities := by
  have stored : ∀ e ∈ s.snapshot.entities, ∃ c, s.live[e.id]? = some c ∧ c.entity = e :=
    fun e among => Option.map_eq_some_iff.mp ((mem_snapshot_entities wf).mp among)
  refine ⟨fun e among => ?_, fun e among => ?_, fun e _ => ?_, distinct_snapshot wf⟩
  · obtain ⟨c, live, _⟩ := stored e among
    have stands := housed.registered e.id
      (ExtTreeMap.mem_iff_isSome_getElem?.mpr (by rw [live]; rfl))
    rw [hasSite, ← ExtTreeMap.isSome_getElem?_eq_contains, getElem?_loadSites_snapshot housed,
      Option.isSome_map]
    exact ExtTreeMap.mem_iff_isSome_getElem?.mp stands
  · obtain ⟨c, live, rfl⟩ := stored e among
    exact wf.valid c (holds_of_live live)
  · rw [(loadSites_eq empty s.snapshot.sites).1]
    exact ExtTreeMap.not_mem_empty

/-- Loading the snapshot of a store stores as many entities as there were. -/
theorem result_load_snapshot (wf : s.WellFormed) (housed : s.Housed) :
    (empty.load s.snapshot).result = .ok s.size := by
  rw [load, (loadEntities_of_storable (storable_snapshot wf housed)).1, snapshot, List.length_map,
    ExtTreeMap.length_toList, size]

theorem getElem?_load_snapshot (wf : s.WellFormed) (housed : s.Housed) (k : SiteId) :
    (empty.load s.snapshot).store.sites[k]? = s.sites[k]?.map fun site =>
      Site.reserveAll { name := site.name } (numbersIn k s.snapshot.entities) := by
  rw [load, (loadEntities_of_storable (storable_snapshot wf housed)).2.2,
    getElem?_loadSites_snapshot housed, Option.map_map]
  rfl

/-- A store and its copy have the same records. -/
theorem sameRecords_load_snapshot (wf : s.WellFormed) (housed : s.Housed) :
    s.SameRecords (empty.load s.snapshot).store where
  names k := by
    rw [getElem?_load_snapshot wf housed, Option.map_map]
    congr 1
    funext site
    exact Site.name_reserveAll _ _
  entities id := by
    rw [load, (loadEntities_of_storable (storable_snapshot wf housed)).2.1]
    -- the sites come first, and bring no entity with them
    have none : (empty.loadSites s.snapshot.sites).entity? id = none := by
      rw [entity?, (loadSites_eq empty s.snapshot.sites).1]
      simp [empty]
    rw [none, Option.none_or]
    cases found : s.snapshot.entities.find? (·.id == id) with
    | some e =>
      have among := (mem_snapshot_entities wf).mp (List.mem_of_find?_eq_some found)
      have own : e.id = id := by simpa using List.find?_some found
      rw [← own, among]
    | none =>
      cases stored : s.entity? id with
      | none => rfl
      | some e =>
        have own := wf.id_of_entity? stored
        have miss := List.find?_eq_none.mp found e
          ((mem_snapshot_entities wf).mpr (own.symm ▸ stored))
        simp [own] at miss

theorem mem_numbersIn_snapshot (wf : s.WellFormed) {k : SiteId} {number : UInt64} :
    number ∈ numbersIn k s.snapshot.entities ↔ (⟨k, number⟩ : EntityId) ∈ s.live := by
  rw [ExtTreeMap.mem_iff_isSome_getElem?, numbersIn, List.mem_map]
  constructor
  · rintro ⟨e, listed, rfl⟩
    obtain ⟨among, here⟩ := List.mem_filter.mp listed
    obtain ⟨c, live, _⟩ := Option.map_eq_some_iff.mp ((mem_snapshot_entities wf).mp among)
    have own : e.id = ⟨k, e.id.number⟩ := by rw [← beq_iff_eq.mp here]
    rw [← own, live]
    rfl
  · intro taken
    obtain ⟨c, live⟩ := Option.isSome_iff_exists.mp taken
    have own := wf.own _ c live
    refine ⟨c.entity, List.mem_filter.mpr ⟨?_, by simp [own]⟩, by rw [own]⟩
    exact (mem_snapshot_entities wf).mpr (by rw [own, entity?, live]; rfl)

/-- In a copy a site goes on from the highest number that is stored in it, or begins anew. -/
theorem nextNumber_load_snapshot (wf : s.WellFormed) (numbered : s.Numbered) {k : SiteId}
    (stands : s.sites[k]? = some site) :
    ∃ copy, (empty.load s.snapshot).store.sites[k]? = some copy ∧
      (∀ number, (⟨k, number⟩ : EntityId) ∈ s.live → number < copy.nextNumber) ∧
      (copy.nextNumber = 1 ∨
        ∃ number, (⟨k, number⟩ : EntityId) ∈ s.live ∧ copy.nextNumber = number + 1) := by
  have below : ∀ number ∈ numbersIn k s.snapshot.entities, number < site.nextNumber := by
    intro number among
    exact numbered.below _ ((mem_numbersIn_snapshot wf).mp among) site stands
  obtain ⟨_, above, tight⟩ := Site.nextNumber_reserveAll { name := site.name }
    (numbersIn k s.snapshot.entities) fun number among => toNat_lt_of_lt (below number among)
  refine ⟨_, by rw [getElem?_load_snapshot wf numbered.toHoused, stands]; rfl, ?_, ?_⟩
  · intro number stored
    exact above number ((mem_numbersIn_snapshot wf).mpr stored)
  · refine tight.imp id ?_
    rintro ⟨number, among, last⟩
    exact ⟨number, (mem_numbersIn_snapshot wf).mp among, last⟩

/-- A copy goes on with the same number as the store iff nothing has been given out yet or the
number before that is the number of an entity that is still stored. -/
theorem nextNumber_eq_iff (wf : s.WellFormed) (numbered : s.Numbered) {k : SiteId}
    (stands : s.sites[k]? = some site) {copy : Site}
    (loaded : (empty.load s.snapshot).store.sites[k]? = some copy) :
    copy.nextNumber ≤ site.nextNumber ∧
      (copy.nextNumber = site.nextNumber ↔
        site.nextNumber = 1 ∨ (⟨k, site.nextNumber - 1⟩ : EntityId) ∈ s.live) := by
  obtain ⟨_, found, above, tight⟩ := nextNumber_load_snapshot wf numbered stands
  obtain rfl := Option.some_inj.mp (loaded.symm.trans found)
  have below : ∀ number, (⟨k, number⟩ : EntityId) ∈ s.live →
      number.toNat ≠ 0 ∧ number < site.nextNumber := by
    intro number stored
    refine ⟨fun zero => ?_, numbered.below _ stored site stands⟩
    have valid := wf.isValid_of_mem stored
    rw [UInt64.toNat_inj.mp (zero.trans UInt64.toNat_zero.symm)] at valid
    simp [EntityId.isValid] at valid
  have positive : 1 ≤ site.nextNumber.toNat :=
    Nat.one_le_iff_ne_zero.mpr fun zero =>
      numbered.next_ne_zero k site stands (UInt64.toNat_inj.mp zero)
  have before : (site.nextNumber - 1).toNat = site.nextNumber.toNat - 1 :=
    UInt64.toNat_sub_of_le _ 1 (UInt64.le_iff_toNat_le.mpr positive)
  -- the copy has the number after one that is stored, unless it begins anew
  have atMost : copy.nextNumber.toNat = 1 ∨ ∃ number, (⟨k, number⟩ : EntityId) ∈ s.live ∧
      number.toNat ≠ 0 ∧ number.toNat < site.nextNumber.toNat ∧
        copy.nextNumber.toNat = number.toNat + 1 := by
    rcases tight with anew | ⟨number, stored, last⟩
    · exact Or.inl (congrArg UInt64.toNat anew)
    · obtain ⟨nonzero, low⟩ := below number stored
      refine Or.inr ⟨number, stored, nonzero, UInt64.lt_iff_toNat_lt.mp low, ?_⟩
      rw [last, toNat_next (toNat_lt_of_lt low)]
  refine ⟨?_, ?_, ?_⟩
  · rw [UInt64.le_iff_toNat_le]
    rcases atMost with anew | ⟨number, _, _, low, last⟩ <;> omega
  · intro same
    rcases atMost with anew | ⟨number, stored, _, _, last⟩
    · exact Or.inl (UInt64.toNat_inj.mp ((congrArg UInt64.toNat same).symm.trans anew))
    · have number_eq : site.nextNumber - 1 = number := by
        apply UInt64.toNat_inj.mp
        rw [before, ← same]
        omega
      exact Or.inr (number_eq ▸ stored)
  · intro reached
    apply UInt64.toNat_inj.mp
    rcases reached with one | stored
    · have one := congrArg UInt64.toNat one
      rw [UInt64.toNat_one] at one
      rcases atMost with anew | ⟨number, _, nonzero, low, _⟩ <;> omega
    · have beyond := UInt64.lt_iff_toNat_lt.mp (above _ stored)
      rcases atMost with anew | ⟨number, _, _, low, last⟩ <;> omega

end Store

namespace World

variable {commands : List Command} {config : Config} {extras : List (Operation × Checker)}
  {withBus : Bool} {site : SiteId}

/-- When a store and its copy go on with the same number. Take any run in which no counter runs past
its limit, and any registered site. An entity can be created in the site of the store, and in that
of an empty store into which the snapshot has been loaded. The copy never gives out the number of an
entity that is still stored, and never one above that of the store. It gives out the same number iff
that is the first one, or the number before it is that of an entity that is still stored. -/
theorem create_load_snapshot_iff
    (within : (start withBus config extras).isAllowedAlong Command.isWithinLimits commands = true)
    (registered : ((start withBus config extras).run commands).store.hasSite site = true)
    (now : Timestamp) (kind : Kind) (name : String) (owner : EntityId) :
    let s := ((start withBus config extras).run commands).store
    let copy := (Store.empty.load s.snapshot).store
    ∃ number number' : UInt64,
      (s.create now site kind name owner).id? = some ⟨site, number⟩ ∧
      (copy.create now site kind name owner).id? = some ⟨site, number'⟩ ∧
      number' ≤ number ∧ (∀ n, (⟨site, n⟩ : EntityId) ∈ s.live → n < number') ∧
      (number' = number ↔ number = 1 ∨ (⟨site, number - 1⟩ : EntityId) ∈ s.live) := by
  intro s copy
  have wf : s.WellFormed :=
    Reachable.wellFormed ⟨withBus, config, extras, commands, rfl⟩
  have numbered : s.Numbered := numbered_run Store.numbered_empty within
  obtain ⟨there, stands⟩ := Option.isSome_iff_exists.mp
    (ExtTreeMap.isSome_getElem?_eq_contains.trans registered)
  obtain ⟨there', loaded, above, _⟩ := Store.nextNumber_load_snapshot wf numbered stands
  obtain ⟨atMost, same⟩ := Store.nextNumber_eq_iff wf numbered stands loaded
  -- the numbers that are loaded lie below the counters of the store, and so below the limit
  have copied : copy.Numbered := by
    apply Store.numbered_empty.load
    intro e among
    obtain ⟨c, live, _⟩ := Option.map_eq_some_iff.mp ((Store.mem_snapshot_entities wf).mp among)
    have taken : e.id ∈ s.live := ExtTreeMap.mem_iff_isSome_getElem?.mpr (by rw [live]; rfl)
    obtain ⟨there, stands⟩ := Option.isSome_iff_exists.mp
      (ExtTreeMap.mem_iff_isSome_getElem?.mp (numbered.registered e.id taken))
    exact toNat_lt_of_lt (numbered.below e.id taken there stands)
  exact ⟨there.nextNumber, there'.nextNumber, numbered.id_create stands now kind name owner,
    copied.id_create loaded now kind name owner, atMost, above, same⟩

/-- A run in which two entities are created and the first is deleted. -/
def firstDeleted : List Command :=
  [.registerSite 2 "main", .create .epoch 2 .thing "lamp" .none,
    .create .epoch 2 .thing "rug" .none, .delete ⟨2, 1⟩]

/-- A run in which two entities are created and the last is deleted. -/
def lastDeleted : List Command :=
  [.registerSite 2 "main", .create .epoch 2 .thing "lamp" .none,
    .create .epoch 2 .thing "rug" .none, .delete ⟨2, 2⟩]

theorem create_load_snapshot_iff_firstDeleted :
    (start false {} []).isAllowedAlong Command.isWithinLimits firstDeleted = true ∧
      let s := ((start false {} []).run firstDeleted).store
      let copy := (Store.empty.load s.snapshot).store
      ∃ number : UInt64,
        (s.create .epoch 2 .thing "key" .none).id? = some ⟨2, number⟩ ∧
        (copy.create .epoch 2 .thing "key" .none).id? = some ⟨2, number⟩ := by
  have within : (start false {} []).isAllowedAlong Command.isWithinLimits firstDeleted = true := by
    decide +kernel
  have registered : ((start false {} []).run firstDeleted).store.hasSite 2 = true := by
    decide +kernel
  obtain ⟨number, number', original, copied, _, _, same⟩ :=
    create_load_snapshot_iff within registered .epoch .thing "key" .none
  have third : number = 3 := by
    have computed : (((start false {} []).run firstDeleted).store.create .epoch 2 .thing "key"
        .none).id? = some ⟨2, 3⟩ := by decide +kernel
    rw [original] at computed
    injection computed with ids
    injection ids
  subst third
  -- the second entity is still stored, and it was the last
  rw [same.mpr (Or.inr (by decide +kernel))] at copied
  exact ⟨within, 3, original, copied⟩

/-- The copy of a store may give out a number that the store has given out before. -/
theorem lastDeleted_reissued :
    (start false {} []).isAllowedAlong Command.isWithinLimits lastDeleted = true ∧
      let s := ((start false {} []).run lastDeleted).store
      let copy := (Store.empty.load s.snapshot).store
      let before := ((start false {} []).run (lastDeleted.take 2)).store
      s.hasSite 2 = true ∧
        (before.create .epoch 2 .thing "rug" .none).id? = some ⟨2, 2⟩ ∧
        (s.create .epoch 2 .thing "key" .none).id? = some ⟨2, 3⟩ ∧
        (copy.create .epoch 2 .thing "key" .none).id? = some ⟨2, 2⟩ := by
  decide +kernel

end World

end WorldAccess
