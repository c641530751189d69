import WorldAccess.Proofs.World.Steps

/-!
# The numbers that sites give out

Everything that is stored lies in a registered site. Entities that are created in a site are
numbered one after the other. For no number to be given out twice, the next number must lie above
the number of everything that is stored in the site, whether it was created there, inserted under an
id of its own or loaded. Every operation keeps it so, as long as no counter runs past its limit.

## Main definitions

* `Store.Housed` — stored entities lie in registered sites
* `Store.Numbered` — and below the next numbers of these
* `Command.isWithinSiteLimit`, `Command.isWithinLimits` — no counter runs past its limit
* `World.isAllowedAlong` — a condition on commands that holds all along a run

## Main results

* `World.housed_run`, `World.numbered_run` — runs within the limits
* `Store.Numbered.id_create` — the id of the next entity
-/

namespace WorldAccess

open Std

/-- The id of the entity that an operation has stored, unless it failed. -/
def Outcome.id? (o : Outcome (Except Failure Handle)) : Option EntityId :=
  o.result.toOption.map (·.id)

/-! ### Housed stores -/

namespace Store

variable {s s' : Store} {id : SiteId} {site : Site}

/-- Whether every stored entity lies in a registered site, and no site has the number zero. -/
structure Housed (s : Store) : Prop where
  zero_unused : (0 : SiteId) ∉ s.sites
  registered : ∀ id ∈ s.live, id.site ∈ s.sites

theorem housed_empty : Housed empty where
  zero_unused := ExtTreeMap.not_mem_empty
  registered _ h := absurd h ExtTreeMap.not_mem_empty

namespace Housed

/-- A store with the same sites and no more ids is housed too. -/
theorem of_sites_eq (h : s.Housed) (sites : s'.sites = s.sites)
    (fewer : ∀ id ∈ s'.live, id ∈ s.live) : s'.Housed where
  zero_unused := sites ▸ h.zero_unused
  registered id stored := sites ▸ h.registered id (fewer id stored)

/-- A site may be registered, or be put in order anew. -/
theorem setSite (h : s.Housed) (ne : id ≠ 0) (site : Site) :
    ({ s with sites := s.sites.insert id site } : Store).Housed where
  zero_unused := by
    rw [ExtTreeMap.mem_insert, Std.compare_eq_iff_eq]
    rintro (zero | used)
    · exact ne zero
    · exact h.zero_unused used
  registered other stored := ExtTreeMap.mem_insert.mpr (Or.inr (h.registered other stored))

theorem ne_zero (h : s.Housed) (stands : s.sites[id]? = some site) : id ≠ 0 := by
  rintro rfl
  exact h.zero_unused (ExtTreeMap.mem_iff_isSome_getElem?.mpr (by rw [stands]; rfl))

/-- An entity may be stored in a registered site. -/
theorem place (h : s.Housed) {id : EntityId} (here : id.site ∈ s.sites) (c : Stored) (n : Nat) :
    ({ s with live := s.live.insert id c, nextSerial := n } : Store).Housed where
  zero_unused := h.zero_unused
  registered other stored := by
    rcases ExtTreeMap.mem_insert.mp stored with new | before
    · obtain rfl := Std.compare_eq_iff_eq.mp new
      exact here
    · exact h.registered other before

theorem registerSite (h : s.Housed) (id : SiteId) (name : String) :
    (s.registerSite id name).store.Housed := by
  unfold Store.registerSite
  split
  next => exact h
  next free => exact h.setSite (not_or.mp free).1 { name }

end Housed

/-- The number after the highest is not taken, as long as there is one. -/
theorem next_site_spec (s : Store) (within : (s.sites.maxKey?.getD 0).toNat < Text.max32) :
    s.sites.maxKey?.getD 0 + 1 ≠ 0 ∧ s.sites.maxKey?.getD 0 + 1 ∉ s.sites := by
  have next : (s.sites.maxKey?.getD 0 + 1).toNat = (s.sites.maxKey?.getD 0).toNat + 1 := by
    rw [UInt32.toNat_add, Nat.mod_eq_of_lt]
    · rfl
    · exact Nat.succ_lt_of_lt_pred within
  constructor
  · intro zero
    rw [zero] at next
    simp at next
  · intro taken
    -- a registered site is at most the highest
    have highest := ExtTreeMap.maxKey?_le (t := s.sites) (k := s.sites.maxKey?.getD 0)
    have high := highest.mp (fun k found => by simp [found]) _ taken
    rw [Std.isLE_compare, UInt32.le_iff_toNat_le, next] at high
    omega

namespace Housed

theorem createSite (h : s.Housed) (name : String)
    (within : (s.sites.maxKey?.getD 0).toNat < Text.max32) : (s.createSite name).store.Housed :=
  h.setSite (s.next_site_spec within).1 { name }

theorem deleteSite (h : s.Housed) (gone : SiteId) : (s.deleteSite gone).store.Housed := by
  unfold Store.deleteSite
  split
  next =>
    refine ⟨fun used => h.zero_unused (ExtTreeMap.mem_erase.mp used).2, fun other stored => ?_⟩
    obtain ⟨before, apart⟩ := ExtTreeMap.mem_filter.mp stored
    refine ExtTreeMap.mem_erase.mpr ⟨?_, h.registered other before⟩
    intro same
    have same := Std.compare_eq_iff_eq.mp same
    simp [same] at apart
  next => exact h

theorem insert (h : s.Housed) (e : Entity) : (s.insert e).store.Housed := by
  unfold Store.insert
  split
  · exact h
  split
  · exact h
  next site stands =>
    have reserved := h.setSite (h.ne_zero stands) (Site.reserve site e.id.number)
    dsimp only
    split
    · exact reserved
    · exact reserved.place ExtTreeMap.mem_insert_self _ _

theorem create (h : s.Housed) (now : Timestamp) (id : SiteId) (kind : Kind) (name : String)
    (owner : EntityId) : (s.create now id kind name owner).store.Housed := by
  unfold Store.create
  split
  · exact h
  next site stands => exact insert (h.setSite (h.ne_zero stands) _) _

end Housed

/-- Deleting an entity leaves the sites alone. -/
theorem delete_sites (s : Store) (id : EntityId) :
    (s.delete id).store.sites = s.sites ∧ ∀ other ∈ (s.delete id).store.live, other ∈ s.live := by
  unfold delete
  split
  · exact ⟨rfl, fun _ stored => stored⟩
  · exact ⟨rfl, fun _ stored => (ExtTreeMap.mem_erase.mp stored).2⟩

/-- Editing an entity leaves the sites and the ids alone. -/
theorem edit_sites (s : Store) (now : Timestamp) (handle : Handle) (steps : List Draft.Step) :
    (s.edit now handle steps).store.sites = s.sites ∧
      ∀ other ∈ (s.edit now handle steps).store.live, other ∈ s.live := by
  unfold edit
  split
  · exact ⟨rfl, fun _ stored => stored⟩
  · dsimp only
    unfold write
    split
    next isLive =>
      refine ⟨rfl, fun other stored => ?_⟩
      rcases ExtTreeMap.mem_insert.mp stored with same | before
      · -- the entity that is written was stored under the same id
        obtain rfl := Std.compare_eq_iff_eq.mp same
        obtain ⟨c, found, _⟩ := (Option.any_eq_true _ _).mp isLive
        exact ExtTreeMap.mem_iff_isSome_getElem?.mpr (by rw [found]; rfl)
      · exact before
    next => exact ⟨rfl, fun _ stored => stored⟩

namespace Housed

theorem delete (h : s.Housed) (id : EntityId) : (s.delete id).store.Housed :=
  h.of_sites_eq (s.delete_sites id).1 (s.delete_sites id).2

theorem edit (h : s.Housed) (now : Timestamp) (handle : Handle) (steps : List Draft.Step) :
    (s.edit now handle steps).store.Housed :=
  h.of_sites_eq (s.edit_sites now handle steps).1 (s.edit_sites now handle steps).2

theorem loadSites (h : s.Housed) (records : List SiteRecord) : (s.loadSites records).Housed :=
  loadSites_keeps (R := fun s s' => s.Housed → s'.Housed) (fun _ h => h)
    (fun first later h => later (first h)) (fun _ id name h => h.registerSite id name) s records h

theorem loadEntities (h : s.Housed) (entities : List Entity) :
    (s.loadEntities entities).store.Housed :=
  loadEntities_keeps (R := fun s s' _ => s.Housed → s'.Housed) (fun _ h => h)
    (fun first later h => later (first h)) (fun _ e _ h => h.insert e) s h

theorem load (h : s.Housed) (snapshot : Snapshot) : (s.load snapshot).store.Housed :=
  (h.loadSites snapshot.sites).loadEntities snapshot.entities

end Housed

/-! ### Numbered stores -/

/-- Whether every stored entity lies in a registered site, below the number that the site gives out
next. No site and no next number is zero. -/
structure Numbered (s : Store) : Prop extends s.Housed where
  next_ne_zero : ∀ (id : SiteId) (site : Site), s.sites[id]? = some site → site.nextNumber ≠ 0
  below : ∀ id ∈ s.live, ∀ site, s.sites[id.site]? = some site → id.number < site.nextNumber

theorem numbered_empty : Numbered empty where
  toHoused := housed_empty
  next_ne_zero id site h := by simp [empty] at h
  below id h := absurd h ExtTreeMap.not_mem_empty

theorem getElem?_insert_site (s : Store) (id other : SiteId) (site : Site) :
    (s.sites.insert id site)[other]? = if id = other then some site else s.sites[other]? := by
  rw [ExtTreeMap.getElem?_insert]
  simp only [Std.compare_eq_iff_eq]

theorem getElem?_of_erase_site {gone : SiteId} (h : (s.sites.erase gone)[id]? = some site) :
    s.sites[id]? = some site := by
  rw [ExtTreeMap.getElem?_erase] at h
  split at h
  · cases h
  · exact h

namespace Numbered

theorem of_sites_eq (h : s.Numbered) (sites : s'.sites = s.sites)
    (fewer : ∀ id ∈ s'.live, id ∈ s.live) : s'.Numbered where
  toHoused := h.toHoused.of_sites_eq sites fewer
  next_ne_zero := sites ▸ h.next_ne_zero
  below id stored := sites ▸ h.below id (fewer id stored)

/-- A site may be put in order anew if its next number stays above what is stored in it. -/
theorem setSite (h : s.Numbered) (ne : id ≠ 0) (positive : site.nextNumber ≠ 0)
    (low : ∀ other ∈ s.live, other.site = id → other.number < site.nextNumber) :
    ({ s with sites := s.sites.insert id site } : Store).Numbered := by
  refine ⟨h.toHoused.setSite ne site, fun other there found => ?_,
    fun other stored there found => ?_⟩
  · rw [getElem?_insert_site] at found
    split at found
    next =>
      obtain rfl := Option.some_inj.mp found
      exact positive
    next => exact h.next_ne_zero other there found
  · rw [getElem?_insert_site] at found
    split at found
    next same =>
      obtain rfl := Option.some_inj.mp found
      exact low other stored same.symm
    next => exact h.below other stored there found

/-- Nothing is stored in a site that is not registered. -/
theorem register (h : s.Numbered) (ne : id ≠ 0) (unknown : id ∉ s.sites) (name : String) :
    ({ s with sites := s.sites.insert id { name } } : Store).Numbered := by
  apply h.setSite ne
  · show (1 : UInt64) ≠ 0
    decide
  · intro other stored same
    exact absurd (same ▸ h.registered other stored) unknown

/-- A site may leave numbers out. -/
theorem raise (h : s.Numbered) (stands : s.sites[id]? = some site) {site' : Site}
    (higher : site.nextNumber ≤ site'.nextNumber) :
    ({ s with sites := s.sites.insert id site' } : Store).Numbered := by
  apply h.setSite (h.ne_zero stands)
  · intro zero
    rw [zero] at higher
    exact h.next_ne_zero id site stands (UInt64.le_zero_iff.mp higher)
  · intro other stored same
    subst same
    exact UInt64.lt_of_lt_of_le (h.below other stored site stands) higher

/-- An entity may be stored below the next number of its site. -/
theorem place (h : s.Numbered) {id : EntityId} (stands : s.sites[id.site]? = some site)
    (low : id.number < site.nextNumber) (c : Stored) (n : Nat) :
    ({ s with live := s.live.insert id c, nextSerial := n } : Store).Numbered where
  toHoused := h.toHoused.place
    (ExtTreeMap.mem_iff_isSome_getElem?.mpr (by rw [stands]; rfl)) c n
  next_ne_zero := h.next_ne_zero
  below other stored there found := by
    rcases ExtTreeMap.mem_insert.mp stored with new | before
    · obtain rfl := Std.compare_eq_iff_eq.mp new
      rw [stands] at found
      exact Option.some_inj.mp found ▸ low
    · exact h.below other before there found

theorem registerSite (h : s.Numbered) (id : SiteId) (name : String) :
    (s.registerSite id name).store.Numbered := by
  unfold Store.registerSite
  split
  next => exact h
  next free =>
    obtain ⟨ne, unknown⟩ := not_or.mp free
    exact h.register ne (mt ExtTreeMap.contains_iff_mem.mpr unknown) name

theorem createSite (h : s.Numbered) (name : String)
    (within : (s.sites.maxKey?.getD 0).toNat < Text.max32) :
    (s.createSite name).store.Numbered :=
  h.register (s.next_site_spec within).1 (s.next_site_spec within).2 name

theorem deleteSite (h : s.Numbered) (gone : SiteId) : (s.deleteSite gone).store.Numbered := by
  refine ⟨h.toHoused.deleteSite gone, ?_, ?_⟩
  all_goals
    unfold Store.deleteSite
    split
  next =>
    intro id site found
    exact h.next_ne_zero id site (getElem?_of_erase_site found)
  next => exact h.next_ne_zero
  next =>
    intro id stored site found
    obtain ⟨before, _⟩ := ExtTreeMap.mem_filter.mp stored
    exact h.below id before site (getElem?_of_erase_site found)
  next => exact h.below

end Numbered

end Store

/-! ### Counters -/

/-- The number after one below the limit. -/
theorem toNat_next {n : UInt64} (within : n.toNat < Text.max64) : (n + 1).toNat = n.toNat + 1 := by
  rw [UInt64.toNat_add, Nat.mod_eq_of_lt]
  · rfl
  · exact Nat.succ_lt_of_lt_pred within

theorem toNat_lt_of_lt {m n : UInt64} (h : m < n) : m.toNat < Text.max64 := by
  have last := n.toNat_lt
  rw [UInt64.lt_iff_toNat_lt] at h
  simp only [Text.max64, UInt64.size]
  omega

theorem max_one {n : UInt64} (ne : n ≠ 0) : max n 1 = n := by
  have zero : n.toNat ≠ 0 := fun same => ne (UInt64.toNat_inj.mp same)
  show (if n ≤ 1 then 1 else n) = n
  split
  next low =>
    rw [UInt64.le_iff_toNat_le, UInt64.toNat_one] at low
    apply UInt64.toNat_inj.mp
    rw [UInt64.toNat_one]
    omega
  next => rfl

/-- A site in which a number is reserved gives out later ones. -/
theorem Store.Site.reserve_spec (site : Site) {number : UInt64}
    (within : number.toNat < Text.max64) :
    site.nextNumber ≤ (Site.reserve site number).nextNumber ∧
      number < (Site.reserve site number).nextNumber := by
  have next := toNat_next within
  unfold Site.reserve
  split
  next low =>
    rw [UInt64.le_iff_toNat_le] at low
    rw [UInt64.le_iff_toNat_le, UInt64.lt_iff_toNat_lt, next]
    omega
  next high => exact ⟨UInt64.le_refl _, UInt64.not_le.mp high⟩

namespace Store.Numbered

variable {s s' : Store} {id : SiteId} {site : Site}

theorem insert (h : s.Numbered) (e : Entity) (within : e.id.number.toNat < Text.max64) :
    (s.insert e).store.Numbered := by
  unfold Store.insert
  split
  · exact h
  split
  · exact h
  next site stands =>
    obtain ⟨higher, above⟩ := Store.Site.reserve_spec site within
    have raised := h.raise stands higher
    dsimp only
    split
    · exact raised
    · exact raised.place ExtTreeMap.getElem?_insert_self above _ _

theorem create (h : s.Numbered) (now : Timestamp) (kind : Kind) (name : String) (owner : EntityId)
    (within : ∀ site, s.sites[id]? = some site → site.nextNumber.toNat < Text.max64) :
    (s.create now id kind name owner).store.Numbered := by
  unfold Store.create
  split
  · exact h
  next site stands =>
    have next := toNat_next (within site stands)
    dsimp only
    rw [max_one (h.next_ne_zero id site stands)]
    apply insert
    · apply h.raise stands
      rw [UInt64.le_iff_toNat_le, next]
      exact Nat.le_succ _
    · exact within site stands

theorem delete (h : s.Numbered) (id : EntityId) : (s.delete id).store.Numbered :=
  h.of_sites_eq (s.delete_sites id).1 (s.delete_sites id).2

theorem edit (h : s.Numbered) (now : Timestamp) (handle : Handle) (steps : List Draft.Step) :
    (s.edit now handle steps).store.Numbered :=
  h.of_sites_eq (s.edit_sites now handle steps).1 (s.edit_sites now handle steps).2

theorem loadSites (h : s.Numbered) (records : List SiteRecord) :
    (s.loadSites records).Numbered :=
  loadSites_keeps (R := fun s s' => s.Numbered → s'.Numbered) (fun _ h => h)
    (fun first later h => later (first h)) (fun _ id name h => h.registerSite id name) s records h

theorem loadEntities (h : s.Numbered) (entities : List Entity)
    (within : ∀ e ∈ entities, e.id.number.toNat < Text.max64) :
    (s.loadEntities entities).store.Numbered :=
  loadEntities_keeps (R := fun s s' _ => s.Numbered → s'.Numbered) (fun _ h => h)
    (fun first later h => later (first h)) (fun _ e among h => h.insert e (within e among)) s h

theorem load (h : s.Numbered) (snapshot : Snapshot)
    (within : ∀ e ∈ snapshot.entities, e.id.number.toNat < Text.max64) :
    (s.load snapshot).store.Numbered := (h.loadSites snapshot.sites).loadEntities _ within

/-- A new entity gets the next number of its site. -/
theorem id_create (h : s.Numbered) (stands : s.sites[id]? = some site) (now : Timestamp)
    (kind : Kind) (name : String) (owner : EntityId) :
    (s.create now id kind name owner).id? = some ⟨id, site.nextNumber⟩ := by
  have valid : (⟨id, site.nextNumber⟩ : EntityId).isValid = true := by
    simp [EntityId.isValid, h.ne_zero stands, h.next_ne_zero id site stands]
  have free : ¬ (⟨id, site.nextNumber⟩ : EntityId) ∈ s.live := by
    intro taken
    exact UInt64.lt_irrefl _ (h.below _ taken site stands)
  unfold Store.create
  rw [stands]
  dsimp only
  rw [max_one (h.next_ne_zero id site stands)]
  unfold Store.insert Outcome.id?
  simp [Entity.fresh, valid, free, Except.toOption]

end Store.Numbered

/-! ### Runs -/

/-- Whether a command, if it registers a site under the number after the highest, finds one. -/
def Command.isWithinSiteLimit (s : Store) : Command → Bool
  | .createSite _ => (s.sites.maxKey?.getD 0).toNat < Text.max32
  | _ => true

/-- Whether a command lets no counter run past its limit: the number of a new site, the next number
of a site in which an entity is created, and the numbers of entities that bring their own. -/
def Command.isWithinLimits (s : Store) : Command → Bool
  | .create _ site _ _ _ => s.sites[site]?.all fun there => there.nextNumber.toNat < Text.max64
  | .insert e => e.id.number.toNat < Text.max64
  | .load snapshot => snapshot.entities.all fun e => e.id.number.toNat < Text.max64
  | c => c.isWithinSiteLimit s

namespace World

variable {w : World} {c : Command} {commands : List Command}

/-- Whether every command of a run is allowed in the store that it finds. -/
def isAllowedAlong (allowed : Store → Command → Bool) (w : World) : List Command → Bool
  | [] => true
  | c :: commands => allowed w.store c && (w.perform c).isAllowedAlong allowed commands

/-- What every allowed command keeps of the store, a run of them keeps. -/
theorem run_keeps_store {allowed : Store → Command → Bool} {P : Store → Prop}
    (step : ∀ (w : World) (c : Command), P w.store → allowed w.store c = true →
      P (w.perform c).store)
    (h : P w.store) (along : w.isAllowedAlong allowed commands = true) :
    P (w.run commands).store := by
  induction commands generalizing w with
  | nil => exact h
  | cons c commands ih =>
    obtain ⟨now, later⟩ := Bool.and_eq_true_iff.mp along
    exact ih (step w c h now) later

theorem housed_perform (h : w.store.Housed) (within : c.isWithinSiteLimit w.store = true) :
    (w.perform c).store.Housed := by
  cases c
  case createSite name => exact h.createSite name (of_decide_eq_true within)
  case registerSite id name => exact h.registerSite id name
  case deleteSite id => exact h.deleteSite id
  case create now site kind name owner => exact h.create now site kind name owner
  case insert e => exact h.insert e
  case delete id => exact h.delete id
  case load snapshot => exact h.load snapshot
  case edit now handle steps => exact h.edit now handle steps
  -- the other commands leave the store alone
  all_goals
    rw [store_perform rfl]
    exact h

theorem numbered_perform (h : w.store.Numbered) (within : c.isWithinLimits w.store = true) :
    (w.perform c).store.Numbered := by
  cases c
  case createSite name => exact h.createSite name (of_decide_eq_true within)
  case registerSite id name => exact h.registerSite id name
  case deleteSite id => exact h.deleteSite id
  case create now site kind name owner =>
    refine h.create now kind name owner fun there stands => ?_
    rw [Command.isWithinLimits, stands] at within
    exact of_decide_eq_true within
  case insert e => exact h.insert e (of_decide_eq_true within)
  case delete id => exact h.delete id
  case load snapshot =>
    exact h.load snapshot fun e among => of_decide_eq_true (List.all_eq_true.mp within e among)
  case edit now handle steps => exact h.edit now handle steps
  all_goals
    rw [store_perform rfl]
    exact h

/-- As long as the numbers of sites do not run out, everything that is stored lies in a registered
site. -/
theorem housed_run (h : w.store.Housed)
    (within : w.isAllowedAlong Command.isWithinSiteLimit commands = true) :
    (w.run commands).store.Housed :=
  run_keeps_store (fun _ _ => housed_perform) h within

/-- As long as no counter runs past its limit, everything that is stored lies below the next number
of its site. -/
theorem numbered_run (h : w.store.Numbered)
    (within : w.isAllowedAlong Command.isWithinLimits commands = true) :
    (w.run commands).store.Numbered :=
  run_keeps_store (fun _ _ => numbered_perform) h within

end World

end WorldAccess
