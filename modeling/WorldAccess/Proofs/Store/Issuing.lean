import WorldAccess.Proofs.Store.Numbering

/-!
# Every number is given out once

As long as no counter runs past its limit, whatever is stored lies below the next number of its
site. Two things follow. An entity can always be created in a registered site, and its id is one
under which nothing has been stored since the site was registered: until the site is deleted its
counter only goes up. And an entity that cannot be stored leaves no trace. Its number is reserved
before its id is found to be taken, but the number of something that is stored has been passed
already, so that there is nothing to reserve.

## Main definitions

* `Store.Leaves` — an operation leaves the store as it is and announces nothing
* `Store.AdvancesIn` — a site stays registered and its counter does not go back
* `World.standsAlong` — a site is registered at every moment of a run

## Main results

* `Store.Numbered.insert_of_error`, `Store.Numbered.create_of_error` — failures leave no trace
* `World.advancesIn_perform`, `World.advancesIn_run` — counters of sites that stand
* `World.orderly_run` — every store that a run leads to
-/

namespace WorldAccess

open Std

namespace Store

variable {s s' s'' : Store} {id k : SiteId} {site site' : Site}

/-! ### Failures -/

/-- Whether an operation leaves the store as it is and announces nothing. -/
def Leaves {α : Type} (s : Store) (o : Outcome α) : Prop := o.store = s ∧ o.events = []

/-- A number below the next one needs no reserving. -/
theorem Site.reserve_of_lt {number : UInt64} (low : number < site.nextNumber) :
    Site.reserve site number = site :=
  if_neg (UInt64.not_le.mpr low)

theorem insert_site_self (stands : s.sites[k]? = some site) : s.sites.insert k site = s.sites := by
  refine ExtTreeMap.ext_getElem? fun other => ?_
  rw [getElem?_insert_site]
  split
  next same => rw [← same, stands]
  next => rfl

/-- An entity that cannot be stored leaves no trace. -/
theorem Numbered.insert_of_error (h : s.Numbered) {e : Entity} {f : Failure}
    (failed : (s.insert e).result = .error f) : s.Leaves (s.insert e) := by
  unfold Store.insert at failed ⊢
  split
  · exact ⟨rfl, rfl⟩
  next valid =>
    rw [if_neg valid] at failed
    split
    · exact ⟨rfl, rfl⟩
    next site stands =>
      rw [stands] at failed
      dsimp only at failed ⊢
      split
      next taken =>
        -- what is stored under the id has a number that the site has passed
        have low := h.below e.id (ExtTreeMap.contains_iff_mem.mp taken) site stands
        rw [Site.reserve_of_lt low, insert_site_self stands]
        exact ⟨rfl, rfl⟩
      next free =>
        rw [if_neg free] at failed
        cases failed

/-- An entity that cannot be created leaves no trace. -/
theorem Numbered.create_of_error (h : s.Numbered) {now : Timestamp} {kind : Kind} {name : String}
    {owner : EntityId} {f : Failure}
    (failed : (s.create now id kind name owner).result = .error f) :
    s.Leaves (s.create now id kind name owner) := by
  cases there : s.sites[id]? with
  | none =>
    unfold Store.create
    rw [there]
    exact ⟨rfl, rfl⟩
  | some site =>
    have created := h.id_create there now kind name owner
    rw [Outcome.id?, failed] at created
    cases created

/-! ### Counters -/

/-- Whether a site that is registered stays so and does not go back to numbers before its next. -/
def AdvancesIn (k : SiteId) (s s' : Store) : Prop :=
  ∀ site, s.sites[k]? = some site →
    ∃ site', s'.sites[k]? = some site' ∧ site.nextNumber ≤ site'.nextNumber

namespace AdvancesIn

theorem of_sites_eq (same : s'.sites = s.sites) : AdvancesIn k s s' :=
  fun site stands => ⟨site, same ▸ stands, UInt64.le_refl _⟩

theorem trans (h : AdvancesIn k s s') (h' : AdvancesIn k s' s'') : AdvancesIn k s s'' := by
  intro site stands
  obtain ⟨site', stands', le⟩ := h site stands
  obtain ⟨site'', stands'', le'⟩ := h' site' stands'
  exact ⟨site'', stands'', UInt64.le_trans le le'⟩

/-- A site may be put in order anew, if it has not been registered or does not go back. -/
theorem setSite (forward : ∀ site, s.sites[id]? = some site → site.nextNumber ≤ site'.nextNumber) :
    AdvancesIn k s { s with sites := s.sites.insert id site' } := by
  intro site stands
  rw [getElem?_insert_site]
  by_cases same : id = k
  · subst same
    exact ⟨site', if_pos rfl, forward site stands⟩
  · exact ⟨site, by rw [if_neg same, stands], UInt64.le_refl _⟩

theorem registerSite (s : Store) (id : SiteId) (name : String) :
    AdvancesIn k s (s.registerSite id name).store := by
  unfold Store.registerSite
  split
  next => exact of_sites_eq rfl
  next free =>
    -- a registered site is not registered anew
    refine setSite fun site stands => absurd ?_ (not_or.mp free).2
    exact ExtTreeMap.isSome_getElem?_eq_contains.symm.trans (by rw [stands]; rfl)

theorem createSite (name : String) (within : (s.sites.maxKey?.getD 0).toNat < Text.max32) :
    AdvancesIn k s (s.createSite name).store :=
  setSite fun site stands => absurd
    (ExtTreeMap.mem_iff_isSome_getElem?.mpr (by rw [stands]; rfl)) (s.next_site_spec within).2

/-- A deleted site does not stand, and the other sites stay. -/
theorem deleteSite (gone : SiteId) (stands : (s.deleteSite gone).store.hasSite k = true) :
    AdvancesIn k s (s.deleteSite gone).store := by
  unfold Store.deleteSite at stands ⊢
  split
  next there =>
    rw [if_pos there] at stands
    obtain ⟨apart, _⟩ := ExtTreeMap.mem_erase.mp (ExtTreeMap.contains_iff_mem.mp stands)
    intro site before
    refine ⟨site, ?_, UInt64.le_refl _⟩
    rw [ExtTreeMap.getElem?_erase, if_neg apart, before]
  next => exact of_sites_eq rfl

theorem insert (s : Store) (e : Entity) (within : e.id.number.toNat < Text.max64) :
    AdvancesIn k s (s.insert e).store := by
  unfold Store.insert
  split
  · exact of_sites_eq rfl
  split
  · exact of_sites_eq rfl
  next site stands =>
    have reserved : AdvancesIn k s
        { s with sites := s.sites.insert e.id.site (Site.reserve site e.id.number) } := by
      refine setSite fun there found => ?_
      obtain rfl := Option.some_inj.mp (found.symm.trans stands)
      exact (Site.reserve_spec there within).1
    dsimp only
    split
    · exact reserved
    · exact reserved

theorem create (numbered : s.Numbered) (now : Timestamp) (kind : Kind) (name : String)
    (owner : EntityId)
    (within : ∀ site, s.sites[id]? = some site → site.nextNumber.toNat < Text.max64) :
    AdvancesIn k s (s.create now id kind name owner).store := by
  unfold Store.create
  split
  · exact of_sites_eq rfl
  next site stands =>
    have next := toNat_next (within site stands)
    dsimp only
    rw [max_one (numbered.next_ne_zero id site stands)]
    have raised : AdvancesIn k s
        { s with sites := s.sites.insert id { site with nextNumber := site.nextNumber + 1 } } := by
      refine setSite fun there found => ?_
      obtain rfl := Option.some_inj.mp (found.symm.trans stands)
      rw [UInt64.le_iff_toNat_le, next]
      exact Nat.le_succ _
    exact raised.trans (insert _ _ (within site stands))

theorem loadSites (s : Store) (records : List SiteRecord) :
    AdvancesIn k s (s.loadSites records) :=
  loadSites_keeps (fun _ => of_sites_eq rfl) trans registerSite s records

theorem loadEntities (s : Store) (entities : List Entity)
    (within : ∀ e ∈ entities, e.id.number.toNat < Text.max64) :
    AdvancesIn k s (s.loadEntities entities).store :=
  loadEntities_keeps (R := fun s s' _ => AdvancesIn k s s') (fun _ => of_sites_eq rfl) trans
    (fun s e among => insert s e (within e among)) s

theorem load (s : Store) (snapshot : Snapshot)
    (within : ∀ e ∈ snapshot.entities, e.id.number.toNat < Text.max64) :
    AdvancesIn k s (s.load snapshot).store :=
  (loadSites s snapshot.sites).trans (loadEntities _ snapshot.entities within)

end AdvancesIn

end Store

/-! ### Runs -/

namespace World

variable {w : World} {c : Command} {commands earlier later : List Command} {k : SiteId}
  {config : Config} {extras : List (Operation × Checker)} {withBus : Bool}

theorem isAllowedAlong_append (allowed : Store → Command → Bool) (w : World)
    (earlier later : List Command) : w.isAllowedAlong allowed (earlier ++ later) =
      (w.isAllowedAlong allowed earlier && (w.run earlier).isAllowedAlong allowed later) := by
  induction earlier generalizing w with
  | nil => rfl
  | cons c earlier ih =>
    rw [List.cons_append, isAllowedAlong, ih, isAllowedAlong, Bool.and_assoc, run_cons]

/-- Whether a site is registered at every moment of a run. -/
def standsAlong (w : World) (k : SiteId) : List Command → Bool
  | [] => w.store.hasSite k
  | c :: commands => w.store.hasSite k && (w.perform c).standsAlong k commands

theorem hasSite_of_standsAlong (stands : w.standsAlong k commands = true) :
    w.store.hasSite k = true := by
  cases commands with
  | nil => exact stands
  | cons c commands => exact (Bool.and_eq_true_iff.mp stands).1

/-- A site that is registered before and after a command does not go back. -/
theorem advancesIn_perform (h : w.store.Numbered) (within : c.isWithinLimits w.store = true)
    (stands : (w.perform c).store.hasSite k = true) :
    Store.AdvancesIn k w.store (w.perform c).store := by
  cases c
  case createSite name => exact .createSite name (of_decide_eq_true within)
  case registerSite id name => exact .registerSite _ id name
  case deleteSite id => exact .deleteSite id stands
  case create now site kind name owner =>
    refine .create h now kind name owner fun there found => ?_
    rw [Command.isWithinLimits, found] at within
    exact of_decide_eq_true within
  case insert e => exact .insert _ e (of_decide_eq_true within)
  case delete id => exact .of_sites_eq (w.store.delete_sites id).1
  case load snapshot =>
    exact .load _ snapshot fun e among => of_decide_eq_true (List.all_eq_true.mp within e among)
  case edit now handle steps => exact .of_sites_eq (w.store.edit_sites now handle steps).1
  -- the other commands leave the store alone
  all_goals exact .of_sites_eq (congrArg Store.sites (store_perform rfl))

/-- A site that stands all along a run does not go back. -/
theorem advancesIn_run (h : w.store.Numbered)
    (within : w.isAllowedAlong Command.isWithinLimits commands = true)
    (stands : w.standsAlong k commands = true) :
    Store.AdvancesIn k w.store (w.run commands).store := by
  induction commands generalizing w with
  | nil => exact .of_sites_eq rfl
  | cons c commands ih =>
    obtain ⟨now, after⟩ := Bool.and_eq_true_iff.mp within
    obtain ⟨_, still⟩ := Bool.and_eq_true_iff.mp stands
    exact (advancesIn_perform h now (hasSite_of_standsAlong still)).trans
      (ih (numbered_perform h now) after still)

/-- At no moment since a site was registered has anything been stored under its next number. -/
theorem notMem_next_of_standsAlong (h : w.store.Numbered)
    (within : w.isAllowedAlong Command.isWithinLimits commands = true)
    (stands : w.standsAlong k commands = true) {site : Site}
    (there : (w.run commands).store.sites[k]? = some site) :
    (⟨k, site.nextNumber⟩ : EntityId) ∉ w.store.live := by
  intro stored
  obtain ⟨before, found⟩ := Option.isSome_iff_exists.mp
    (ExtTreeMap.isSome_getElem?_eq_contains.trans (hasSite_of_standsAlong stands))
  obtain ⟨after, found', le⟩ := advancesIn_run h within stands before found
  obtain rfl := Option.some_inj.mp (there.symm.trans found')
  -- what was stored then lies below the counter of then, which is not above that of now
  exact UInt64.lt_irrefl _ (UInt64.lt_of_lt_of_le (h.below _ stored before found) le)

/-- Every store that a run leads to is in order, if no counter has run past its limit on the way.
What is stored lies under its own id, which is valid; its site is registered, and the site's next
number is higher. An entity can be created in any registered site, under an id under which nothing
was stored at any moment of the run from which on the site has been registered. And when an entity
cannot be created or stored, the store stays as it is, and nothing is announced. -/
theorem orderly_run
    (within : (start withBus config extras).isAllowedAlong Command.isWithinLimits commands = true) :
    let s := ((start withBus config extras).run commands).store
    (∀ (id : EntityId) (c : Stored), s.live[id]? = some c →
        c.entity.id = id ∧ id.isValid = true ∧
          ∃ site, s.sites[id.site]? = some site ∧ id.number < site.nextNumber) ∧
      (∀ now (k : SiteId) kind name owner, s.hasSite k = true →
        ∃ number, (s.create now k kind name owner).id? = some ⟨k, number⟩ ∧
          ∀ earlier later, commands = earlier ++ later →
            ((start withBus config extras).run earlier).standsAlong k later = true →
            (⟨k, number⟩ : EntityId) ∉ ((start withBus config extras).run earlier).store.live) ∧
      (∀ now k kind name owner f, (s.create now k kind name owner).result = .error f →
        s.Leaves (s.create now k kind name owner)) ∧
      ∀ e f, (s.insert e).result = .error f → s.Leaves (s.insert e) := by
  intro s
  have wf : s.WellFormed := Reachable.wellFormed ⟨withBus, config, extras, commands, rfl⟩
  have numbered : s.Numbered := numbered_run Store.numbered_empty within
  refine ⟨fun id c stored => ?_, fun now k kind name owner registered => ?_,
    fun _ _ _ _ _ _ => numbered.create_of_error, fun _ _ => numbered.insert_of_error⟩
  · have there : id ∈ s.live := ExtTreeMap.mem_iff_isSome_getElem?.mpr (by rw [stored]; rfl)
    obtain ⟨site, stands⟩ := Option.isSome_iff_exists.mp
      (ExtTreeMap.mem_iff_isSome_getElem?.mp (numbered.registered id there))
    have own := wf.own id c stored
    exact ⟨own, own ▸ wf.valid c (Store.holds_of_live stored), site, stands,
      numbered.below id there site stands⟩
  · obtain ⟨site, stands⟩ := Option.isSome_iff_exists.mp
      (ExtTreeMap.isSome_getElem?_eq_contains.trans registered)
    refine ⟨site.nextNumber, numbered.id_create stands now kind name owner, ?_⟩
    -- the rest of the run begins at a store whose counters are in order as well
    rintro earlier later rfl standing
    rw [isAllowedAlong_append] at within
    obtain ⟨before, after⟩ := Bool.and_eq_true_iff.mp within
    refine notMem_next_of_standsAlong (numbered_run Store.numbered_empty before) after standing ?_
    rw [← run_append]
    exact stands

/-- A room that is stored under the number 1 of the site 2. -/
def loft : Entity := .fresh .epoch ⟨2, 1⟩ .room "loft" .none

/-- A run in which an entity is deleted, an id is asked for that is taken, and the loading of a
snapshot fails halfway. -/
def movingRun : List Command :=
  [.registerSite 2 "main", .create .epoch 2 .room "hall" .none,
    .create .epoch 2 .room "attic" .none, .delete ⟨2, 2⟩, .insert loft,
    .load ⟨[⟨3, "annex", 0⟩], [.fresh .epoch ⟨3, 5⟩ .room "shed" .none, loft]⟩]

theorem orderly_run_movingRun :
    let s := ((start true {} []).run movingRun).store
    (∃ number, (s.create .epoch 2 .room "cellar" .none).id? = some ⟨2, number⟩ ∧
        (⟨2, number⟩ : EntityId) ∉ ((start true {} []).run (movingRun.take 3)).store.live) ∧
      s.entity? ⟨3, 5⟩ ≠ none ∧ s.Leaves (s.insert loft) := by
  intro s
  have within : (start true {} []).isAllowedAlong Command.isWithinLimits movingRun = true := by
    decide +kernel
  obtain ⟨_, created, _, inserted⟩ := orderly_run within
  obtain ⟨number, made, new⟩ := created .epoch 2 .room "cellar" .none (by decide +kernel)
  have stands : ((start true {} []).run (movingRun.take 3)).standsAlong 2 (movingRun.drop 3) =
      true := by decide +kernel
  have refused : (s.insert loft).result.toOption.isNone = true := by decide +kernel
  obtain ⟨f, failed⟩ : ∃ f, (s.insert loft).result = .error f := by
    cases answer : (s.insert loft).result with
    | error f => exact ⟨f, rfl⟩
    | ok h =>
      rw [answer] at refused
      cases refused
  exact ⟨⟨number, made, new _ _ (List.take_append_drop 3 movingRun).symm stands⟩, by decide +kernel,
    inserted loft f failed⟩

end World

end WorldAccess
