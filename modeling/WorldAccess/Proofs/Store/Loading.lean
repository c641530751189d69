import Mathlib.Data.List.Induction
import WorldAccess.Proofs.Store.Reload

/-!
# What loading stores, and where it stops

Loading a snapshot into a store passes over entities of unknown sites. The others are due: they are
stored in the order of the snapshot until one is refused, because its number is zero or because its
id is taken, by what was stored before or by an entity that came before it in the snapshot. Whether
an entity is refused depends on nothing but those before it. What was stored before the loading
stays as it was, wherever the loading stops.

## Main definitions

* `Store.due` — the entities of a snapshot that are not passed over
* `Store.Admits`, `Store.refusal?` — entities that can all be stored, and why one cannot
* `Store.Receives` — a store has received entities and is otherwise as it was

## Main results

* `Store.loadEntities_filter`, `Store.loadEntities_append` — what is passed over, and loading in
  parts
* `Store.admits_or_refuses` — all entities are admitted, or there is a first that is refused
* `World.load_until_refused` — what loading answers and leaves behind in every run
-/

namespace WorldAccess

open Std

namespace Store

variable {s : Store} {e : Entity} {entities earlier later : List Entity} {site : SiteId}

/-! ### Entities that are due -/

/-- The entities of a snapshot that loading does not pass over: their site is registered already, or
it is a site of the snapshot other than zero. -/
def due (s : Store) (snapshot : Snapshot) : List Entity :=
  snapshot.entities.filter fun e =>
    s.hasSite e.id.site || (e.id.site != 0 && snapshot.sites.any (·.id == e.id.site))

theorem hasSite_loadSites (s : Store) (records : List SiteRecord) (site : SiteId) :
    (s.loadSites records).hasSite site =
      (s.hasSite site || (site != 0 && records.any (·.id == site))) := by
  have found : (records.find? fun r => r.id == site && site != 0).isSome =
      (site != 0 && records.any (·.id == site)) := by
    rw [List.isSome_find?]
    cases site != 0 <;> simp
  rw [hasSite, ← ExtTreeMap.isSome_getElem?_eq_contains, getElem?_loadSites, Option.isSome_or,
    Option.isSome_map, found, ExtTreeMap.isSome_getElem?_eq_contains, hasSite]

/-- Storing an entity registers no site. -/
theorem hasSite_insert (s : Store) (e : Entity) (site : SiteId) :
    (s.insert e).store.hasSite site = s.hasSite site := by
  unfold insert
  split
  · rfl
  split
  · rfl
  next there stands =>
    have registered : s.sites.contains e.id.site = true := by
      rw [← ExtTreeMap.isSome_getElem?_eq_contains, stands]
      rfl
    have same : (s.sites.insert e.id.site (Site.reserve there e.id.number)).contains site =
        s.sites.contains site := by
      by_cases here : e.id.site = site
      · subst here
        simp [registered]
      · simp [ExtTreeMap.contains_insert, here]
    dsimp only
    split <;> exact same

/-! ### Loading in parts -/

theorem loadEntities_cons_of_error {f : Failure} (registered : s.hasSite e.id.site = true)
    (refused : (s.insert e).result = .error f) :
    s.loadEntities (e :: later) =
      { store := (s.insert e).store, events := (s.insert e).events, result := .error f } := by
  rw [loadEntities, if_pos registered]
  dsimp only
  rw [refused]

theorem loadEntities_cons_of_unknown (unknown : s.hasSite e.id.site ≠ true) :
    s.loadEntities (e :: later) = s.loadEntities later := by
  rw [loadEntities, if_neg unknown]

/-- Entities of unknown sites are passed over. -/
theorem loadEntities_filter (s : Store) (entities : List Entity) :
    s.loadEntities (entities.filter fun e => s.hasSite e.id.site) = s.loadEntities entities := by
  induction entities generalizing s with
  | nil => rfl
  | cons e rest ih =>
    by_cases known : s.hasSite e.id.site = true
    · rw [List.filter_cons_of_pos (by exact known)]
      cases first : (s.insert e).result with
      | error f =>
        rw [loadEntities_cons_of_error known first, loadEntities_cons_of_error known first]
      | ok h =>
        -- storing the first one leaves the same sites known to the others
        have others := ih (s.insert e).store
        simp only [hasSite_insert] at others
        rw [loadEntities_cons_of_ok known first, loadEntities_cons_of_ok known first, others]
    · rw [List.filter_cons_of_neg (by exact known), loadEntities_cons_of_unknown known, ih]

/-- Entities are loaded in two parts if the first part can be loaded. -/
theorem loadEntities_append {n : Nat} (loaded : (s.loadEntities earlier).result = .ok n) :
    s.loadEntities (earlier ++ later) =
      { store := ((s.loadEntities earlier).store.loadEntities later).store
        events := (s.loadEntities earlier).events ++
          ((s.loadEntities earlier).store.loadEntities later).events
        result := ((s.loadEntities earlier).store.loadEntities later).result.map (· + n) } := by
  induction earlier generalizing s n with
  | nil =>
    obtain rfl : 0 = n := Except.ok.inj loaded
    have same : (s.loadEntities later).result.map (· + 0) = (s.loadEntities later).result := by
      cases (s.loadEntities later).result <;> rfl
    simp only [List.nil_append, loadEntities, same]
  | cons e rest ih =>
    rw [List.cons_append]
    by_cases known : s.hasSite e.id.site = true
    · cases first : (s.insert e).result with
      | error f =>
        rw [loadEntities_cons_of_error known first] at loaded
        cases loaded
      | ok h =>
        rw [loadEntities_cons_of_ok known first] at loaded
        -- the first is stored, and the rest has to be loaded after it
        cases others : ((s.insert e).store.loadEntities rest).result with
        | error f =>
          simp only [others] at loaded
          cases loaded
        | ok m =>
          simp only [others] at loaded
          obtain rfl : m + 1 = n := Except.ok.inj loaded
          rw [loadEntities_cons_of_ok known first, loadEntities_cons_of_ok known first, ih others]
          have counts : ∀ r : Except Failure Nat, (r.map (· + m)).map (· + 1) =
              r.map (· + (m + 1)) := by
            intro r
            cases r <;> rfl
          simp only [counts, List.append_assoc]
    · rw [loadEntities_cons_of_unknown known] at loaded ⊢
      rw [loadEntities_cons_of_unknown known]
      exact ih loaded

/-! ### Refusals -/

/-- Whether entities can be stored one after the other in their sites: their numbers are not zero,
their ids are not taken, and no two are the same. -/
structure Admits (s : Store) (entities : List Entity) : Prop where
  numbered : ∀ e ∈ entities, e.id.number ≠ 0
  free : ∀ e ∈ entities, e.id ∉ s.live
  distinct : entities.Pairwise fun a b => a.id ≠ b.id

/-- Why an entity is refused in its site once others have been stored: its number is zero, or its id
is taken. -/
def refusal? (s : Store) (earlier : List Entity) (e : Entity) : Option Failure :=
  if e.id.number = 0 then some (invalidId e.id)
  else if e.id ∈ s.live ∨ ∃ other ∈ earlier, other.id = e.id then some (idTaken e.id)
  else none

theorem refusal?_eq_none_iff :
    s.refusal? earlier e = none ↔
      e.id.number ≠ 0 ∧ e.id ∉ s.live ∧ ∀ other ∈ earlier, other.id ≠ e.id := by
  unfold refusal?
  split
  next zero => simp [zero]
  next numbered =>
    split
    next taken =>
      simp only [reduceCtorEq, false_iff, not_and]
      rintro - free apart
      rcases taken with stored | ⟨other, before, same⟩
      · exact free stored
      · exact apart other before same
    next untaken =>
      obtain ⟨free, apart⟩ := not_or.mp untaken
      exact iff_of_true rfl ⟨numbered, free, fun other before same => apart ⟨other, before, same⟩⟩

theorem admits_nil (s : Store) : s.Admits [] where
  numbered _ among := absurd among List.not_mem_nil
  free _ among := absurd among List.not_mem_nil
  distinct := .nil

theorem Admits.sublist (admits : s.Admits entities) (sub : earlier.Sublist entities) :
    s.Admits earlier where
  numbered e among := admits.numbered e (sub.subset among)
  free e among := admits.free e (sub.subset among)
  distinct := admits.distinct.sublist sub

/-- Entities are admitted one by one. -/
theorem admits_concat_iff :
    s.Admits (earlier ++ [e]) ↔ s.Admits earlier ∧ s.refusal? earlier e = none := by
  rw [refusal?_eq_none_iff]
  constructor
  · intro admits
    have last : e ∈ earlier ++ [e] := List.mem_append_right _ List.mem_cons_self
    obtain ⟨_, _, apart⟩ := List.pairwise_append.mp admits.distinct
    exact ⟨admits.sublist (List.sublist_append_left _ _), admits.numbered e last,
      admits.free e last, fun other before => apart other before e List.mem_cons_self⟩
  · rintro ⟨admits, numbered, free, apart⟩
    refine ⟨?_, ?_, List.pairwise_append.mpr ⟨admits.distinct, List.pairwise_singleton _ _, ?_⟩⟩
    · exact List.forall_mem_append.mpr ⟨admits.numbered, List.forall_mem_singleton.mpr numbered⟩
    · exact List.forall_mem_append.mpr ⟨admits.free, List.forall_mem_singleton.mpr free⟩
    · intro other before a last
      exact List.mem_singleton.mp last ▸ apart other before

/-- Entities are all admitted, or there is a first that is refused. -/
theorem admits_or_refuses (s : Store) (entities : List Entity) :
    s.Admits entities ∨
      ∃ earlier e later f, entities = earlier ++ e :: later ∧ s.Admits earlier ∧
        s.refusal? earlier e = some f := by
  induction entities using List.reverseRec with
  | nil => exact Or.inl s.admits_nil
  | append_singleton entities e ih =>
    rcases ih with admits | ⟨earlier, first, later, f, rfl, admits, refused⟩
    · cases last : s.refusal? entities e with
      | none => exact Or.inl (admits_concat_iff.mpr ⟨admits, last⟩)
      | some f => exact Or.inr ⟨entities, e, [], f, rfl, admits, last⟩
    · exact Or.inr ⟨earlier, first, later ++ [e], f, by simp, admits, refused⟩

/-- Entities of which one is refused are not admitted. -/
theorem not_admits_of_refusal {f : Failure} (refused : s.refusal? earlier e = some f) :
    ¬ s.Admits (earlier ++ e :: later) := by
  intro admits
  have sub : (earlier ++ [e]).Sublist (earlier ++ e :: later) :=
    (List.sublist_append_left [e] later).append_left earlier
  obtain ⟨_, accepted⟩ := admits_concat_iff.mp (admits.sublist sub)
  rw [accepted] at refused
  cases refused

/-! ### What a store receives -/

/-- Whether a store has received entities and is otherwise as it was: what was stored before stays,
and what is added are those entities. -/
structure Receives (s s' : Store) (entities : List Entity) : Prop where
  kept : ∀ (id : EntityId) (c : Stored), s.live[id]? = some c → s'.live[id]? = some c
  added : ∀ id, s'.entity? id = (s.entity? id).or (entities.find? (·.id == id))

/-- What is stored stays as it was when entities are loaded. -/
theorem getElem?_loadEntities (s : Store) (entities : List Entity) {id : EntityId} {c : Stored}
    (stored : s.live[id]? = some c) : (s.loadEntities entities).store.live[id]? = some c := by
  rcases gains_loadEntities s entities id with same | ⟨_, _, _, free, _, _⟩
  · exact same.trans stored
  · rw [stored] at free
    cases free

theorem receives_of_storable (storable : s.Storable entities) :
    s.Receives (s.loadEntities entities).store entities where
  kept _ _ := getElem?_loadEntities s entities
  added := (loadEntities_of_storable storable).2.1

theorem Receives.mem_live_iff {s' : Store} (h : s.Receives s' entities) {id : EntityId} :
    id ∈ s'.live ↔ id ∈ s.live ∨ ∃ other ∈ entities, other.id = id := by
  have stored : ∀ t : Store, id ∈ t.live ↔ (t.entity? id).isSome = true := by
    intro t
    rw [entity?, Option.isSome_map, ExtTreeMap.mem_iff_isSome_getElem?]
  rw [stored, stored, h.added, Option.isSome_or, Bool.or_eq_true, List.find?_isSome]
  simp only [beq_iff_eq]

theorem Receives.of_live_eq {s' s'' : Store} (h : s.Receives s' entities)
    (live : s''.live = s'.live) : s.Receives s'' entities where
  kept id c stored := live ▸ h.kept id c stored
  added id := by rw [entity?, live, ← entity?, h.added]

/-- Whether an entity is refused by a store that has received others depends on what was stored
before and on those others alone. -/
theorem Receives.refusal?_eq {s' : Store} (h : s.Receives s' earlier) (e : Entity) :
    s'.refusal? [] e = s.refusal? earlier e := by
  simp only [refusal?, h.mem_live_iff, List.not_mem_nil, false_and, exists_false, or_false]

/-- An entity that is refused is not stored, and why it is refused is what is answered. -/
theorem insert_of_refusal {f : Failure} (registered : s.hasSite e.id.site = true)
    (named : e.id.site ≠ 0) (refused : s.refusal? [] e = some f) :
    (s.insert e).result = .error f ∧ (s.insert e).store.live = s.live := by
  obtain ⟨site, stands⟩ := Option.isSome_iff_exists.mp
    (ExtTreeMap.isSome_getElem?_eq_contains.trans registered)
  unfold refusal? at refused
  split at refused
  next zero =>
    obtain rfl := Option.some_inj.mp refused
    simp [insert, EntityId.isValid, zero]
  next numbered =>
    have valid : e.id.isValid = true := by simp [EntityId.isValid, numbered, named]
    split at refused
    next taken =>
      obtain rfl := Option.some_inj.mp refused
      have taken : e.id ∈ s.live := by simpa using taken
      simp [insert, valid, stands, taken]
    next => cases refused

/-! ### Loading -/

theorem Housed.ne_zero_of_hasSite (housed : s.Housed) (registered : s.hasSite site = true) :
    site ≠ 0 := by
  rintro rfl
  exact housed.zero_unused (ExtTreeMap.contains_iff_mem.mp registered)

/-- Entities of registered sites that are admitted can be stored. -/
theorem Admits.storable (admits : s.Admits entities) (housed : s.Housed)
    (registered : ∀ e ∈ entities, s.hasSite e.id.site = true) : s.Storable entities where
  registered := registered
  valid e among := by
    have named := housed.ne_zero_of_hasSite (registered e among)
    simp [EntityId.isValid, admits.numbered e among, named]
  free := admits.free
  distinct := admits.distinct

theorem hasSite_loadEntities (s : Store) (entities : List Entity) (site : SiteId) :
    (s.loadEntities entities).store.hasSite site = s.hasSite site :=
  loadEntities_keeps (R := fun s s' _ => s'.hasSite site = s.hasSite site) (fun _ => rfl)
    (fun first others => others.trans first) (fun s e _ => hasSite_insert s e site) s

/-- Entities of registered sites are stored up to the first that is refused. -/
theorem loadEntities_of_refusal {f : Failure} (housed : s.Housed)
    (registered : ∀ other ∈ earlier ++ e :: later, s.hasSite other.id.site = true)
    (admits : s.Admits earlier) (refused : s.refusal? earlier e = some f) :
    (s.loadEntities (earlier ++ e :: later)).result = .error f ∧
      s.Receives (s.loadEntities (earlier ++ e :: later)).store earlier := by
  obtain ⟨before, others⟩ := List.forall_mem_append.mp registered
  have here := others e List.mem_cons_self
  have storable := admits.storable housed before
  have received := receives_of_storable storable
  -- the store that is reached refuses the entity for the same reason
  have known : (s.loadEntities earlier).store.hasSite e.id.site = true := by
    rw [hasSite_loadEntities, here]
  rw [← received.refusal?_eq] at refused
  obtain ⟨failed, live⟩ := insert_of_refusal known (housed.ne_zero_of_hasSite here) refused
  rw [loadEntities_append (loadEntities_of_storable storable).1,
    loadEntities_cons_of_error known failed]
  exact ⟨rfl, received.of_live_eq live⟩

/-! ### Snapshots -/

theorem hasSite_of_mem_due {snapshot : Snapshot} :
    ∀ e ∈ s.due snapshot, (s.loadSites snapshot.sites).hasSite e.id.site = true := by
  intro e among
  rw [hasSite_loadSites]
  exact (List.mem_filter.mp among).2

/-- Loading a snapshot registers its sites and then stores the entities that are due. -/
theorem load_eq (s : Store) (snapshot : Snapshot) :
    s.load snapshot = (s.loadSites snapshot.sites).loadEntities (s.due snapshot) := by
  rw [load, ← loadEntities_filter, due]
  simp only [hasSite_loadSites]

/-- Registering sites changes nothing about which entities are admitted. -/
theorem Admits.loadSites (admits : s.Admits entities) (records : List SiteRecord) :
    (s.loadSites records).Admits entities where
  numbered := admits.numbered
  free := (loadSites_eq s records).1 ▸ admits.free
  distinct := admits.distinct

theorem refusal?_loadSites (s : Store) (records : List SiteRecord) (earlier : List Entity)
    (e : Entity) : (s.loadSites records).refusal? earlier e = s.refusal? earlier e := by
  rw [refusal?, (loadSites_eq s records).1, refusal?]

theorem Receives.of_loadSites {s' : Store} {records : List SiteRecord}
    (h : (s.loadSites records).Receives s' entities) : s.Receives s' entities where
  kept id c stored := h.kept id c ((loadSites_eq s records).1 ▸ stored)
  added id := by rw [h.added, entity?, (loadSites_eq s records).1, entity?]

/-- If all entities that are due are admitted, all are stored. -/
theorem load_of_admits (housed : s.Housed) {snapshot : Snapshot}
    (admits : s.Admits (s.due snapshot)) :
    (s.load snapshot).result = .ok (s.due snapshot).length ∧
      s.Receives (s.load snapshot).store (s.due snapshot) := by
  have storable := (admits.loadSites snapshot.sites).storable (housed.loadSites snapshot.sites)
    hasSite_of_mem_due
  rw [load_eq]
  exact ⟨(loadEntities_of_storable storable).1, (receives_of_storable storable).of_loadSites⟩

/-- Otherwise those before the first that is refused are stored. -/
theorem load_of_refusal (housed : s.Housed) {snapshot : Snapshot} {f : Failure}
    (parts : s.due snapshot = earlier ++ e :: later) (admits : s.Admits earlier)
    (refused : s.refusal? earlier e = some f) :
    (s.load snapshot).result = .error f ∧ s.Receives (s.load snapshot).store earlier := by
  have registered : ∀ e' ∈ earlier ++ e :: later,
      (s.loadSites snapshot.sites).hasSite e'.id.site = true := parts ▸ hasSite_of_mem_due
  rw [← refusal?_loadSites s snapshot.sites] at refused
  obtain ⟨failed, received⟩ := loadEntities_of_refusal (housed.loadSites snapshot.sites) registered
    (admits.loadSites snapshot.sites) refused
  rw [load_eq, parts]
  exact ⟨failed, received.of_loadSites⟩

end Store

namespace World

variable {commands : List Command} {config : Config} {extras : List (Operation × Checker)}
  {withBus : Bool}

/-- What loading a snapshot answers and leaves behind. Take any run in which the numbers of sites do
not run out. The entities of the snapshot are stored in order but for those whose site is neither
registered nor, being other than zero, among the sites of the snapshot. The answer is their number
iff none of them has the number zero, the id of an entity that was stored before, or that of another
of them, and then all are added. Otherwise the answer is why the first of them is refused, and those
before it are added. Nothing else is added, and what was stored before stays as it was. -/
theorem load_until_refused
    (within : (start withBus config extras).isAllowedAlong Command.isWithinSiteLimit commands = true)
    (snapshot : Snapshot) :
    let s := ((start withBus config extras).run commands).store
    let due := s.due snapshot
    let loaded := s.load snapshot
    (∀ n, loaded.result = .ok n ↔
        n = due.length ∧ (∀ e ∈ due, e.id.number ≠ 0) ∧ (∀ e ∈ due, e.id ∉ s.live) ∧
          due.Pairwise fun a b => a.id ≠ b.id) ∧
      (∀ n, loaded.result = .ok n → s.Receives loaded.store due) ∧
      ∀ f, loaded.result = .error f →
        ∃ earlier e later, due = earlier ++ e :: later ∧ s.Admits earlier ∧
          s.refusal? earlier e = some f ∧ s.Receives loaded.store earlier := by
  intro s due loaded
  have housed : s.Housed := housed_run Store.housed_empty within
  -- either all of them can be stored, or there is a first that is refused
  rcases s.admits_or_refuses due with admits | ⟨earlier, e, later, f, parts, admits, refused⟩
  · obtain ⟨answer, received⟩ := Store.load_of_admits housed admits
    refine ⟨fun n => ?_, fun _ _ => received, fun f failed => ?_⟩
    · rw [answer]
      constructor
      · intro counted
        exact ⟨(Except.ok.inj counted).symm, admits.numbered, admits.free, admits.distinct⟩
      · rintro ⟨rfl, _⟩
        rfl
    · rw [answer] at failed
      cases failed
  · obtain ⟨answer, received⟩ := Store.load_of_refusal housed parts admits refused
    refine ⟨fun n => ?_, fun n counted => ?_, fun f failed => ?_⟩
    · rw [answer]
      constructor
      · intro counted
        cases counted
      · rintro ⟨_, numbered, free, distinct⟩
        have admits : s.Admits due := ⟨numbered, free, distinct⟩
        exact absurd (parts ▸ admits) (Store.not_admits_of_refusal refused)
    · rw [answer] at counted
      cases counted
    · obtain rfl := Except.error.inj (answer.symm.trans failed)
      exact ⟨earlier, e, later, parts, admits, refused, received⟩

/-- A snapshot with a site that is listed twice, one of number zero, entities that are passed over,
an id that has become free, one that occurs twice, and one that is taken. -/
def crowdedSnapshot : Snapshot where
  sites := [⟨3, "annex", 0⟩, ⟨0, "void", 0⟩, ⟨3, "attic", 9⟩, ⟨2, "hall", 4⟩]
  entities := [.fresh .epoch ⟨2, 1⟩ .thing "vase" .none, .fresh .epoch ⟨9, 1⟩ .thing "ghost" .none,
    .fresh .epoch ⟨3, 5⟩ .room "shed" .none, .fresh .epoch ⟨0, 4⟩ .thing "echo" .none,
    .fresh .epoch ⟨3, 5⟩ .room "barn" .none, .fresh .epoch ⟨2, 2⟩ .thing "mat" .none]

theorem load_until_refused_crowdedSnapshot :
    (start false {} []).isAllowedAlong Command.isWithinSiteLimit firstDeleted = true ∧
      let s := ((start false {} []).run firstDeleted).store
      let loaded := s.load crowdedSnapshot
      loaded.result = .error (Store.idTaken ⟨3, 5⟩) ∧
        ∃ earlier e later, s.due crowdedSnapshot = earlier ++ e :: later ∧ s.Admits earlier ∧
          s.refusal? earlier e = some (Store.idTaken ⟨3, 5⟩) ∧ s.Receives loaded.store earlier := by
  have within :
      (start false {} []).isAllowedAlong Command.isWithinSiteLimit firstDeleted = true := by
    decide +kernel
  have answer : (((start false {} []).run firstDeleted).store.load crowdedSnapshot).result =
      .error (Store.idTaken ⟨3, 5⟩) := by decide +kernel
  obtain ⟨_, _, refused⟩ := load_until_refused within crowdedSnapshot
  exact ⟨within, answer, refused _ answer⟩

end World

end WorldAccess
