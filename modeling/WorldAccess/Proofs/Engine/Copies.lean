import WorldAccess.Proofs.Engine.SameGroups
import WorldAccess.Proofs.Store.Reload

/-!
# What is asked of a copy

Stores with the same records cannot be told apart by asking. Everything that a verdict rests on —
which entity backs a capability, who is a member of what, who stands where by a permission record,
what is local to what — is read from the entities under their ids. What a store has besides is never
looked at: the serial numbers of handles, the deleted entities that handles still read, and the
counters of sites. So an engine does the same over both, unless a caller appends a checker that
looks at more than records.

## Main definitions

* `Checker.ReadsRecords` — a checker that does not tell stores with the same records apart
* `Engine.SameBooks` — engines that differ in nothing but their watch

## Main results

* `Store.SameRecords.find`, `Store.SameRecords.isLocal`, `Store.SameRecords.sameGroups` — what is
  read by name, by place and by standing
* `Engine.votes_of_sameRecords` — the votes
* `Engine.populate_of_sameRecords`, `Engine.answer_of_sameRecords` — capabilities and answers
* `Engine.SameBooks.answer` — what a watch does not change
-/

namespace WorldAccess

open Std

variable {a b : Store}

/-! ### Looking things up -/

namespace Store

/-- The entities of a store by their ids. -/
def records (s : Store) : ExtTreeMap EntityId Entity := s.live.map fun _ c => c.entity

theorem inSite_eq_records (s : Store) (site : SiteId) :
    s.inSite site = (s.records.toList.filter fun c => c.1.site == site).map Prod.snd := by
  rw [inSite, records, ExtTreeMap.toList_map, List.filter_map, List.map_map]
  rfl

namespace SameRecords

theorem records (h : a.SameRecords b) : b.records = a.records := by
  apply ExtTreeMap.ext_getElem?
  intro id
  have same := h.entities id
  simpa only [Store.records, ExtTreeMap.getElem?_map, entity?] using same

theorem of_records (sites : b.sites = a.sites) (records : b.records = a.records) :
    a.SameRecords b where
  names id := by rw [sites]
  entities id := by
    have same : b.records[id]? = a.records[id]? := by rw [records]
    simpa only [Store.records, ExtTreeMap.getElem?_map, entity?] using same

theorem get? (h : a.SameRecords b) : b.get? = a.get? := by
  funext id
  rw [Store.get?, Store.get?, h.entities]

theorem inSite (h : a.SameRecords b) : b.inSite = a.inSite := by
  funext site
  rw [inSite_eq_records, inSite_eq_records, h.records]

theorem find (h : a.SameRecords b) : b.find = a.find := by
  funext site kind name exact
  rw [Store.find, Store.find, h.inSite]

theorem containerOf (h : a.SameRecords b) : b.containerOf = a.containerOf := by
  funext id
  rw [Store.containerOf, Store.containerOf, h.get?]

theorem isGroup (h : a.SameRecords b) : b.isGroup = a.isGroup := by
  funext id
  rw [Store.isGroup, Store.isGroup, h.get?]

theorem isMember (h : a.SameRecords b) : b.isMember = a.isMember := by
  funext group member
  rw [Store.isMember, Store.isMember, h.get?]

/-- What is read by standing, and what backs a capability. -/
theorem sameGroups (h : a.SameRecords b) : a.SameGroups b where
  isGroup := h.isGroup
  isMember := h.isMember
  resolve := by
    funext site c
    rw [GrantLists.resolve, GrantLists.resolve, h.find, h.get?, h.isGroup]

/-! ### Locality -/

theorem walk (h : a.SameRecords b) (region : EntityId) (depth : Nat) (current : EntityId) :
    b.walk region depth current = a.walk region depth current := by
  -- each step of the walk reads two entities by their ids
  induction depth generalizing current with
  | zero => rfl
  | succ depth ih =>
    rw [Store.walk, Store.walk, h.get?]
    simp only [ih]

theorem isLocal (h : a.SameRecords b) : b.isLocal = a.isLocal := by
  funext depth source target inventory
  have encloses : ∀ region start,
      b.encloses depth region start = a.encloses depth region start := by
    intro region start
    rw [Store.encloses, Store.encloses, h.walk]
  have action : ∀ src tgt, b.isActionLocal depth src tgt inventory =
      a.isActionLocal depth src tgt inventory := by
    intro src tgt
    simp only [isActionLocal, h.get?, encloses]
  have thing : ∀ src tgt, b.isThingLocal depth src tgt inventory =
      a.isThingLocal depth src tgt inventory := by
    intro src tgt
    simp only [isThingLocal, encloses]
  simp only [Store.isLocal, h.get?, action, thing]

theorem isLocalThroughContainer (h : a.SameRecords b) :
    b.isLocalThroughContainer = a.isLocalThroughContainer := by
  funext depth source target inventory
  simp only [Store.isLocalThroughContainer, h.isLocal, h.get?]

end SameRecords

end Store

/-! ### Votes -/

namespace Surroundings

variable {w w' : Surroundings} {s : Session}

/-- Whether checkers see the same records, with the same settings. -/
structure SameRecords (w w' : Surroundings) : Prop where
  store : w.store.SameRecords w'.store
  globalSite : w'.globalSite = w.globalSite
  maxDepth : w'.maxDepth = w.maxDepth

namespace SameRecords

theorem isNear (h : w.SameRecords w') : w'.isNear s = w.isNear s := by
  funext target
  rw [Surroundings.isNear, Surroundings.isNear, h.store.isLocalThroughContainer, h.maxDepth]

theorem basicNear (h : w.SameRecords w') : w'.basicNear s = w.basicNear s := by
  funext target
  rw [Surroundings.basicNear, Surroundings.basicNear, h.isNear]

theorem maySeeName (h : w.SameRecords w') : w'.maySeeName s = w.maySeeName s := by
  funext e
  rw [Surroundings.maySeeName, Surroundings.maySeeName, h.store.sameGroups.administers, h.isNear,
    h.store.sameGroups.mayUse]

end SameRecords

end Surroundings

namespace Checker

/-- Whether a checker does not tell stores with the same records apart. -/
def ReadsRecords (c : Checker) : Prop :=
  ∀ {w w' : Surroundings}, w.SameRecords w' → ∀ (s : Session) (r : Request),
    c.vote w' s r = c.vote w s r

/-- The program's own checkers read nothing but records. -/
theorem readsRecords_of_own {c : Checker} (own : c.isSupplied = false) : c.ReadsRecords := by
  intro w w' h s r
  have groups := h.store.sameGroups
  cases c
  case supplied name opinion => cases own
  -- only the global site is read
  case crossSite => simp only [vote, crossSiteVote, h.globalSite]
  case deleteEntity | getContains | convertIdToName =>
    cases r
    all_goals simp only [vote, groups.mayAdminister, h.isNear, groups.mayUse, h.maySeeName]
  case getEntityField | setEntityField =>
    cases r
    all_goals
      simp only [vote, mayReadField, mayWriteField, h.maySeeName, groups.mayUse, h.basicNear,
        groups.mayAdminister]
  case getApplicationProperty | setApplicationProperty | applicationSecurity | createApplication
      | deleteApplication =>
    cases r
    all_goals
      simp only [vote, groups.sessionPermits, h.basicNear, groups.mayAdministerApplication,
        groups.mayUse]
  case transferEntity | useAction | sendTextRoom =>
    cases r
    all_goals
      simp only [vote, transferVote, useActionVote, sendTextRoomVote, h.store.isLocal, h.maxDepth,
        groups.mayAdminister, groups.permits, h.store.get?, h.store.isMember, h.store.containerOf]
  -- the others do not look at the store
  all_goals cases r <;> rfl

end Checker

/-! ### Capabilities -/

theorem GrantLists.groupsFor_of_sameRecords (h : a.SameRecords b) (g : GrantLists) :
    g.groupsFor b = g.groupsFor a := h.sameGroups.groupsFor g

namespace Engine

theorem populate_of_sameRecords (h : a.SameRecords b) (e : Engine) (s : Session) :
    e.populate b s = e.populate a s := h.sameGroups.populate e s

/-! ### Answers -/

variable {e e' : Engine}

/-- An engine's chains vote alike over stores with the same records. -/
theorem votes_of_sameRecords (h : a.SameRecords b)
    (reads : ∀ extra ∈ e.extras, extra.2.ReadsRecords) (s : Session) (op : Operation)
    (r : Request) : e.votes b s op r = e.votes a s op r := by
  have seen : (e.surroundings a).SameRecords (e.surroundings b) := ⟨h, rfl, rfl⟩
  -- the chain is the same, and its checkers vote one by one
  rw [votes, votes]
  refine List.map_congr_left fun c among => ?_
  rcases isSupplied_or_appended among with own | ⟨extra, appended, rfl⟩
  · exact Checker.readsRecords_of_own own seen s r
  · exact reads extra appended seen s r

theorem evaluate_of_sameRecords (h : a.SameRecords b)
    (reads : ∀ extra ∈ e.extras, extra.2.ReadsRecords) (s : Session) (op : Operation)
    (r : Request) : e.evaluate b s op r = e.evaluate a s op r :=
  h.sameGroups.evaluate e s op rfl fun s' _ => votes_of_sameRecords h reads s' op r

/-- An engine answers alike over stores with the same records, and is the same afterwards. -/
theorem answer_of_sameRecords (h : a.SameRecords b)
    (reads : ∀ extra ∈ e.extras, extra.2.ReadsRecords) (s : Session) (op : Operation)
    (r : Option Request) (raising : Bool) :
    e.answer b s op r raising = e.answer a s op r raising := by
  cases r with
  | none => rfl
  | some r => rw [answer, answer, evaluate_of_sameRecords h reads]

/-- Whether two engines differ in nothing but their watch. -/
structure SameBooks (e e' : Engine) : Prop where
  config : e'.config = e.config
  extras : e'.extras = e.extras
  grants : e'.grants = e.grants
  calls : e'.calls = e.calls

namespace SameBooks

theorem chain (same : e.SameBooks e') : e'.chain = e.chain := by
  funext op
  rw [Engine.chain, Engine.chain, same.config, same.extras]

theorem votes (same : e.SameBooks e') : e'.votes = e.votes := by
  funext store s op r
  rw [Engine.votes, Engine.votes, same.chain, surroundings, surroundings, same.config]

/-- Engines that differ in nothing but their watch resolve capabilities alike. -/
theorem populate (same : e.SameBooks e') (store : Store) (s : Session) :
    (e.populate store s).1.SameBooks (e'.populate store s).1 ∧
      (e'.populate store s).2 = (e.populate store s).2 := by
  have sites : e'.grantSites = e.grantSites := by
    funext s
    rw [grantSites, grantSites, same.config]
  have implicit : e'.isImplicitAdmin = e.isImplicitAdmin := by
    funext s
    rw [isImplicitAdmin, isImplicitAdmin, same.config]
  rw [Engine.populate, Engine.populate, sites, implicit, same.grants]
  by_cases resolved : s.populated = true
  · rw [if_pos resolved, if_pos resolved]
    exact ⟨same, rfl⟩
  · rw [if_neg resolved, if_neg resolved]
    exact ⟨⟨same.config, same.extras, rfl, same.calls⟩, rfl⟩

/-- So they give the same verdicts, and differ in nothing else afterwards. -/
theorem evaluate (same : e.SameBooks e') (store : Store) (s : Session) (op : Operation)
    (r : Request) :
    (e.evaluate store s op r).1.SameBooks (e'.evaluate store s op r).1 ∧
      (e'.evaluate store s op r).2 = (e.evaluate store s op r).2 := by
  obtain ⟨after, found⟩ := same.populate store s
  rw [Engine.evaluate, Engine.evaluate]
  dsimp only
  cases s.decisions.lookup? ⟨op, r.scope⟩ with
  | some verdict => exact ⟨same, rfl⟩
  | none =>
    dsimp only
    rw [found, after.votes, after.chain, after.calls]
    exact ⟨⟨after.config, after.extras, after.grants, rfl⟩, rfl⟩

/-- And so they give the same answers. -/
theorem answer (same : e.SameBooks e') (store : Store) (s : Session) (op : Operation)
    (r : Option Request) (raising : Bool) :
    (e.answer store s op r raising).1.SameBooks (e'.answer store s op r raising).1 ∧
      (e'.answer store s op r raising).2 = (e.answer store s op r raising).2 := by
  cases r with
  | none => exact ⟨same, rfl⟩
  | some r =>
    obtain ⟨after, given⟩ := same.evaluate store s op r
    rw [Engine.answer, Engine.answer]
    -- the answer is made of what the evaluation leaves
    generalize e.evaluate store s op r = found at after given ⊢
    generalize e'.evaluate store s op r = found' at after given ⊢
    obtain ⟨_, session, verdict⟩ := found
    obtain ⟨_, session', verdict'⟩ := found'
    obtain ⟨rfl, rfl⟩ := Prod.mk.inj given
    exact ⟨after, rfl⟩

end SameBooks

end Engine

end WorldAccess
