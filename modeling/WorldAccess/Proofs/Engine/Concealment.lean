import WorldAccess.Proofs.Engine.Copies
import WorldAccess.Proofs.Engine.SameGroups

/-!
# What an engine overlooks

Nothing that verdicts are blind to can tell two stores apart. To say what a verdict is blind to, it
is *hidden*: overwritten with one and the same value in every entity that is stored and in every
entity of the request. A checker overlooks what is hidden if it votes as before. If the checkers of
an operation do, and no others are appended, then the engine answers as before; and it answers alike
over two stores that are the same once the thing is hidden.

## Main definitions

* `Entity.Spares` — hiding leaves alone what capabilities rest on
* `Store.conceal`, `Request.conceal`, `Surroundings.conceal`
* `Engine.AppendsNothing` — every chain is the one that an operation has by default
* `Operation.Overlooks` — the checkers of an operation are blind to what is hidden
* `SameBut` — stores and requests that are the same once something is hidden

## Main results

* `Store.sameGroups_conceal` — hiding leaves groups, their members and capabilities as they are
* `Store.isLocalThroughContainer_conceal` — and, if containers are spared, what is near
* `Engine.answer_conceal` — an engine answers as before what is hidden from it
* `SameBut.answer` — and alike over stores that are the same but for what is hidden
-/

namespace WorldAccess

open Std

variable {hide : Entity → Entity} {s : Session} {store a b : Store} {op : Operation}

/-! ### Hiding -/

/-- Whether hiding leaves an entity what it is found by, and its members. -/
structure Entity.Spares (hide : Entity → Entity) : Prop where
  id : ∀ e, (hide e).id = e.id
  kind : ∀ e, (hide e).kind = e.kind
  name : ∀ e, (hide e).name = e.name
  deleted : ∀ e, (hide e).deleted = e.deleted
  group : ∀ e, (hide e).group = e.group

/-- A store with something hidden in every stored entity. -/
def Store.conceal (hide : Entity → Entity) (s : Store) : Store :=
  { s with live := s.live.map fun _ c => { c with entity := hide c.entity } }

/-- A request with something hidden in its entities. -/
def Request.conceal (hide : Entity → Entity) : Request → Request
  | global => global
  | kind k => kind k
  | target e => target (hide e)
  | application e name => application (hide e) name
  | field e f => field (hide e) f
  | transfer e source => transfer (hide e) (hide source)

/-- What checkers see, with something hidden in every stored entity. -/
def Surroundings.conceal (hide : Entity → Entity) (w : Surroundings) : Surroundings :=
  { w with store := w.store.conceal hide }

namespace Store

theorem get?_conceal (hide : Entity → Entity) (s : Store) (id : EntityId) :
    (s.conceal hide).get? id = (s.get? id).map hide := by
  have entity : (s.conceal hide).entity? id = (s.entity? id).map hide := by
    rw [entity?, entity?, conceal, ExtTreeMap.getElem?_map, Option.map_map, Option.map_map]
    rfl
  rw [get?, get?, entity]
  split <;> rfl

theorem containerOf_conceal (hide : Entity → Entity)
    (container : ∀ e, (hide e).container = e.container) (s : Store) :
    (s.conceal hide).containerOf = s.containerOf := by
  funext id
  simp only [containerOf, get?_conceal, Option.map_map, Function.comp_def, container]

theorem inSite_conceal (hide : Entity → Entity) (s : Store) (site : SiteId) :
    (s.conceal hide).inSite site = (s.inSite site).map hide := by
  rw [inSite, inSite, conceal, ExtTreeMap.toList_map, List.filter_map, List.map_map, List.map_map]
  rfl

variable (spares : Entity.Spares hide)

include spares

theorem isGroup_conceal (s : Store) : (s.conceal hide).isGroup = s.isGroup := by
  funext id
  simp only [isGroup, get?_conceal, Option.any_map, spares.kind]

theorem isMember_conceal (s : Store) : (s.conceal hide).isMember = s.isMember := by
  funext group member
  simp only [isMember, get?_conceal, Option.any_map, Entity.hasMember, spares.group]

theorem find_conceal (s : Store) : (s.conceal hide).find = s.find := by
  funext site kind name exact
  simp only [find, inSite_conceal, List.filter_map, List.map_map, Function.comp_def, spares.id,
    spares.kind, nameHit, spares.name, spares.deleted]

/-- Hiding leaves groups, their members and what backs a capability as they are. -/
theorem sameGroups_conceal (s : Store) : s.SameGroups (s.conceal hide) where
  isGroup := isGroup_conceal spares s
  isMember := isMember_conceal spares s
  resolve := by
    funext site c
    rw [GrantLists.resolve, GrantLists.resolve, find_conceal spares, isGroup_conceal spares]
    split
    next backing found =>
      -- the backing entity is read for its members
      rw [get?_conceal]
      cases s.get? backing with
      | none => rfl
      | some e => simp only [Option.map_some, spares.group]
    next => rfl

/-! ### Locality -/

variable (container : ∀ e, (hide e).container = e.container)

include container

theorem walk_conceal (s : Store) (region : EntityId) (depth : Nat) (current : EntityId) :
    (s.conceal hide).walk region depth current = s.walk region depth current := by
  -- a step reads the container of one entity and the kind of another
  induction depth generalizing current with
  | zero => rfl
  | succ depth ih =>
    rw [walk, walk, get?_conceal]
    cases s.get? current with
    | none => rfl
    | some e =>
      simp only [Option.map_some, container, get?_conceal, ih]
      cases s.get? e.container with
      | none => rfl
      | some parent => simp only [Option.map_some, spares.kind]

theorem isActionLocal_conceal (s : Store) (depth : Nat) (source action : Entity)
    (inventory : Bool) :
    (s.conceal hide).isActionLocal depth (hide source) (hide action) inventory =
      s.isActionLocal depth source action inventory := by
  simp only [isActionLocal, encloses, walk_conceal spares container, container, spares.id,
    get?_conceal]
  cases s.get? action.container with
  | none => rfl
  | some holder => simp only [Option.map_some, container, spares.kind, spares.id]

theorem isThingLocal_conceal (s : Store) (depth : Nat) (source target : Entity)
    (inventory : Bool) :
    (s.conceal hide).isThingLocal depth (hide source) (hide target) inventory =
      s.isThingLocal depth source target inventory := by
  simp only [isThingLocal, encloses, walk_conceal spares container, container, spares.id,
    spares.kind]

theorem isLocal_conceal (s : Store) : (s.conceal hide).isLocal = s.isLocal := by
  funext depth source target inventory
  rw [isLocal, isLocal, get?_conceal, get?_conceal]
  cases s.get? source with
  | none => rfl
  | some src =>
    cases s.get? target with
    | none => rfl
    | some tgt =>
      simp only [Option.map_some, spares.id, spares.kind, container,
        isActionLocal_conceal spares container, isThingLocal_conceal spares container]

theorem isLocalThroughContainer_conceal (s : Store) :
    (s.conceal hide).isLocalThroughContainer = s.isLocalThroughContainer := by
  funext depth source target inventory
  rw [isLocalThroughContainer, isLocalThroughContainer, get?_conceal,
    isLocal_conceal spares container]
  cases s.get? target with
  | none => rfl
  | some tgt => simp only [Option.map_some, spares.kind, container]

end Store

theorem Surroundings.isNear_conceal (spares : Entity.Spares hide)
    (container : ∀ e, (hide e).container = e.container) (w : Surroundings) (s : Session) :
    (w.conceal hide).isNear s = w.isNear s := by
  funext target
  rw [isNear, isNear, conceal, Store.isLocalThroughContainer_conceal spares container]

/-! ### The two leading checkers -/

namespace Request

theorem entities_conceal (hide : Entity → Entity) (r : Request) :
    (r.conceal hide).entities = r.entities.map hide := by
  cases r <;> rfl

theorem scope_conceal (spares : Entity.Spares hide) (r : Request) :
    (r.conceal hide).scope = r.scope := by
  cases r <;> simp only [conceal, scope, spares.id]

end Request

namespace Checker

theorem crossSiteVote_conceal (spares : Entity.Spares hide) (w : Surroundings) (s : Session)
    (r : Request) : crossSiteVote (w.conceal hide) s (r.conceal hide) = crossSiteVote w s r := by
  simp only [crossSiteVote, Request.entities_conceal, List.any_map, Function.comp_def, spares.id]
  rfl

theorem adminVote_conceal (spares : Entity.Spares hide) (s : Session) (r : Request) :
    adminVote s (r.conceal hide) = adminVote s r := by
  simp only [adminVote, Request.entities_conceal, List.all_map, Function.comp_def, spares.id]

/-- Using an action hangs on the lock and on the user's properties, besides the record. -/
theorem useActionVote_conceal (spares : Entity.Spares hide) {w : Surroundings} {e : Entity}
    (lock : (hide e).lock = e.lock) (property : ∀ user, (hide user).property? = user.property?)
    (permitted :
      w.store.permits (hide e).owner (hide e).permissions .read s.requester none .counts =
        w.store.permits e.owner e.permissions .read s.requester none .counts) :
    useActionVote (w.conceal hide) s (hide e) = useActionVote w s e := by
  have groups := Store.sameGroups_conceal spares w.store
  have opens : ∀ user isMember, e.lock.opensFor (hide user) isMember =
      e.lock.opensFor user isMember := by
    intro user isMember
    simp only [Lock.opensFor, spares.id, property]
  simp only [useActionVote, Surroundings.conceal, groups.permits, permitted, lock, spares.kind,
    groups.isMember, Store.get?_conceal]
  cases w.store.get? s.requester with
  | none => rfl
  | some user => simp only [Option.map_some, opens]

end Checker

/-! ### Answers -/

/-- Whether the chains of an engine are those that operations have by default: neither a caller nor
the configuration appends a checker. -/
structure Engine.AppendsNothing (e : Engine) : Prop where
  extras : e.extras = []
  appended : ∀ op, e.config.appended op = []

/-- Whether the checkers of an operation's own are blind to what is hidden. -/
def Operation.Overlooks (op : Operation) (hide : Entity → Entity) (w : Surroundings) (s : Session)
    (r : Request) : Prop :=
  ∀ c ∈ op.builtin, c.vote (w.conceal hide) s (r.conceal hide) = c.vote w s r

namespace Engine

variable {e : Engine}

theorem AppendsNothing.chain (plain : e.AppendsNothing) (op : Operation) :
    e.chain op = Checker.leading ++ op.builtin := by
  rw [Engine.chain, Operation.chain, plain.appended, plain.extras, List.append_nil]
  exact List.append_nil _

/-- An engine whose configuration has no keys, and that no caller appends to. -/
theorem appendsNothing_of_empty (extras : e.extras = []) (keys : e.config.extraCheckers = ∅) :
    e.AppendsNothing where
  extras := extras
  appended op := by
    rw [Config.appended, keys]
    rfl

/-- A default chain votes alike if its two leading checkers and the operation's own do. -/
theorem AppendsNothing.votes_congr (plain : e.AppendsNothing) {s' : Session} {r r' : Request}
    (crossSite : Checker.crossSiteVote (e.surroundings b) s' r' =
      Checker.crossSiteVote (e.surroundings a) s r)
    (admin : Checker.adminVote s' r' = Checker.adminVote s r)
    (own : ∀ c ∈ op.builtin,
      c.vote (e.surroundings b) s' r' = c.vote (e.surroundings a) s r) :
    e.votes b s' op r' = e.votes a s op r := by
  rw [votes, votes, plain.chain]
  refine List.map_congr_left fun c among => ?_
  rcases List.mem_append.mp among with leading | builtin
  · rcases List.mem_cons.mp leading with rfl | last
    · exact crossSite
    · obtain rfl := List.mem_singleton.mp last
      exact admin
  · exact own c builtin

/-- An engine with default chains answers as before what is hidden from it. -/
theorem answer_conceal (plain : e.AppendsNothing) (spares : Entity.Spares hide)
    {r : Option Request}
    (blind : ∀ x ∈ r, ∀ s', s.Resolved s' → op.Overlooks hide (e.surroundings store) s' x)
    (raising : Bool) :
    e.answer (store.conceal hide) s op (r.map (Request.conceal hide)) raising =
      e.answer store s op r raising := by
  cases r with
  | none => rfl
  | some r =>
    have evaluated : e.evaluate (store.conceal hide) s op (r.conceal hide) =
        e.evaluate store s op r := by
      -- the session is found to hold the same, so that the votes are all that is left
      apply (Store.sameGroups_conceal spares store).evaluate e s op (r.scope_conceal spares)
      intro s' resolved
      exact plain.votes_congr (Checker.crossSiteVote_conceal spares (e.surroundings store) s' r)
        (Checker.adminVote_conceal spares s' r) (blind r rfl s' resolved)
    rw [Option.map_some, answer, answer, evaluated, r.scope_conceal spares]

end Engine

/-! ### Two stores -/

/-- Whether two stores and a request on each are the same once something is hidden. -/
structure SameBut (hide : Entity → Entity) (a b : Store) (r r' : Option Request) : Prop where
  store : (a.conceal hide).SameRecords (b.conceal hide)
  request : r'.map (Request.conceal hide) = r.map (Request.conceal hide)

/-- What is near is the same over stores that differ in something else than containers. -/
theorem SameBut.isNear {r r' : Option Request} (same : SameBut hide a b r r')
    (spares : Entity.Spares hide) (container : ∀ e, (hide e).container = e.container) (e : Engine) :
    (e.surroundings b).isNear s = (e.surroundings a).isNear s := by
  have seen : ((e.surroundings a).conceal hide).SameRecords ((e.surroundings b).conceal hide) :=
    ⟨same.store, rfl, rfl⟩
  rw [← Surroundings.isNear_conceal spares container, seen.isNear,
    Surroundings.isNear_conceal spares container]

/-- What is so of the first request is so of the second, if hiding does not change it. -/
theorem SameBut.forall_mem {r r' : Option Request} (same : SameBut hide a b r r')
    {p : Request → Bool} (concealed : ∀ x, p (x.conceal hide) = p x) {v : Bool}
    (holds : ∀ x ∈ r, p x = v) : ∀ x ∈ r', p x = v := by
  rintro x' rfl
  obtain ⟨x, rfl, alike⟩ := Option.map_eq_some_iff.mp same.request.symm
  rw [← concealed, ← alike, concealed]
  exact holds x rfl

/-- An engine with default chains answers alike over stores that are the same but for something that
it is blind to over each. -/
theorem SameBut.answer {r r' : Option Request} (same : SameBut hide a b r r') {e : Engine}
    (plain : e.AppendsNothing) (spares : Entity.Spares hide)
    (blind : ∀ x ∈ r, ∀ s', s.Resolved s' → op.Overlooks hide (e.surroundings a) s' x)
    (blind' : ∀ x ∈ r', ∀ s', s.Resolved s' → op.Overlooks hide (e.surroundings b) s' x)
    (raising : Bool) : e.answer b s op r' raising = e.answer a s op r raising := by
  have unread : ∀ extra ∈ e.extras, extra.2.ReadsRecords := by simp [plain.extras]
  calc e.answer b s op r' raising
    _ = e.answer (b.conceal hide) s op (r'.map (Request.conceal hide)) raising :=
      (Engine.answer_conceal plain spares blind' raising).symm
    _ = e.answer (a.conceal hide) s op (r.map (Request.conceal hide)) raising := by
      rw [same.request, Engine.answer_of_sameRecords same.store unread]
    _ = e.answer a s op r raising := Engine.answer_conceal plain spares blind raising

end WorldAccess
