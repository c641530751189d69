import WorldAccess.Proofs.World.Lists

/-!
# The events mirror the store

Whoever has heard every event of a store that began empty knows what is stored in it: under which
ids, and of which kind each entity is. A creation adds an id, a deletion drops it, and the deletion
of a site drops every id in it. Nothing else is needed, because an edit changes no kind and every
operation announces what it adds and what it takes away, also where it fails halfway. On a bus that
is left to the store the events arrive as they were announced: what has been delivered and what
still waits are together all of them, in order.

## Main definitions

* `Census`, `Census.record` — kinds of entities by their ids, and what an event makes of them
* `Store.census`, `Store.Tells` — the census of a store, and operations whose events keep up with it
* `World.along`, `World.delivered`, `World.pending` — what a run announces, delivers and leaves
* `Command.leavesBus` — neither events from elsewhere nor the end of the bus

## Main results

* `Store.tells_insert`, `tells_create`, `tells_delete`, `tells_deleteSite`, `tells_load`,
  `tells_edit` — every operation keeps the census up
* `World.tells_perform`, `World.tells_run` — so does every command and every run
* `World.pending_perform`, `World.pending_run` — events neither get lost nor change places
* `World.mirrored_run` — the events of a run mirror the store
-/

namespace WorldAccess

open Std

/-! ### The census -/

/-- Kinds of entities by their ids. -/
abbrev Census := ExtTreeMap EntityId Kind

/-- What an event makes of a census. -/
def Census.record (census : Census) : Event → Census
  | .siteDeleted site => census.filter fun id _ => id.site != site
  | .entityChanged change =>
    match change.action with
    | .created => census.insert change.id change.kind
    | .updated => census
    | .deleted => census.erase change.id

namespace Store

variable {s s' s'' : Store} {events events' : List Event}

/-- The kinds of the entities that are stored. -/
def census (s : Store) : Census := s.live.map fun _ c => c.entity.kind

theorem getElem?_census (s : Store) (id : EntityId) : s.census[id]? = s.kind? id := by
  simp only [census, kind?, entity?, ExtTreeMap.getElem?_map, Option.map_map]
  rfl

/-- Whether the events of an operation make the census before it the census after it. -/
def Tells (s s' : Store) (events : List Event) : Prop :=
  events.foldl Census.record s.census = s'.census

theorem Tells.trans (h : s.Tells s' events) (h' : s'.Tells s'' events') :
    s.Tells s'' (events ++ events') := by
  rw [Tells, List.foldl_append, h, h']

/-- Entities are as they were. -/
theorem tells_of_eq (live : s'.live = s.live) : s.Tells s' [] := by
  rw [Tells, census, census, live]
  rfl

/-- One event tells what becomes of each id. -/
theorem tells_of_forall {event : Event}
    (told : ∀ id : EntityId, (s.census.record event)[id]? = (s'.live[id]?).map (·.entity.kind)) :
    s.Tells s' [event] := by
  refine ExtTreeMap.ext_getElem? fun id => (told id).trans ?_
  rw [census, ExtTreeMap.getElem?_map]

/-! ### Each operation -/

theorem tells_registerSite (s : Store) (id : SiteId) (name : String) :
    s.Tells (s.registerSite id name).store (s.registerSite id name).events := by
  unfold registerSite
  split
  · exact tells_of_eq rfl
  · exact tells_of_eq rfl

/-- The deletion of a site drops the ids in it. -/
theorem tells_deleteSite (s : Store) (site : SiteId) :
    s.Tells (s.deleteSite site).store (s.deleteSite site).events := by
  unfold deleteSite
  split
  · refine tells_of_forall fun id => ?_
    -- which ids are dropped does not depend on what is stored under them
    simp only [Census.record, census, ExtTreeMap.getElem?_filter', ExtTreeMap.getElem?_map,
      Option.filter_map]
    rfl
  · exact tells_of_eq rfl

theorem tells_insert (s : Store) (e : Entity) :
    s.Tells (s.insert e).store (s.insert e).events := by
  unfold insert
  split
  · exact tells_of_eq rfl
  · split
    · exact tells_of_eq rfl
    · dsimp only
      split
      · exact tells_of_eq rfl
      · refine tells_of_forall fun id => ?_
        simp only [Event.created, Census.record, census, ExtTreeMap.getElem?_insert,
          ExtTreeMap.getElem?_map]
        split <;> rfl

theorem tells_create (s : Store) (now : Timestamp) (site : SiteId) (kind : Kind) (name : String)
    (owner : EntityId) :
    s.Tells (s.create now site kind name owner).store
      (s.create now site kind name owner).events := by
  unfold create
  split
  · exact tells_of_eq rfl
  next record _ =>
    -- the number is reserved in the site first, which concerns no entity
    let number := max record.nextNumber 1
    let sites := s.sites.insert site { record with nextNumber := number + 1 }
    have reserved : s.Tells { s with sites } [] := tells_of_eq rfl
    exact reserved.trans (tells_insert _ (Entity.fresh now ⟨site, number⟩ kind name owner))

theorem tells_delete (s : Store) (id : EntityId) :
    s.Tells (s.delete id).store (s.delete id).events := by
  unfold delete
  split
  · exact tells_of_eq rfl
  · refine tells_of_forall fun other => ?_
    simp only [Event.deleted, Census.record, census, ExtTreeMap.getElem?_erase,
      ExtTreeMap.getElem?_map]
    split <;> rfl

/-- What has been stored before a failure has been announced. -/
theorem tells_loadEntities (s : Store) (entities : List Entity) :
    s.Tells (s.loadEntities entities).store (s.loadEntities entities).events :=
  loadEntities_keeps (fun _ => tells_of_eq rfl) Tells.trans (fun s e _ => tells_insert s e) s

theorem tells_load (s : Store) (snapshot : Snapshot) :
    s.Tells (s.load snapshot).store (s.load snapshot).events :=
  (tells_of_eq (loadSites_eq s snapshot.sites).1).trans (tells_loadEntities _ snapshot.entities)

/-- An entity that keeps its kind may be put back. -/
theorem census_write {h : Handle} {e : Entity}
    (kind : ∀ c, s.live[h.id]? = some c → c.serial = h.serial → e.kind = c.entity.kind) :
    (s.write h e).census = s.census := by
  unfold write
  split
  next isLive =>
    obtain ⟨c, found, serial⟩ := (Option.any_eq_true _ _).mp isLive
    have same := kind c found (eq_of_beq serial)
    refine ExtTreeMap.ext_getElem? fun id => ?_
    simp only [census, ExtTreeMap.getElem?_map, ExtTreeMap.getElem?_insert]
    split
    next own => rw [← compare_eq_iff_eq.mp own, found, Option.map_some, Option.map_some, same]
    next => rfl
  -- a retired entity is in no census
  next => rfl

/-- An edit changes no kind, and through a handle of a deleted entity it changes nothing that is
stored. -/
theorem tells_edit (s : Store) (now : Timestamp) (h : Handle) (steps : List Draft.Step) :
    s.Tells (s.edit now h steps).store (s.edit now h steps).events := by
  unfold edit
  split
  · exact tells_of_eq rfl
  next e read =>
    have kind := congrArg (·.2.1) (Draft.identity_run (Draft.ofEntity e) now steps)
    dsimp only
    have written : (s.write h ((Draft.ofEntity e).run now steps).1.entity).census = s.census := by
      refine census_write fun c found serial => ?_
      have same : c.entity = e := by simpa [read?, found, serial] using read
      exact same ▸ kind
    split
    · exact written.symm
    · exact written.symm

end Store

/-- An operation on the store keeps the census up. -/
theorem Command.tells_onStore {s : Store} {c : Command} {o : Outcome Unit}
    (h : c.onStore? s = some o) : s.Tells o.store o.events := by
  cases c <;> simp only [onStore?, Option.some.injEq, reduceCtorEq] at h <;> subst h
  case createSite name => exact Store.tells_of_eq rfl
  case registerSite id name => exact s.tells_registerSite id name
  case deleteSite id => exact s.tells_deleteSite id
  case create now site kind name owner => exact s.tells_create now site kind name owner
  case insert e => exact s.tells_insert e
  case delete id => exact s.tells_delete id
  case load snapshot => exact s.tells_load snapshot
  case edit now handle steps => exact s.tells_edit now handle steps

/-- Whether a command leaves the bus to the store: it neither publishes an event of its own nor ends
the bus. -/
def Command.leavesBus : Command → Bool
  | .publish _ | .shutdownBus => false
  | _ => true

namespace World

variable {w : World} {c : Command} {commands : List Command} {config : Config}
  {extras : List (Operation × Checker)}

/-! ### Runs -/

/-- The events that the commands of a run give, one command after the other. -/
def along (w : World) (events : World → Command → List Event) : List Command → List Event
  | [] => []
  | c :: commands => events w c ++ (w.perform c).along events commands

/-- The event that a command delivers. -/
def delivered (w : World) : Command → List Event
  | .deliver => (w.bus.bind Bus.next?).toList
  | _ => []

/-- The events that wait. -/
def pending (w : World) : List Event := (w.bus.map (·.pending)).getD []

theorem tells_perform (w : World) (c : Command) :
    w.store.Tells (w.perform c).store (w.announced c) := by
  cases h : c.onStore? w.store with
  | some o =>
    rw [perform_of_onStore h, announced_of_onStore h]
    exact Command.tells_onStore h
  | none =>
    rw [announced, h]
    exact Store.tells_of_eq (congrArg Store.live (store_perform h))

/-- What a run announces makes the census before it the census after it. -/
theorem tells_run (w : World) (commands : List Command) :
    w.store.Tells (w.run commands).store (w.along announced commands) := by
  induction commands generalizing w with
  | nil => exact Store.tells_of_eq rfl
  | cons c commands ih => exact (tells_perform w c).trans (ih _)

/-- Whether there is a bus, and it runs. -/
def isWired (w : World) : Bool := w.bus.any (·.running)

theorem isWired_iff : w.isWired = true ↔ ∃ b, w.bus = some b ∧ b.running = true :=
  Option.any_eq_true _ _

theorem pending_of_bus {b : Bus Listener} (h : w.bus = some b) : w.pending = b.pending := by
  rw [pending, h]
  rfl

/-- On a running bus what is delivered is taken from the head, and what is announced waits behind
everything else. -/
theorem pending_perform (wired : w.isWired = true) (leaves : c.leavesBus = true) :
    (w.perform c).isWired = true ∧
      w.delivered c ++ (w.perform c).pending = w.pending ++ w.announced c := by
  obtain ⟨b, hb, running⟩ := isWired_iff.mp wired
  rw [isWired_iff, pending_of_bus hb]
  by_cases delivery : c = .deliver
  · subst delivery
    -- the listeners who are called publish nothing
    obtain ⟨still, taken⟩ := Bus.pending_deliver reaction_keeps_adds b (w.engine, {})
    have after : (w.perform .deliver).bus = some (b.deliver reaction (w.engine, {})).1 := by
      simp only [perform, deliver, hb, settle]
    refine ⟨⟨_, after, still.trans running⟩, ?_⟩
    rw [pending_of_bus after, delivered, hb, Option.bind_some, taken]
    exact (List.append_nil _).symm
  · have ending : c ≠ .shutdownBus := by
      rintro rfl
      cases leaves
    obtain ⟨b', after, adds⟩ := adds_perform w c delivery ending b hb
    refine ⟨⟨b', after, adds.running.trans running⟩, ?_⟩
    -- nothing is delivered, and nothing is published that the store does not announce
    have silent : w.delivered c = [] := by
      cases c
      case deliver => exact absurd rfl delivery
      all_goals rfl
    have told : w.published c = w.announced c := by
      cases c
      case publish event => cases leaves
      all_goals rfl
    rw [pending_of_bus after, silent, adds.pending, if_pos running, told]
    rfl

/-- What a run delivers and what it leaves waiting is what waited before and what it announces. -/
theorem pending_run (wired : w.isWired = true) (leave : ∀ c ∈ commands, c.leavesBus = true) :
    w.along delivered commands ++ (w.run commands).pending =
      w.pending ++ w.along announced commands := by
  induction commands generalizing w with
  | nil => exact (List.append_nil _).symm
  | cons c commands ih =>
    obtain ⟨first, later⟩ := List.forall_mem_cons.mp leave
    obtain ⟨still, step⟩ := pending_perform wired first
    calc w.along delivered (c :: commands) ++ ((w.perform c).run commands).pending
      _ = w.delivered c ++ ((w.perform c).along delivered commands ++
            ((w.perform c).run commands).pending) := List.append_assoc _ _ _
      _ = w.delivered c ++ ((w.perform c).pending ++ (w.perform c).along announced commands) := by
        rw [ih still later]
      _ = w.pending ++ w.along announced (c :: commands) := by
        rw [← List.append_assoc, step, List.append_assoc, along]

/-- A new world with a bus is wired, and nothing waits. -/
theorem start_wired (config : Config) (extras : List (Operation × Checker)) :
    (start true config extras).isWired = true ∧ (start true config extras).pending = [] := by
  obtain ⟨b, after, adds⟩ := adds_startEngine { bus := some {} } config extras {} rfl
  have bus : (start true config extras).bus = some b := after
  exact ⟨isWired_iff.mpr ⟨b, bus, adds.running⟩, (pending_of_bus bus).trans adds.pending⟩

/-- The events of a run mirror the store. Whatever happens to a new world, the events that the store
announces make an empty census the census of what is stored in the end: under each id the kind of
the entity there, and nothing where nothing is stored. And as long as nobody else publishes events
or ends the bus, the events that have been delivered and those that still wait are the announced
ones, in order. -/
theorem mirrored_run (config : Config) (extras : List (Operation × Checker))
    (commands : List Command) :
    let w₀ := start true config extras
    let w := w₀.run commands
    (∀ id : EntityId,
        ((w₀.along announced commands).foldl Census.record ∅)[id]? = w.store.kind? id) ∧
      ((∀ c ∈ commands, c.leavesBus = true) →
        w₀.along delivered commands ++ w.pending = w₀.along announced commands) := by
  intro w₀ w
  obtain ⟨wired, quiet⟩ := start_wired config extras
  refine ⟨fun id => ?_, fun leave => ?_⟩
  · have empty : w₀.store.census = ∅ := rfl
    have told := tells_run w₀ commands
    rw [Store.Tells, empty] at told
    rw [told, Store.getElem?_census]
  · rw [pending_run wired leave, quiet]
    rfl

/-- A run in which an entity is edited, deleted and edited again through its old handle, the loading
of a snapshot fails halfway, and a site is deleted. Only the first two events are delivered. -/
def clearedRun : List Command :=
  [.registerSite 2 "main", .registerSite 3 "annex", .create .epoch 2 .room "hall" .none,
    .create .epoch 3 .room "shed" .none, .deliver,
    .edit .epoch ⟨⟨2, 1⟩, 0⟩ [.edit (.setName "foyer")], .delete ⟨2, 1⟩,
    .edit .epoch ⟨⟨2, 1⟩, 0⟩ [.edit (.setName "lobby")],
    .load ⟨[], [.fresh .epoch ⟨2, 5⟩ .thing "lamp" .none, .fresh .epoch ⟨2, 5⟩ .room "loft" .none,
      .fresh .epoch ⟨2, 6⟩ .room "attic" .none]⟩,
    .deleteSite 3, .deliver]

theorem mirrored_run_clearedRun :
    let w := (start true {} []).run clearedRun
    let heard := (start true {} []).along delivered clearedRun
    heard = [.created ⟨2, 1⟩ .room, .created ⟨3, 1⟩ .room] ∧ w.pending.length = 5 ∧
      (∀ id : EntityId,
        ((heard ++ w.pending).foldl Census.record ∅)[id]? = w.store.kind? id) ∧
      w.store.kind? ⟨2, 5⟩ = some .thing ∧ w.store.size = 1 := by
  intro w heard
  obtain ⟨mirrored, arrived⟩ := mirrored_run {} [] clearedRun
  refine ⟨by decide +kernel, by decide +kernel, fun id => ?_, by decide +kernel, by decide +kernel⟩
  rw [arrived (by decide +kernel)]
  exact mirrored id

end World

end WorldAccess
