import WorldAccess.Proofs.Engine.Grants
import WorldAccess.Proofs.Event.Queue
import WorldAccess.World.Command

/-!
# What one command does to the store and the queue

A command is an operation on the store, or it leaves the store alone. And it takes at most the head
off the queue, unless it shuts the bus down. What holds of the store in every run is derived from
this.

## Main definitions

* `Command.onStore?`, `World.announced` — the operation on the store, and what it announces
* `Command.KeepsChanges` — an edit whose changes are not taken away before they are announced
* `World.queue`, `World.published`, `World.Adds` — what waits, and what comes to wait

## Main results

* `World.moves_perform`, `World.Reachable.wellFormed` — the store
* `World.adds_perform`, `World.mem_queue_announced` — the queue
* `World.engine_deliver`, `World.engine_drain` — the engine, when messages are delivered
-/

namespace WorldAccess

open Std

/-! ### Operations on the store -/

/-- An outcome without its answer. -/
def Outcome.mute {α : Type} (o : Outcome α) : Outcome Unit := { o with result := () }

/-- The operation on the store that a command is. -/
def Command.onStore? (s : Store) : Command → Option (Outcome Unit)
  | .createSite name => some (s.createSite name).mute
  | .registerSite id name => some (s.registerSite id name).mute
  | .deleteSite id => some (s.deleteSite id).mute
  | .create now site kind name owner => some (s.create now site kind name owner).mute
  | .insert e => some (s.insert e).mute
  | .delete id => some (s.delete id).mute
  | .load snapshot => some (s.load snapshot).mute
  | .edit now h steps => some (s.edit now h steps).mute
  | _ => none

/-- Whether a command, if it is an edit, leaves the changes of its draft to be announced. -/
def Command.KeepsChanges : Command → Prop
  | .edit _ _ steps => .takeChanges ∉ steps
  | _ => True

/-- An operation on the store moves it. -/
theorem Command.moves_onStore {s : Store} {c : Command} {o : Outcome Unit}
    (h : c.onStore? s = some o) : s.Moves o.store o.events c.KeepsChanges := by
  cases c <;> simp only [onStore?, Option.some.injEq, reduceCtorEq] at h <;> subst h
  case createSite name => exact s.moves_createSite name
  case registerSite id name => exact s.moves_registerSite id name
  case deleteSite id => exact s.moves_deleteSite id
  case create now site kind name owner => exact s.moves_create now site kind name owner
  case insert e => exact s.moves_insert e
  case delete id => exact s.moves_delete id
  case load snapshot => exact s.moves_load snapshot
  case edit now handle steps => exact s.moves_edit now handle steps

namespace World

variable {w : World} {c : Command} {site : SiteId} {cap : Capability} {head : EntityId}
  {tail : List EntityId}

/-- What a command announces of the store. -/
def announced (w : World) (c : Command) : List Event :=
  ((c.onStore? w.store).map (·.events)).getD []

theorem perform_of_onStore {o : Outcome Unit} (h : c.onStore? w.store = some o) :
    w.perform c = w.commit o := by
  cases c <;> simp only [Command.onStore?, Option.some.injEq, reduceCtorEq] at h <;> subst h <;> rfl

theorem announced_of_onStore {o : Outcome Unit} (h : c.onStore? w.store = some o) :
    w.announced c = o.events := by
  rw [announced, h]
  rfl

@[simp] theorem store_forget {α : Type} (w : World) (clear : GrantLists → GrantLists × α) :
    (w.forget clear).1.store = w.store := by
  unfold forget
  split <;> rfl

@[simp] theorem store_onSession (w : World) (name : String) (f : Session → Session) :
    (w.onSession name f).store = w.store := by
  unfold onSession
  split <;> rfl

@[simp] theorem store_deliver (w : World) : w.deliver.1.store = w.store := by
  unfold deliver
  split <;> rfl

@[simp] theorem store_drain (w : World) : w.drain.1.store = w.store := by
  unfold drain
  split <;> rfl

@[simp] theorem store_check (w : World) (name : String) (op : Operation) (r : Option Request)
    (raising : Bool) : (w.check name op r raising).1.store = w.store := by
  unfold check
  split <;> rfl

@[simp] theorem store_populate (w : World) (name : String) :
    (w.populate name).store = w.store := by
  unfold populate
  split <;> rfl

@[simp] theorem store_groupsFor (w : World) (site : SiteId) (cap : Capability) :
    (w.groupsFor site cap).1.store = w.store := by
  unfold groupsFor
  split <;> rfl

@[simp] theorem store_shutdownEngine (w : World) : w.shutdownEngine.store = w.store := by
  unfold shutdownEngine
  split <;> rfl

/-- A command that is no operation on the store leaves it alone. -/
theorem store_perform (h : c.onStore? w.store = none) : (w.perform c).store = w.store := by
  cases c <;> simp only [Command.onStore?, reduceCtorEq] at h
  case forgetEntity id => exact store_forget w _
  case forgetSite id => exact store_forget w _
  case resetSession name => exact store_onSession w name _
  case setRunAs name value => exact store_onSession w name _
  case deliver => exact store_deliver w
  case shutdownBus => exact store_drain w
  case check name op r raising => exact store_check w name op r raising
  case populate name => exact store_populate w name
  case groupsFor site cap => exact store_groupsFor w site cap
  case shutdownEngine => exact store_shutdownEngine w
  all_goals rfl

/-- Every command moves the store. -/
theorem moves_perform (w : World) (c : Command) :
    w.store.Moves (w.perform c).store (w.announced c) c.KeepsChanges := by
  cases h : c.onStore? w.store with
  | none =>
    have same := store_perform h
    exact Store.moves_of_eq (by rw [same]) (by rw [same])
  | some o =>
    rw [perform_of_onStore h, announced_of_onStore h]
    exact Command.moves_onStore h

theorem wellFormed_perform (wf : w.store.WellFormed) (c : Command) :
    (w.perform c).store.WellFormed := wf.of_moves (moves_perform w c)

theorem Reachable.wellFormed (h : w.Reachable) : w.store.WellFormed :=
  h.induction (P := fun w => w.store.WellFormed) (fun _ _ _ => Store.wellFormed_empty)
    fun _ c h => wellFormed_perform h c

/-! ### The queue -/

/-- What waits to be delivered. -/
def queue (w : World) : List (Message Listener) := (w.bus.map (·.queue)).getD []

/-- What a command publishes: what it announces of the store, or an event published by hand. -/
def published (w : World) : Command → List Event
  | .publish event => [event]
  | c => w.announced c

theorem published_of_onStore {o : Outcome Unit} (h : c.onStore? w.store = some o) :
    w.published c = o.events := by
  have told := announced_of_onStore h
  cases c
  case publish event => cases h
  all_goals exact told

/-- The bus of a world has come from the bus of another by the publication of events. -/
def Adds (w w' : World) (events : List Event) : Prop :=
  ∀ b, w.bus = some b → ∃ b', w'.bus = some b' ∧ b.Adds b' events

theorem adds_of_eq {w' : World} (h : w'.bus = w.bus) : w.Adds w' [] :=
  fun b hb => ⟨b, h.trans hb, .refl b⟩

theorem adds_onBus {f : Bus Listener → Bus Listener} {events : List Event}
    (adds : ∀ b : Bus Listener, b.Adds (f b) events) (w : World) : w.Adds (w.onBus f) events :=
  fun b hb => ⟨f b, by simp [onBus, hb], adds b⟩

theorem adds_commit {α : Type} (w : World) (o : Outcome α) : w.Adds (w.commit o) o.events :=
  fun b hb => ⟨b.publishAll o.events, by simp [commit, hb], b.adds_publishAll o.events⟩

theorem adds_unregister (watch : Watch) (b : Bus Listener) :
    b.Adds (watch.unregister b).2 [] :=
  Bus.adds_foldl Bus.adds_unsubscribe watch.ids b

theorem adds_register (b : Bus Listener) : b.Adds (Watch.register b .engine).2 [] :=
  (b.adds_subscribe Watch.membership .engine).trans
    (Bus.adds_subscribe (b.subscribe Watch.membership .engine).1 .siteDeleted .engine)

theorem adds_shutdown (e : Engine) (b : Bus Listener) :
    ∃ b', (e.shutdown (some b)).2 = some b' ∧ b.Adds b' [] := by
  unfold Engine.shutdown
  cases e.watch with
  | none => exact ⟨b, rfl, .refl b⟩
  | some watch => exact ⟨_, rfl, adds_unregister watch b⟩

theorem adds_shutdownEngine (w : World) : w.Adds w.shutdownEngine [] := by
  intro b hb
  unfold shutdownEngine
  cases w.engine with
  | none => exact ⟨b, hb, .refl b⟩
  | some e =>
    rw [hb]
    exact adds_shutdown e b

theorem adds_startEngine (w : World) (config : Config) (extras : List (Operation × Checker)) :
    w.Adds (w.startEngine config extras) [] := by
  intro b hb
  cases hw : w.engine with
  | none =>
    refine ⟨(Watch.register b .engine).2, ?_, adds_register b⟩
    simp only [startEngine, hw, hb]
    rfl
  | some e =>
    -- the engine before gives its subscriptions up first
    obtain ⟨b', stopped, adds⟩ := adds_shutdown e b
    refine ⟨(Watch.register b' .engine).2, ?_, adds.trans (adds_register b')⟩
    simp only [startEngine, hw, hb, stopped]
    rfl

/-- Every command but a delivery and the end of the bus adds to the queue what it publishes. -/
theorem adds_perform (w : World) (c : Command) (delivery : c ≠ .deliver)
    (ending : c ≠ .shutdownBus) : w.Adds (w.perform c) (w.published c) := by
  cases h : c.onStore? w.store with
  | some o =>
    rw [perform_of_onStore h, published_of_onStore h]
    exact adds_commit w o
  | none =>
    -- what is left besides the two commands acts on the bus or has nothing to do with it
    cases c <;> simp only [Command.onStore?, reduceCtorEq, ne_eq, not_true] at h delivery ending
    case subscribe interest l => exact adds_onBus (fun b => b.adds_subscribe interest l) w
    case unsubscribe id => exact adds_onBus (fun b => b.adds_unsubscribe id) w
    case forceRemove id => exact adds_onBus (fun b => b.adds_forceRemove id) w
    case publish event => exact adds_onBus (fun b => b.adds_publish event) w
    case startEngine config extras => exact adds_startEngine w config extras
    case shutdownEngine => exact adds_shutdownEngine w
    all_goals refine adds_of_eq ?_
    case forgetEntity | forgetSite => simp only [perform, forget]; split <;> rfl
    case resetSession | setRunAs => simp only [perform, onSession]; split <;> rfl
    case check => simp only [perform, check]; split <;> rfl
    case populate => simp only [perform, populate]; split <;> rfl
    case groupsFor => simp only [perform, groupsFor]; split <;> rfl
    all_goals rfl

/-- What is announced on a running bus waits in its queue. -/
theorem mem_queue_announced {b : Bus Listener} (hb : w.bus = some b) (running : b.running = true)
    {event : Event} (h : event ∈ w.announced c) : .event event ∈ (w.perform c).queue := by
  cases hs : c.onStore? w.store with
  | none => simp [announced, hs] at h
  | some o =>
    rw [announced_of_onStore hs] at h
    rw [perform_of_onStore hs]
    simpa [queue, commit, hb] using (b.adds_publishAll o.events).mem_queue running h

/-! ### The engine -/

section Deliveries

variable {R : Option Engine → Option Engine → Prop}

/-- What listeners keep to about the engine in each call, a delivery keeps to. -/
theorem engine_deliver (keeps : reaction.Keeps fun (a b : Bus Listener × Audience) => R a.2.1 b.2.1)
    (w : World) : R w.engine w.deliver.1.engine := by
  unfold deliver
  split
  · exact keeps.refl ({}, w.engine, {})
  next b _ => exact Bus.deliver_keeps (R := fun a b => R a.1 b.1) keeps b (w.engine, {})

theorem engine_drain (keeps : reaction.Keeps fun (a b : Bus Listener × Audience) => R a.2.1 b.2.1)
    (w : World) : R w.engine w.drain.1.engine := by
  unfold drain
  split
  · exact keeps.refl ({}, w.engine, {})
  next b _ =>
    exact Bus.deliverMany_keeps (R := fun a b => R a.1 b.1) keeps b.queue.length b (w.engine, {})

end Deliveries

end World

end WorldAccess
