import WorldAccess.Proofs.Engine.Upkeep
import WorldAccess.Proofs.Event.Delivery
import WorldAccess.Proofs.World.Steps

/-!
# The engine keeps its subscriptions

The engine of a world watches the store through two subscriptions. Whatever is done to the bus by
others, a subscription that the bus takes from the engine is replaced when its notice is delivered.
So once nothing waits, the engine has its two subscriptions. When it stops watching, it gives up the
subscriptions that it has; for those that the bus has taken from it no others are taken up, although
their notices still wait.

## Main definitions

* `World.watch?`, `World.watchIds`, `World.subscription?` — the watch, and what it stands for
* `World.acts` — what a command does to the bus
* `World.listeners` — who is called, by what they do to the bus
* `World.DeliveryFate` — what a delivery does to the bus and the watch
* `World.sparesWatch`, `World.sparesWatchAlong` — the engine's subscriptions are left to it
* `World.Tended`, `World.Released` — the watch is kept up, or nothing is left of it

## Main results

* `World.listeners_reaction` — deliveries in a world are deliveries to listeners that act
* `World.bus_perform`, `World.deliveryFate` — what a command does, as far as the watch goes
* `World.Tended.perform`, `World.Released.perform` — what a command keeps
* `World.watch_recovers` — the watch recovers, and gives its subscriptions up for good
-/

namespace WorldAccess

open Std

/-- What a listener does to the bus when it is called for an event: one kind leaves. -/
def Listener.parting (l : Listener) (id : SubscriptionId) : List (Act Listener) :=
  if l = .observerOnce then [.unsubscribe id] else []

namespace Engine

theorem watch_populate (e : Engine) (store : Store) (s : Session) :
    (e.populate store s).1.watch = e.watch := by
  unfold populate
  split <;> rfl

theorem watch_answer (e : Engine) (store : Store) (s : Session) (op : Operation)
    (r : Option Request) (raising : Bool) : (e.answer store s op r raising).1.watch = e.watch := by
  cases r with
  | none => rfl
  | some r =>
    simp only [answer, evaluate]
    split
    · rfl
    · exact watch_populate e store s

end Engine

namespace World

variable {w w' : World} {c : Command} {b : Bus Listener} {id : SubscriptionId}

/-- The watch of the engine, if there is one. -/
def watch? (w : World) : Option Watch := w.engine.bind (·.watch)

/-- The subscriptions of the engine's watch, lowest first. -/
def watchIds (w : World) : List SubscriptionId := (w.watch?.map Watch.ids).getD []

/-- The interest under which the engine's watch knows a subscription. -/
def interest? (w : World) (id : SubscriptionId) : Option Interest := w.watch?.bind (·.entries[id]?)

/-- The subscription of a number, if it is in force. -/
def subscription? (w : World) (id : SubscriptionId) : Option (Subscription Listener) :=
  w.bus.bind (·.subscriptions[id]?)

theorem mem_watchIds : id ∈ w.watchIds ↔ (w.interest? id).isSome = true := by
  unfold watchIds interest?
  cases w.watch? with
  | none => simp
  | some watch => exact ExtTreeMap.mem_keys.trans ExtTreeMap.isSome_getElem?_iff_mem.symm

theorem interest?_congr (same : w'.watch? = w.watch?) (id : SubscriptionId) :
    w'.interest? id = w.interest? id := by
  rw [interest?, same, interest?]

/-- A replaced entry is known under its new number. -/
theorem interest?_of_replaced {watch : Watch} {next : SubscriptionId} {interest : Interest}
    (known : w.watch? = some watch) (watch' : w'.watch? = some (watch.replaced id next interest))
    (other : SubscriptionId) : w'.interest? other =
      if next = other then some interest
      else if id = other then none
      else w.interest? other := by
  rw [interest?, watch', Option.bind_some, Watch.getElem?_replaced, interest?, known,
    Option.bind_some]

/-! ### What commands do to the bus -/

/-- Whether a command is no delivery, ends nothing and leaves the engine in its place. -/
def isPlain : Command → Bool
  | .deliver | .shutdownBus | .startEngine _ _ | .shutdownEngine => false
  | _ => true

/-- What a plain command does to the bus. -/
def acts (w : World) : Command → List (Act Listener)
  | .subscribe interest l => [.subscribe interest l]
  | .unsubscribe id => [.unsubscribe id]
  | .forceRemove id => [.forceRemove id]
  | c => (w.published c).map .publish

theorem acts_of_onStore {o : Outcome Unit} (h : c.onStore? w.store = some o) :
    w.acts c = o.events.map .publish := by
  have told := published_of_onStore h
  cases c
  case subscribe interest l => cases h
  case unsubscribe id => cases h
  case forceRemove id => cases h
  all_goals
    rw [← told]
    rfl

theorem bus_perform (plain : isPlain c = true) (hb : w.bus = some b) :
    (w.perform c).bus = some (b.acts (w.acts c)) := by
  cases h : c.onStore? w.store with
  | some o =>
    rw [perform_of_onStore h, acts_of_onStore h, Bus.acts_publish]
    simp [commit, hb]
  | none =>
    cases c <;> simp only [Command.onStore?, reduceCtorEq, isPlain] at h plain
    case subscribe | unsubscribe | forceRemove | publish => simp [perform, onBus, hb]; rfl
    case forgetEntity | forgetSite => simp only [perform, forget]; split <;> exact hb
    case resetSession | setRunAs => simp only [perform, onSession]; split <;> exact hb
    case check => simp only [perform, check]; split <;> exact hb
    case populate => simp only [perform, populate]; split <;> exact hb
    case groupsFor => simp only [perform, groupsFor]; split <;> exact hb
    all_goals exact hb

theorem watch_perform (plain : isPlain c = true) : (w.perform c).watch? = w.watch? := by
  cases h : c.onStore? w.store with
  | some o =>
    rw [perform_of_onStore h]
    rfl
  | none =>
    cases c <;> simp only [Command.onStore?, reduceCtorEq, isPlain] at h plain
    case forgetEntity | forgetSite =>
      cases he : w.engine <;> simp [perform, forget, watch?, he]
    case resetSession | setRunAs => simp only [perform, onSession]; split <;> rfl
    case check =>
      simp only [perform, check]
      split
      next e s he hs => simp [setSession, watch?, he, Engine.watch_answer]
      next => rfl
    case populate =>
      simp only [perform, populate]
      split
      next e s he hs => simp [setSession, watch?, he, Engine.watch_populate]
      next => rfl
    case groupsFor => cases he : w.engine <;> simp [perform, groupsFor, watch?, he]
    all_goals rfl

/-! ### Deliveries -/

/-- What a delivery does to the bus and to the engine's watch. A message is taken, and listeners may
leave. When it is the notice of one of the engine's subscriptions, that is replaced. -/
inductive DeliveryFate (w w' : World) (b : Bus Listener) : Prop where
  | idle (queue : b.queue = []) (bus : w'.bus = some b) (watch : w'.watch? = w.watch?)
  | passed (m : Message Listener) (rest : List (Message Listener)) (as : List (Act Listener))
      (queue : b.queue = m :: rest)
      (foreign : ∀ id, m = .removed id .engine → w.interest? id = none)
      (leaving : ∀ a ∈ as, ∃ id interest,
        a = .unsubscribe id ∧ b.subscriptions[id]? = some ⟨interest, .observerOnce⟩)
      (bus : w'.bus = some (Bus.acts { b with queue := rest } as))
      (watch : w'.watch? = w.watch?)
  | renewed (id : SubscriptionId) (rest : List (Message Listener)) (interest : Interest)
      (before : Watch) (queue : b.queue = .removed id .engine :: rest)
      (known : w.watch? = some before) (entry : before.entries[id]? = some interest)
      (bus : w'.bus = some (Bus.subscribe { b with queue := rest } interest .engine).1)
      (watch : w'.watch? = some (before.replaced id b.nextId interest))

/-- A listener that is called for an event may leave, and the engine goes on watching. -/
theorem hear_eq (l : Listener) (id : SubscriptionId) (event : Event)
    (state : Bus Listener × Audience) :
    (hear l id event state).1 = state.1.acts (l.parting id) ∧
      (hear l id event state).2.1.bind (·.watch) = state.2.1.bind (·.watch) := by
  obtain ⟨bus, engine, notices⟩ := state
  cases l with
  | engine => cases engine <;> exact ⟨rfl, rfl⟩
  | observer | observerOnce | failing => exact ⟨rfl, rfl⟩

/-- The acts by which the engine renews a subscription that it has lost, if it knew of it. -/
def renewal (engine : Option Engine) (id : SubscriptionId) : List (Act Listener) :=
  ((engine.bind (·.watch)).bind (·.entries[id]?)).toList.map (.subscribe · .engine)

/-- The listeners of a world, by what they do to the bus. -/
def listeners : Listeners Listener Audience where
  onEvent l id event state := (l.parting id, (hear l id event state).2)
  onRemoved l id state := (if l = .engine then renewal state.2.1 id else [], (lose l id state).2)

/-- The notice of a subscription that the engine does not know changes nothing. -/
theorem lose_unknown {bus : Bus Listener} {engine : Option Engine} {notices : Notices}
    (unknown : (engine.bind (·.watch)).bind (·.entries[id]?) = none) :
    lose .engine id (bus, engine, notices) = (bus, engine, notices) := by
  cases engine with
  | none => rfl
  | some e =>
    obtain ⟨config, extras, grants, watch, calls⟩ := e
    cases watch with
    | none => rfl
    | some watch =>
      have entry : watch.entries[id]? = none := unknown
      simp only [lose, Watch.onRemoved, entry]

/-- The engine replaces a subscription that it knows. -/
theorem lose_known {bus : Bus Listener} {engine : Option Engine} {notices : Notices}
    {watch : Watch} {interest : Interest} (known : engine.bind (·.watch) = some watch)
    (entry : watch.entries[id]? = some interest) :
    (lose .engine id (bus, engine, notices)).1 = (bus.subscribe interest .engine).1 ∧
      (lose .engine id (bus, engine, notices)).2.1.bind (·.watch) =
        some (watch.replaced id bus.nextId interest) := by
  obtain ⟨⟨config, extras, grants, watch?, calls⟩, rfl, rfl⟩ := Option.bind_eq_some_iff.mp known
  simp only [lose, Watch.onRemoved, entry]
  exact ⟨rfl, rfl⟩

theorem lose_eq (l : Listener) (id : SubscriptionId) (state : Bus Listener × Audience) :
    (lose l id state).1 = state.1.acts (if l = .engine then renewal state.2.1 id else []) := by
  obtain ⟨bus, engine, notices⟩ := state
  cases l with
  | observer | observerOnce | failing => rfl
  | engine =>
    rw [if_pos rfl, renewal]
    cases entry : (engine.bind (·.watch)).bind (·.entries[id]?) with
    | none =>
      rw [lose_unknown entry]
      rfl
    | some interest =>
      obtain ⟨watch, known, entry⟩ := Option.bind_eq_some_iff.mp entry
      exact (lose_known known entry).1

/-- The reaction of a world is that of its listeners, so that all that is true of listeners that act
on a bus is true of deliveries in a world. -/
theorem listeners_reaction : listeners.reaction = reaction := by
  unfold Listeners.reaction reaction
  congr 1
  · funext l id event state
    exact Prod.ext (hear_eq l id event state).1.symm rfl
  · funext l id state
    exact Prod.ext (lose_eq l id state).symm rfl

theorem heard_eq (event : Event) (called : List (SubscriptionId × Listener))
    (state : Bus Listener × Audience) :
    (called.foldl (fun state s => hear s.2 s.1 event state) state).1 =
        state.1.acts (called.flatMap fun s => s.2.parting s.1) ∧
      (called.foldl (fun state s => hear s.2 s.1 event state) state).2.1.bind (·.watch) =
        state.2.1.bind (·.watch) := by
  induction called generalizing state with
  | nil => exact ⟨rfl, rfl⟩
  | cons s called ih =>
    obtain ⟨bus, watch⟩ := hear_eq s.2 s.1 event state
    obtain ⟨bus', watch'⟩ := ih (hear s.2 s.1 event state)
    rw [List.foldl_cons, List.flatMap_cons, Bus.acts_append, ← bus]
    exact ⟨bus', watch'.trans watch⟩

theorem deliveryFate (hb : w.bus = some b) : DeliveryFate w w.deliver.1 b := by
  have delivered : w.deliver.1.bus = some (b.deliver reaction (w.engine, {})).1 ∧
      w.deliver.1.watch? = (b.deliver reaction (w.engine, {})).2.1.bind (·.watch) := by
    simp only [deliver, hb]
    exact ⟨rfl, rfl⟩
  obtain ⟨bus, watch⟩ := delivered
  cases waiting : b.queue with
  | nil =>
    have idle : b.deliver reaction (w.engine, ({} : Notices)) = (b, w.engine, {}) := by
      rw [Bus.deliver, waiting]
    rw [idle] at bus watch
    exact .idle waiting bus watch
  | cons m rest =>
    rw [Bus.deliver, waiting] at bus watch
    cases m with
    | event event =>
      obtain ⟨acts, same⟩ := heard_eq event (Bus.interested { b with queue := rest } event)
        ({ b with queue := rest }, w.engine, {})
      refine .passed (.event event) rest _ waiting (fun _ same => by cases same)
        (fun a leaves => ?_) (bus.trans (congrArg some acts)) (watch.trans same)
      -- whoever leaves was called, so was subscribed when the message was taken
      obtain ⟨⟨id, l⟩, called, leaves⟩ := List.mem_flatMap.mp leaves
      obtain ⟨interest, subscribed, -⟩ := Bus.mem_interested.mp called
      unfold Listener.parting at leaves
      split at leaves
      next once =>
        subst once
        exact ⟨id, interest, List.mem_singleton.mp leaves, subscribed⟩
      next => cases leaves
    | removed id l =>
      cases l with
      | observer | observerOnce | failing =>
        exact .passed _ rest [] waiting (fun _ same => by cases same) (List.forall_mem_nil _)
          bus watch
      | engine =>
        cases entry : w.interest? id with
        | none =>
          have ignored : Bus.handle reaction (.removed id .engine)
              ({ b with queue := rest }, w.engine, ({} : Notices)) =
                ({ b with queue := rest }, w.engine, {}) := lose_unknown entry
          refine .passed _ rest [] waiting (fun other same => ?_) (List.forall_mem_nil _)
            (bus.trans (congrArg (some ·.1) ignored))
            (watch.trans (congrArg (·.2.1.bind (·.watch)) ignored))
          cases same
          exact entry
        | some interest =>
          obtain ⟨before, known, entry⟩ := Option.bind_eq_some_iff.mp entry
          obtain ⟨renewed, replaced⟩ := lose_known known entry
          exact .renewed id rest interest before waiting known entry
            (bus.trans (congrArg some renewed)) (watch.trans replaced)

/-! ### The engine comes and goes -/

theorem bus_shutdownEngine (hb : w.bus = some b) :
    w.shutdownEngine.bus = some (b.acts (w.watchIds.map .unsubscribe)) := by
  unfold shutdownEngine watchIds watch?
  cases w.engine with
  | none => exact hb
  | some e =>
    dsimp only [Option.bind_some]
    rw [hb]
    unfold Engine.shutdown
    cases e.watch with
    | none => rfl
    | some watch => exact congrArg (some ·.2) (watch.unregister_eq b)

theorem watchIds_shutdownEngine (hb : w.bus = some b) : w.shutdownEngine.watchIds = [] := by
  unfold shutdownEngine watchIds watch?
  cases he : w.engine with
  | none => simp [he]
  | some e =>
    dsimp only [Option.bind_some]
    rw [hb]
    unfold Engine.shutdown
    cases hw : e.watch with
    | none => simp [hw]
    | some watch => simp [Watch.unregister, Watch.ids]

/-- An engine that is started takes the place of one that has stopped. -/
theorem startEngine_eq (w : World) (config : Config) (extras : List (Operation × Checker)) :
    w.startEngine config extras =
      { w with
        bus := (Engine.start config extras w.shutdownEngine.bus .engine).2
        engine := some (Engine.start config extras w.shutdownEngine.bus .engine).1 } := by
  unfold startEngine shutdownEngine
  cases w.engine <;> rfl

/-! ### Runs -/

/-- The engine's watch is kept up. -/
def Tended (w : World) : Prop :=
  ∃ b watch D Q, w.bus = some b ∧ w.watch? = some watch ∧ watch.Tended .engine D Q b

/-- Nothing is left of the engine's watch. -/
def Released (w : World) : Prop :=
  ∃ b D Q, w.bus = some b ∧ w.watchIds = [] ∧ Watch.Released .engine D Q b

/-- Whether a command leaves the engine's subscriptions to the engine, and the bus running. -/
def sparesWatch (w : World) : Command → Bool
  | .subscribe _ l => l ≠ .engine
  | .unsubscribe id => !w.watchIds.contains id
  | .shutdownBus | .shutdownEngine => false
  | _ => true

/-- Whether all commands of a run leave the engine's subscriptions to the engine. -/
def sparesWatchAlong (w : World) : List Command → Bool
  | [] => true
  | c :: commands => w.sparesWatch c && (w.perform c).sparesWatchAlong commands

theorem sparesWatchAlong_append {commands more : List Command} :
    w.sparesWatchAlong (commands ++ more) = true ↔
      w.sparesWatchAlong commands = true ∧ (w.run commands).sparesWatchAlong more = true := by
  induction commands generalizing w with
  | nil => simp [sparesWatchAlong]
  | cons c commands ih =>
    rw [List.cons_append, sparesWatchAlong, sparesWatchAlong, Bool.and_eq_true, Bool.and_eq_true,
      ih, and_assoc, run_cons]

/-- Whether a command neither starts an engine nor subscribes it, and leaves the bus running. -/
def startsNoWatch : Command → Bool
  | .subscribe _ l => l ≠ .engine
  | .startEngine _ _ | .shutdownBus => false
  | _ => true

theorem spares_acts {watch : Watch} (spares : w.sparesWatch c = true)
    (known : w.watch? = some watch) : ∀ a ∈ w.acts c, watch.Spares .engine a := by
  have publishes (events : List Event) :
      ∀ a ∈ events.map Act.publish, watch.Spares Listener.engine a := by
    intro a among
    obtain ⟨event, -, rfl⟩ := List.mem_map.mp among
    trivial
  -- commands that publish spare every watch; the others are acts of their own
  cases c
  case subscribe interest l =>
    intro a among
    obtain rfl := List.mem_singleton.mp among
    have other : l ≠ .engine := by simpa [sparesWatch] using spares
    exact other
  case unsubscribe id =>
    intro a among
    obtain rfl := List.mem_singleton.mp among
    have unknown : id ∉ w.watchIds := by simpa [sparesWatch] using spares
    rw [mem_watchIds, interest?, known] at unknown
    simpa [Watch.Spares] using unknown
  case forceRemove id =>
    intro a among
    obtain rfl := List.mem_singleton.mp among
    trivial
  all_goals exact publishes _

theorem entries_of_foreign {watch : Watch} {m : Message Listener} (known : w.watch? = some watch)
    (foreign : ∀ id, m = .removed id .engine → w.interest? id = none) :
    ∀ id, m = .removed id .engine → watch.entries[id]? = none := by
  intro id about
  simpa [interest?, known] using foreign id about

/-- Those who leave when they are called are others. -/
theorem spares_of_leaving {watch : Watch} {D : List (Deed Listener)} {Q : List (Message Listener)}
    {as : List (Act Listener)} (tended : watch.Tended .engine D Q b)
    (leaving : ∀ a ∈ as, ∃ id interest,
      a = .unsubscribe id ∧ b.subscriptions[id]? = some ⟨interest, .observerOnce⟩) :
    ∀ a ∈ as, watch.Spares .engine a := by
  intro a leaves
  obtain ⟨id, interest, rfl, subscribed⟩ := leaving a leaves
  exact tended.entries_of_other (by decide) subscribed

namespace Tended

theorem deliver (h : w.Tended) : w.deliver.1.Tended := by
  obtain ⟨b, watch, D, Q, hb, known, tended⟩ := h
  cases deliveryFate hb with
  | idle _ bus same => exact ⟨b, watch, D, Q, bus, same.trans known, tended⟩
  | passed m rest as queue foreign leaving bus same =>
    have taken := tended.take queue (entries_of_foreign known foreign)
    exact ⟨_, watch, _, _, bus, same.trans known, taken.acts (spares_of_leaving tended leaving)⟩
  | renewed id rest interest before queue known' entry bus watch' =>
    obtain rfl := Option.some.inj (known.symm.trans known')
    exact ⟨_, _, _, _, bus, watch', tended.replace queue entry⟩

theorem shutdownEngine (h : w.Tended) : w.shutdownEngine.Released := by
  obtain ⟨b, watch, D, Q, hb, known, tended⟩ := h
  have released := tended.unregister
  have ids : w.watchIds = watch.ids := by simp [watchIds, known]
  rw [Watch.unregister_eq, ← ids] at released
  exact ⟨_, _, _, bus_shutdownEngine hb, watchIds_shutdownEngine hb, released⟩

end Tended

/-- An engine that is started where nothing is left of another one watches. -/
theorem tended_startEngine (released : w.shutdownEngine.Released) (config : Config)
    (extras : List (Operation × Checker)) : (w.startEngine config extras).Tended := by
  obtain ⟨b, D, Q, hb, -, released⟩ := released
  rw [startEngine_eq, hb]
  exact ⟨_, _, _, _, rfl, rfl, Watch.tended_register released⟩

theorem tended_start (config : Config) (extras : List (Operation × Checker)) :
    (start true config extras).Tended := by
  have released : Watch.Released Listener.engine [] [] {} :=
    ⟨Bus.ledger_new, fun _ _ registered => nomatch registered.1⟩
  exact tended_startEngine ⟨{}, [], [], rfl, rfl, released⟩ config extras

/-- Every command that leaves the engine's subscriptions to the engine keeps the watch up. -/
theorem Tended.perform (h : w.Tended) (spares : w.sparesWatch c = true) : (w.perform c).Tended := by
  by_cases plain : isPlain c = true
  · obtain ⟨b, watch, D, Q, hb, known, tended⟩ := h
    exact ⟨_, watch, _, Q, bus_perform plain hb, (watch_perform plain).trans known,
      tended.acts (spares_acts spares known)⟩
  · cases c <;> simp only [isPlain, not_true, sparesWatch, Bool.false_eq_true] at plain spares
    case deliver => exact h.deliver
    case startEngine config extras => exact tended_startEngine h.shutdownEngine config extras

theorem Tended.run (h : w.Tended) {commands : List Command}
    (spared : w.sparesWatchAlong commands = true) : (w.run commands).Tended := by
  induction commands generalizing w with
  | nil => exact h
  | cons c commands ih =>
    obtain ⟨now, later⟩ := Bool.and_eq_true_iff.mp spared
    exact ih (h.perform now) later

namespace Released

theorem deliver (h : w.Released) : w.deliver.1.Released := by
  obtain ⟨b, D, Q, hb, none, released⟩ := h
  have sameIds {w' : World} (same : w'.watch? = w.watch?) : w'.watchIds = [] := by
    rw [watchIds, same]
    exact none
  cases deliveryFate hb with
  | idle _ bus same => exact ⟨b, D, Q, bus, sameIds same, released⟩
  | passed m rest as queue _ leaving bus same =>
    refine ⟨_, _, _, bus, sameIds same, (released.take queue).acts fun a leaves interest => ?_⟩
    obtain ⟨id, _, rfl, _⟩ := leaving a leaves
    exact fun asked => nomatch asked
  | renewed id rest interest before queue known entry bus watch' =>
    -- the engine knows of no subscription
    have among : id ∈ w.watchIds := by
      rw [mem_watchIds, interest?, known]
      simp [entry]
    rw [none] at among
    cases among

theorem shutdownEngine (h : w.Released) : w.shutdownEngine.Released := by
  obtain ⟨b, D, Q, hb, none, released⟩ := h
  refine ⟨_, D, Q, bus_shutdownEngine hb, watchIds_shutdownEngine hb, ?_⟩
  rw [none]
  exact released

/-- Nothing of the engine's watch comes back, unless an engine is started. -/
theorem perform (h : w.Released) (starts : startsNoWatch c = true) : (w.perform c).Released := by
  by_cases plain : isPlain c = true
  · obtain ⟨b, D, Q, hb, none, released⟩ := h
    have ids : (w.perform c).watchIds = [] := by
      rw [watchIds, watch_perform plain]
      exact none
    refine ⟨_, _, Q, bus_perform plain hb, ids, released.acts fun a among interest asked => ?_⟩
    subst asked
    cases c <;> simp_all [acts, startsNoWatch]
  · cases c <;> simp only [isPlain, not_true, startsNoWatch, Bool.false_eq_true] at plain starts
    case deliver => exact h.deliver
    case shutdownEngine => exact h.shutdownEngine

theorem run (h : w.Released) {commands : List Command}
    (starts : commands.all startsNoWatch = true) : (w.run commands).Released := by
  induction commands generalizing w with
  | nil => exact h
  | cons c commands ih =>
    obtain ⟨now, later⟩ := Bool.and_eq_true_iff.mp starts
    exact ih (h.perform now) later

end Released

/-! ### What a watch comes to -/

/-- Whether the engine has two subscriptions, for changes of capability entities and for the
deletion of sites, which are in force and are those of its watch. -/
def HasBothSubscriptions (w : World) : Prop :=
  ∃ m d, m ≠ d ∧ w.watchIds.Perm [m, d] ∧
    w.subscription? m = some ⟨Watch.membership, .engine⟩ ∧
    w.subscription? d = some ⟨.siteDeleted, .engine⟩ ∧
    ∀ id s, w.subscription? id = some s → s.listener = .engine → id = m ∨ id = d

/-- Whether the engine has no subscription, by its watch and by the bus. -/
def HasNoSubscription (w : World) : Prop :=
  w.watchIds = [] ∧ ∀ id s, w.subscription? id = some s → s.listener ≠ .engine

theorem Tended.hasBothSubscriptions (h : w.Tended) (quiet : w.queue = []) :
    w.HasBothSubscriptions := by
  obtain ⟨b, watch, D, Q, hb, known, tended⟩ := h
  obtain ⟨m, d, apart, entries⟩ := tended.complete
  have queue : b.queue = [] := by simpa [World.queue, hb] using quiet
  have live : ∀ id interest, watch.entries[id]? = some interest →
      w.subscription? id = some ⟨interest, .engine⟩ := by
    intro id interest entry
    rw [subscription?, hb, Option.bind_some]
    -- nothing waits, so no notice does
    refine (tended.live_or_noticed entry).resolve_right fun waits => ?_
    rw [queue] at waits
    cases waits
  have ids : ∀ id, id ∈ w.watchIds ↔ id ∈ [m, d] := by
    intro id
    rw [mem_watchIds, interest?, known, Option.bind_some, Option.isSome_iff_exists]
    simp [entries, exists_or]
  have distinct : w.watchIds.Nodup := by
    rw [watchIds, known]
    exact ExtTreeMap.nodup_keys
  refine ⟨m, d, apart, (List.perm_ext_iff_of_nodup distinct (by simp [apart])).mpr ids,
    live m _ ((entries m _).mpr (Or.inl ⟨rfl, rfl⟩)),
    live d _ ((entries d _).mpr (Or.inr ⟨rfl, rfl⟩)), ?_⟩
  rintro id ⟨interest, l⟩ subscribed rfl
  rw [subscription?, hb, Option.bind_some] at subscribed
  have among := (entries id interest).mp (tended.owner subscribed)
  exact among.imp And.left And.left

theorem Released.hasNoSubscription (h : w.Released) : w.HasNoSubscription := by
  obtain ⟨b, D, Q, hb, none, released⟩ := h
  refine ⟨none, ?_⟩
  rintro id ⟨interest, l⟩ subscribed rfl
  rw [subscription?, hb, Option.bind_some] at subscribed
  exact released.gone id interest ((released.registered id interest .engine).mp subscribed)

/-- In a run that leaves the engine's subscriptions to the engine, once nothing waits, the engine
has its two subscriptions, whatever the bus has taken from it. And when it stops watching, it has
none at once, and none ever after, whatever notices still wait. -/
theorem watch_recovers {config : Config} {extras : List (Operation × Checker)}
    {commands more : List Command}
    (spared : (start true config extras).sparesWatchAlong commands = true)
    (starts : more.all startsNoWatch = true) :
    (((start true config extras).run commands).queue = [] →
        ((start true config extras).run commands).HasBothSubscriptions) ∧
      ((start true config extras).run (commands ++ .shutdownEngine :: more)).HasNoSubscription := by
  have tended := (tended_start config extras).run spared
  refine ⟨tended.hasBothSubscriptions, ?_⟩
  rw [run_append, run_cons]
  exact (tended.shutdownEngine.run starts).hasNoSubscription

/-- A run in which the bus takes both subscriptions from the engine, and one of them again. -/
def watchTaken : List Command :=
  [.forceRemove 1, .deliver, .forceRemove 3, .forceRemove 2, .deliver, .deliver]

/-- The same run, after which the bus takes one of the new subscriptions. -/
def watchTakenAgain : List Command := watchTaken ++ [.forceRemove 4]

theorem watch_recovers_watchTaken :
    ((start true {} []).run watchTaken).watchIds = [4, 5] ∧
      ((start true {} []).run watchTaken).HasBothSubscriptions ∧
      ((start true {} []).run watchTakenAgain).queue.isEmpty = false ∧
      ((start true {} []).run
        (watchTakenAgain ++ .shutdownEngine :: [.deliver])).HasNoSubscription :=
  ⟨by decide +kernel,
    (watch_recovers (by decide +kernel) (rfl : [].all startsNoWatch = true)).1
      (List.isEmpty_iff.mp (by decide +kernel)),
    by decide +kernel, (watch_recovers (by decide +kernel) (by decide +kernel)).2⟩

end World

end WorldAccess
