import WorldAccess.Proofs.World.Steps

/-!
# What one command does to the grant lists

A command leaves a grant list as it is, clears it, or fills it from a store that it does not change.
While the engine's watch is subscribed, the delivery of an event clears the lists that the event
concerns.

## Main definitions

* `World.grants`, `World.kept` — the lists of a world
* `World.ListFate` — what may become of a list
* `World.isWatched`, `World.isWatchedAlong` — the engine hears what bears on its lists
* `World.Doomed` — an event that clears a list waits

## Main results

* `World.kept_perform` — the three things that may happen to a list
* `World.kept_deliver_of_clears` — what a delivery clears
* `World.Doomed.perform` — an event that clears a list waits until it has done so
-/

namespace WorldAccess

open Std GrantLists

/-- The grant lists of an engine, if there is one. -/
def Engine.listsOf (e : Option Engine) : GrantLists := (e.map (·.grants)).getD {}

namespace World

variable {w : World} {c : Command} {site : SiteId} {cap : Capability} {head : EntityId}
  {tail : List EntityId} {event : Event}

/-- The grant lists of a world. -/
def grants (w : World) : GrantLists := Engine.listsOf w.engine

/-- The grant list kept in a world for a site and a capability. -/
def kept (w : World) (site : SiteId) (cap : Capability) : List EntityId := w.grants.kept site cap

/-! ### Listening -/

/-- Listeners may change the subscriptions, but they publish nothing. -/
theorem reaction_keeps_adds :
    reaction.Keeps fun (a b : Bus Listener × Audience) => a.1.Adds b.1 [] where
  refl state := .refl state.1
  trans := .trans
  onEvent l id event state := by
    cases l with
    | observerOnce => exact state.1.adds_unsubscribe id
    | engine | observer | failing => exact .refl state.1
  onRemoved l id state := by
    obtain ⟨bus, engine, notices⟩ := state
    -- only the engine answers a notice: it may subscribe again
    cases l with
    | observer | observerOnce | failing => exact .refl bus
    | engine =>
      cases engine with
      | none => exact .refl bus
      | some e =>
        cases hw : e.watch with
        | none =>
          simp only [reaction, lose, hw]
          exact .refl bus
        | some watch =>
          simp only [reaction, lose, hw, Watch.onRemoved]
          split
          · exact .refl bus
          next interest _ => exact bus.adds_subscribe interest .engine

/-- Only the engine's own call touches the grant lists. -/
theorem listsOf_hear (l : Listener) (id : SubscriptionId) (event : Event)
    (state : Bus Listener × Audience) :
    Engine.listsOf (hear l id event state).2.1 = Engine.listsOf state.2.1 ∨
      l = .engine ∧
        Engine.listsOf (hear l id event state).2.1 = (Engine.listsOf state.2.1).onEvent event := by
  obtain ⟨bus, engine, notices⟩ := state
  cases l with
  | observer | observerOnce | failing => exact Or.inl rfl
  | engine =>
    cases engine with
    | none => exact Or.inl rfl
    | some e => exact Or.inr ⟨rfl, rfl⟩

theorem clearedTo_hear (l : Listener) (id : SubscriptionId) (event : Event)
    (state : Bus Listener × Audience) :
    (Engine.listsOf state.2.1).ClearedTo (Engine.listsOf (hear l id event state).2.1) := by
  rcases listsOf_hear l id event state with same | ⟨_, heard⟩
  · rw [same]
    exact .refl _
  · rw [heard]
    exact clearedTo_onEvent _ event

theorem clearedTo_heard (event : Event) (called : List (SubscriptionId × Listener))
    (state : Bus Listener × Audience) :
    (Engine.listsOf state.2.1).ClearedTo
      (Engine.listsOf (called.foldl (fun state s => hear s.2 s.1 event state) state).2.1) := by
  induction called generalizing state with
  | nil => exact .refl _
  | cons s rest ih => exact (clearedTo_hear s.2 s.1 event state).trans (ih _)

/-- When the engine is among those who are called, the lists that the event concerns are cleared,
wherever its turn is. -/
theorem kept_heard {called : List (SubscriptionId × Listener)} {id : SubscriptionId}
    (engine : (id, .engine) ∈ called) {state : Bus Listener × Audience}
    (h : (Engine.listsOf state.2.1).kept site cap = head :: tail) (here : head.site = site)
    (clears : event.clears head = true) :
    (Engine.listsOf (called.foldl (fun state s => hear s.2 s.1 event state) state).2.1).kept
      site cap = [] := by
  induction called generalizing state with
  | nil => cases engine
  | cons s rest ih =>
    have later := clearedTo_heard event rest (hear s.2 s.1 event state) site cap
    rw [List.foldl_cons]
    rcases clearedTo_hear s.2 s.1 event state site cap with same | cleared
    · rcases List.mem_cons.mp engine with first | engine
      · -- the engine's call leaves nothing of the list
        have gone : (Engine.listsOf (hear s.2 s.1 event state).2.1).kept site cap = [] := by
          rw [← first]
          obtain ⟨bus, e, notices⟩ := state
          cases e with
          | none => simp [Engine.listsOf] at h
          | some e => exact kept_onEvent_of_clears h here clears
        rcases later with later | later
        · exact later.trans gone
        · exact later
      · exact ih engine (same.trans h)
    · -- cleared already, and nobody fills lists while events are heard
      rcases later with later | later
      · exact later.trans cleared
      · exact later

theorem listsOf_lose (l : Listener) (id : SubscriptionId) (state : Bus Listener × Audience) :
    Engine.listsOf (lose l id state).2.1 = Engine.listsOf state.2.1 := by
  obtain ⟨bus, engine, notices⟩ := state
  cases l with
  | observer | observerOnce | failing => rfl
  | engine =>
    cases engine with
    | none => rfl
    | some e => cases hw : e.watch <;> simp [lose, hw, Engine.listsOf]

/-- Listeners clear lists and do nothing else to them. -/
theorem reaction_keeps_clearedTo : reaction.Keeps fun (a b : Bus Listener × Audience) =>
    (Engine.listsOf a.2.1).ClearedTo (Engine.listsOf b.2.1) where
  refl state := .refl (Engine.listsOf state.2.1)
  trans := .trans
  onEvent := clearedTo_hear
  onRemoved l id state := by
    have same := listsOf_lose l id state
    simp only [reaction, same]
    exact .refl _

/-! ### Commands -/

theorem clearedTo_deliver (w : World) : w.grants.ClearedTo w.deliver.1.grants :=
  engine_deliver (R := fun e e' => (Engine.listsOf e).ClearedTo (Engine.listsOf e'))
    reaction_keeps_clearedTo w

theorem clearedTo_drain (w : World) : w.grants.ClearedTo w.drain.1.grants :=
  engine_drain (R := fun e e' => (Engine.listsOf e).ClearedTo (Engine.listsOf e'))
    reaction_keeps_clearedTo w

theorem clearedTo_forget {α : Type} (w : World) {clear : GrantLists → GrantLists × α}
    (h : ∀ g : GrantLists, g.ClearedTo (clear g).1) :
    w.grants.ClearedTo (w.forget clear).1.grants := by
  unfold forget
  cases hw : w.engine with
  | none => exact .refl _
  | some e =>
    simp only [grants, Engine.listsOf, hw]
    exact h e.grants

/-- What an engine does for a session is to fill lists. -/
theorem filledFrom_check (w : World) (name : String) (op : Operation) (r : Option Request)
    (raising : Bool) : FilledFrom w.store w.grants (w.check name op r raising).1.grants := by
  unfold check
  split
  next e s he hs =>
    simp only [grants, Engine.listsOf, he]
    exact Engine.filledFrom_answer e w.store s op r raising
  · exact .refl w.store w.grants

theorem filledFrom_populate (w : World) (name : String) :
    FilledFrom w.store w.grants (w.populate name).grants := by
  unfold populate
  split
  next e s he hs =>
    simp only [grants, Engine.listsOf, he]
    exact Engine.filledFrom_populate e w.store s
  · exact .refl w.store w.grants

theorem filledFrom_groupsFor (w : World) (site : SiteId) (cap : Capability) :
    FilledFrom w.store w.grants (w.groupsFor site cap).1.grants := by
  unfold groupsFor
  cases hw : w.engine with
  | none => exact .refl w.store w.grants
  | some e =>
    simp only [grants, Engine.listsOf, hw]
    exact GrantLists.filledFrom_groupsFor e.grants w.store site cap

/-- An engine that is started has no lists yet. -/
theorem kept_startEngine (w : World) (config : Config) (extras : List (Operation × Checker))
    (site : SiteId) (cap : Capability) : (w.startEngine config extras).kept site cap = [] := by
  unfold startEngine Engine.start
  dsimp only
  split <;> exact kept_empty site cap

theorem grants_onSession (w : World) (name : String) (f : Session → Session) :
    (w.onSession name f).grants = w.grants := by
  unfold onSession
  split <;> rfl

theorem grants_shutdownEngine (w : World) : w.shutdownEngine.grants = w.grants := by
  unfold shutdownEngine
  cases hw : w.engine with
  | none => rfl
  | some e =>
    simp only [grants, Engine.listsOf, hw, Engine.shutdown]
    split <;> rfl

/-- What may become of a kept list from one world to the next: it stays, it is cleared, or it was
empty and is resolved from a store that does not change. -/
inductive ListFate (w w' : World) (site : SiteId) (cap : Capability) : Prop where
  | same (kept : w'.kept site cap = w.kept site cap)
  | cleared (kept : w'.kept site cap = [])
  | filled (empty : w.kept site cap = []) (kept : w'.kept site cap = resolve w.store site cap)
      (store : w'.store = w.store)

theorem ListFate.of_grants {w' : World} (h : w'.grants = w.grants) : ListFate w w' site cap :=
  .same (by rw [kept, h, kept])

theorem ListFate.of_clearedTo {w' : World} (h : w.grants.ClearedTo w'.grants) :
    ListFate w w' site cap := by
  rcases h site cap with kept | kept
  · exact .same kept
  · exact .cleared kept

theorem ListFate.of_filledFrom {w' : World} (h : FilledFrom w.store w.grants w'.grants)
    (store : w'.store = w.store) : ListFate w w' site cap := by
  rcases h site cap with kept | ⟨empty, kept⟩
  · exact .same kept
  · exact .filled empty kept store

/-- Every command does one of the three. -/
theorem kept_perform (w : World) (c : Command) (site : SiteId) (cap : Capability) :
    ListFate w (w.perform c) site cap := by
  cases h : c.onStore? w.store with
  | some o =>
    rw [perform_of_onStore h]
    exact .of_grants rfl
  | none =>
    have store := store_perform h
    cases c <;> simp only [Command.onStore?, reduceCtorEq] at h
    case deliver => exact .of_clearedTo (clearedTo_deliver w)
    case shutdownBus => exact .of_clearedTo (clearedTo_drain w)
    case forgetEntity id =>
      exact .of_clearedTo (clearedTo_forget w fun g => clearedTo_forgetEntity g id)
    case forgetSite id =>
      exact .of_clearedTo (clearedTo_forget w fun g => clearedTo_forgetSite g id)
    case check name op r raising =>
      exact .of_filledFrom (filledFrom_check w name op r raising) store
    case populate name => exact .of_filledFrom (filledFrom_populate w name) store
    case groupsFor asked c => exact .of_filledFrom (filledFrom_groupsFor w asked c) store
    case startEngine config extras => exact .cleared (kept_startEngine w config extras site cap)
    case shutdownEngine => exact .of_grants (grants_shutdownEngine w)
    case resetSession name => exact .of_grants (grants_onSession w name _)
    case setRunAs name value => exact .of_grants (grants_onSession w name _)
    all_goals exact .of_grants rfl

/-! ### The watch -/

/-- Whether the engine hears of every event that bears on its lists: the bus runs, and the engine's
two subscriptions are there. -/
def isWatched (w : World) : Bool :=
  w.bus.any fun b =>
    b.running && b.hasSubscriber .engine Watch.membership && b.hasSubscriber .engine .siteDeleted

/-- Whether the engine's subscriptions are there all along a run, its beginning and end included. -/
def isWatchedAlong (w : World) : List Command → Bool
  | [] => w.isWatched
  | c :: commands => w.isWatched && (w.perform c).isWatchedAlong commands

theorem bus_of_isWatched (h : w.isWatched = true) :
    ∃ b, w.bus = some b ∧ b.running = true ∧
      b.hasSubscriber .engine Watch.membership = true ∧
      b.hasSubscriber .engine .siteDeleted = true := by
  obtain ⟨b, hb, watched⟩ := (Option.any_eq_true _ _).mp h
  simp only [Bool.and_eq_true] at watched
  exact ⟨b, hb, watched.1.1, watched.1.2, watched.2⟩

theorem isWatchedAlong_append {commands more : List Command} :
    w.isWatchedAlong (commands ++ more) = true →
      w.isWatchedAlong commands = true ∧ (w.run commands).isWatchedAlong more = true := by
  induction commands generalizing w with
  | nil =>
    intro h
    refine ⟨?_, h⟩
    cases more with
    | nil => exact h
    | cons c more => exact (Bool.and_eq_true_iff.mp h).1
  | cons c commands ih =>
    intro h
    obtain ⟨now, later⟩ := Bool.and_eq_true_iff.mp h
    obtain ⟨first, rest⟩ := ih later
    exact ⟨Bool.and_eq_true_iff.mpr ⟨now, first⟩, rest⟩

/-- A bus that is shut down is not watched. -/
theorem isWatched_shutdownBus (w : World) : (w.perform .shutdownBus).isWatched = false := by
  simp only [perform, shutdownBus, isWatched]
  cases w.drain.1.bus with
  | none => rfl
  | some b => simp [Bus.shutdown]

/-- The engine is called for every event that clears lists. -/
theorem exists_engine_interested {b : Bus Listener}
    (membership : b.hasSubscriber .engine Watch.membership = true)
    (siteDeleted : b.hasSubscriber .engine .siteDeleted = true)
    (clears : event.clears head = true) : ∃ id, (id, .engine) ∈ b.interested event := by
  cases event with
  | siteDeleted gone => exact Bus.exists_mem_interested siteDeleted rfl
  | entityChanged change =>
    have covers : Watch.membership.covers (.entityChanged change) = true :=
      (Bool.and_eq_true_iff.mp clears).2
    exact Bus.exists_mem_interested membership covers

/-- When an event that clears lists is delivered, they are empty. -/
theorem kept_deliver_of_clears (watched : w.isWatched = true) {rest : List (Message Listener)}
    (waiting : w.queue = .event event :: rest) (h : w.kept site cap = head :: tail)
    (here : head.site = site) (clears : event.clears head = true) :
    w.deliver.1.kept site cap = [] := by
  obtain ⟨b, hb, _, membership, siteDeleted⟩ := bus_of_isWatched watched
  obtain ⟨id, called⟩ := exists_engine_interested membership siteDeleted clears
  have waiting : b.queue = .event event :: rest := by simpa [queue, hb] using waiting
  have delivered : w.deliver.1.grants =
      Engine.listsOf
        (Bus.handle reaction (.event event) ({ b with queue := rest }, w.engine, {})).2.1 := by
    simp only [deliver, hb, Bus.deliver, waiting]
    rfl
  rw [kept, delivered]
  exact kept_heard called h here clears

/-! ### Events that wait -/

/-- Whether an event that clears the lists of a head waits in the queue. -/
def Doomed (w : World) (head : EntityId) : Prop :=
  ∃ event, .event event ∈ w.queue ∧ event.clears head = true

theorem not_doomed_of_quiet (quiet : w.queue = []) : ¬ w.Doomed head := by
  rintro ⟨event, waits, _⟩
  rw [quiet] at waits
  cases waits

/-- What is announced and clears lists waits. -/
theorem doomed_of_announced (watched : w.isWatched = true) (told : event ∈ w.announced c)
    (clears : event.clears head = true) : (w.perform c).Doomed head := by
  obtain ⟨b, hb, running, _⟩ := bus_of_isWatched watched
  exact ⟨event, mem_queue_announced hb running told, clears⟩

/-- A list whose clearing waits is cleared, or its clearing goes on waiting. -/
theorem Doomed.perform (watched : w.isWatched = true)
    (watched' : (w.perform c).isWatched = true) (doomed : w.Doomed head)
    (h : w.kept site cap = head :: tail) (here : head.site = site) :
    (w.perform c).kept site cap = [] ∨ (w.perform c).Doomed head := by
  obtain ⟨event, waits, clears⟩ := doomed
  obtain ⟨b, hb, _⟩ := bus_of_isWatched watched
  have queued : w.queue = b.queue := by simp [queue, hb]
  by_cases delivery : c = .deliver
  · subst delivery
    cases hq : b.queue with
    | nil => simp [queued, hq] at waits
    | cons first rest =>
      rcases List.mem_cons.mp (hq ▸ queued ▸ waits) with rfl | later
      · -- its turn has come
        exact Or.inl (kept_deliver_of_clears watched (queued.trans hq) h here clears)
      · -- another message is before it
        refine Or.inr ⟨event, ?_, clears⟩
        have still := Bus.mem_queue_deliver reaction_keeps_adds hq later (w.engine, {})
        simpa [queue, World.perform, deliver, hb, settle] using still
  · by_cases ending : c = .shutdownBus
    · -- after this command nobody would be subscribed
      subst ending
      simp [isWatched_shutdownBus] at watched'
    · obtain ⟨b', hb', adds⟩ := adds_perform w c delivery ending b hb
      have still : .event event ∈ b'.queue := adds.queue.mem (queued ▸ waits)
      exact Or.inr ⟨event, by simpa [queue, hb'] using still, clears⟩

end World

end WorldAccess
