import WorldAccess.Engine.Basic
import WorldAccess.Store.Snapshot

/-!
# Worlds

A world puts a store, a bus, an engine, sessions and held handles together. Whatever the store
announces is published on the bus, and the listeners of the bus act when their messages are
delivered: the engine's watch clears grant lists, and observers note what they hear.

## Main definitions

* `World`, `World.start`
* `World.commit` — an operation on the store, with what it announces
* `World.deliver`, `World.drain`, `Notices`
* `World.check`, `World.populate` — the engine at work on a session
-/

namespace WorldAccess

open Std

/-- Who listens on the bus: the engine, or an observer. An observer notes what it hears; one kind
leaves after the first event, and one fails on every call and notes nothing. -/
inductive Listener where
  | engine
  | observer
  | observerOnce
  | failing
deriving DecidableEq

/-- What observers have noted. -/
structure Notices where
  heard : List (SubscriptionId × Event) := []
  removed : List SubscriptionId := []
deriving DecidableEq

/-- A store, a bus, an engine, and who uses them. -/
structure World where
  store : Store := {}
  bus : Option (Bus Listener) := none
  engine : Option Engine := none
  sessions : ExtTreeMap String Session := ∅
  held : ExtTreeMap String (Option Handle) := ∅

namespace World

/-! ### Listening -/

/-- What listeners act on: the engine and the notices. -/
abbrev Audience := Option Engine × Notices

/-- What a listener does with an event. -/
def hear (l : Listener) (id : SubscriptionId) (event : Event) :
    Bus Listener × Audience → Bus Listener × Audience
  | (bus, engine, notices) =>
    match l with
    | .engine => (bus, engine.map fun e => { e with grants := e.grants.onEvent event }, notices)
    | .observer => (bus, engine, { notices with heard := notices.heard ++ [(id, event)] })
    | .observerOnce =>
      ((bus.unsubscribe id).1, engine, { notices with heard := notices.heard ++ [(id, event)] })
    | .failing => (bus, engine, notices)

/-- What a listener does when the bus has removed its subscription. -/
def lose (l : Listener) (id : SubscriptionId) :
    Bus Listener × Audience → Bus Listener × Audience
  | (bus, engine, notices) =>
    match l with
    | .engine =>
      match engine with
      | some e =>
        match e.watch with
        | some watch =>
          let (watch, bus) := watch.onRemoved bus .engine id
          (bus, some { e with watch := some watch }, notices)
        | none => (bus, engine, notices)
      | none => (bus, engine, notices)
    | .observer | .observerOnce =>
      (bus, engine, { notices with removed := notices.removed ++ [id] })
    | .failing => (bus, engine, notices)

/-- How the listeners of a world react. -/
def reaction : Reaction Listener Audience := ⟨hear, lose⟩

/-- Puts a bus and its audience back into the world. -/
def settle (w : World) : Bus Listener × Audience → World × Notices
  | (bus, engine, notices) => ({ w with bus := some bus, engine }, notices)

/-- Delivers the message at the head of the queue. -/
def deliver (w : World) : World × Notices :=
  match w.bus with
  | none => (w, {})
  | some bus => w.settle (bus.deliver reaction (w.engine, {}))

/-- Delivers everything that waits. -/
def drain (w : World) : World × Notices :=
  match w.bus with
  | none => (w, {})
  | some bus => w.settle (bus.drain reaction (w.engine, {}))

/-! ### The store -/

/-- The world after an operation on the store, with what it announces on the bus. -/
def commit {α : Type} (w : World) (o : Outcome α) : World :=
  { w with store := o.store, bus := w.bus.map (·.publishAll o.events) }

/-- The entity of a handle. -/
def read? (w : World) (h : Option Handle) : Option Entity := h.bind w.store.read?

/-! ### Handles -/

/-- Holds a handle under a name, also one of nothing; what was held under it is let go. -/
def hold (w : World) (name : String) (h : Option Handle) : World :=
  { w with held := w.held.insert name h }

/-- Lets a held handle go; tells whether there was one. -/
def release (w : World) (name : String) : World × Bool :=
  ({ w with held := w.held.erase name }, w.held.contains name)

/-- The handle held under a name. -/
def held? (w : World) (name : String) : Option Handle := w.held[name]?.join

/-- How many held handles name the same stored entity. -/
def holders (w : World) (h : Handle) : Nat :=
  w.held.values.countP fun other => other.any (·.serial == h.serial)

/-! ### The engine -/

/-- Starts an engine in place of the one before, which gives its subscriptions up. -/
def startEngine (w : World) (config : Config) (extras : List (Operation × Checker)) : World :=
  let bus := match w.engine with
    | some e => (e.shutdown w.bus).2
    | none => w.bus
  let (engine, bus) := Engine.start config extras bus .engine
  { w with bus, engine := some engine }

/-- Takes the engine away; it gives its subscriptions up. -/
def dropEngine (w : World) : World :=
  match w.engine with
  | some e => { w with bus := (e.shutdown w.bus).2, engine := none }
  | none => w

/-- Stops the engine from watching. -/
def shutdownEngine (w : World) : World :=
  match w.engine with
  | some e =>
    let (e, bus) := e.shutdown w.bus
    { w with bus, engine := some e }
  | none => w

/-- A world without sites, with or without a bus, and an engine over it. -/
def start (withBus : Bool) (config : Config) (extras : List (Operation × Checker)) : World :=
  ({ bus := if withBus then some {} else none } : World).startEngine config extras

/-- Replaces the session of a name. -/
def setSession (w : World) (name : String) (s : Session) : World :=
  { w with sessions := w.sessions.insert name s }

/-- Asks the engine for permission in the session of a name. -/
def check (w : World) (name : String) (op : Operation) (r : Option Request) (raising : Bool) :
    World × Option (Except Refusal Bool) :=
  match w.engine, w.sessions[name]? with
  | some e, some s =>
    let (e, s, result) := e.answer w.store s op r raising
    ({ w with engine := some e }.setSession name s, some result)
  | _, _ => (w, none)

/-- Resolves the capabilities of the session of a name. -/
def populate (w : World) (name : String) : World :=
  match w.engine, w.sessions[name]? with
  | some e, some s =>
    let (e, s) := e.populate w.store s
    { w with engine := some e }.setSession name s
  | _, _ => w

/-- The grant list of a site and a capability, filled if need be. -/
def groupsFor (w : World) (site : SiteId) (c : Capability) : World × List EntityId :=
  match w.engine with
  | none => (w, [])
  | some e =>
    let (grants, list) := e.grants.groupsFor w.store site c
    ({ w with engine := some { e with grants } }, list)

/-- Clears grant lists by hand. -/
def forget {α : Type} (w : World) (clear : GrantLists → GrantLists × α) : World × Option α :=
  match w.engine with
  | none => (w, none)
  | some e =>
    let (grants, answer) := clear e.grants
    ({ w with engine := some { e with grants } }, some answer)

/-! ### The bus -/

/-- Delivers what waits and shuts the bus down. -/
def shutdownBus (w : World) : World × Notices :=
  let (w, notices) := w.drain
  ({ w with bus := w.bus.map Bus.shutdown }, notices)

end World

end WorldAccess
