import WorldAccess.World.Basic

/-!
# Runs of a world

Everything that can happen to a world is a command, and a run is a list of commands. Delivery of a
message is a command of its own, so that a run may leave messages waiting.

## Main definitions

* `Command`, `World.perform`
* `World.run` — the world after a run
* `World.Reachable` — the worlds that a run from a new one leads to
-/

namespace WorldAccess

/-- One thing that happens to a world. -/
inductive Command where
  | createSite (name : String)
  | registerSite (id : SiteId) (name : String)
  | deleteSite (id : SiteId)
  | create (now : Timestamp) (site : SiteId) (kind : Kind) (name : String) (owner : EntityId)
  | insert (entity : Entity)
  | delete (id : EntityId)
  | load (snapshot : Snapshot)
  | edit (now : Timestamp) (handle : Handle) (steps : List Draft.Step)
  | hold (name : String) (handle : Option Handle)
  | release (name : String)
  | subscribe (interest : Interest) (listener : Listener)
  | unsubscribe (id : SubscriptionId)
  | forceRemove (id : SubscriptionId)
  | publish (event : Event)
  | deliver
  | shutdownBus
  | openSession (name : String) (requester program : EntityId) (runsAsRequester : Bool)
    (process : Option UInt64)
  | resetSession (name : String)
  | setRunAs (name : String) (value : Bool)
  | check (session : String) (operation : Operation) (request : Option Request) (raising : Bool)
  | populate (session : String)
  | groupsFor (site : SiteId) (capability : Capability)
  | forgetEntity (id : EntityId)
  | forgetSite (id : SiteId)
  | startEngine (config : Config) (extras : List (Operation × Checker))
  | shutdownEngine

namespace World

/-- Changes the bus, where there is one. -/
def onBus (w : World) (f : Bus Listener → Bus Listener) : World := { w with bus := w.bus.map f }

/-- Changes the session of a name, where there is one. -/
def onSession (w : World) (name : String) (f : Session → Session) : World :=
  match w.sessions[name]? with
  | some s => w.setSession name (f s)
  | none => w

/-- The world after a command. -/
def perform (w : World) : Command → World
  | .createSite name => w.commit (w.store.createSite name)
  | .registerSite id name => w.commit (w.store.registerSite id name)
  | .deleteSite id => w.commit (w.store.deleteSite id)
  | .create now site kind name owner => w.commit (w.store.create now site kind name owner)
  | .insert e => w.commit (w.store.insert e)
  | .delete id => w.commit (w.store.delete id)
  | .load snapshot => w.commit (w.store.load snapshot)
  | .edit now h steps => w.commit (w.store.edit now h steps)
  | .hold name h => w.hold name h
  | .release name => (w.release name).1
  | .subscribe interest l => w.onBus fun b => (b.subscribe interest l).1
  | .unsubscribe id => w.onBus fun b => (b.unsubscribe id).1
  | .forceRemove id => w.onBus fun b => (b.forceRemove id).1
  | .publish event => w.onBus (·.publish event)
  | .deliver => w.deliver.1
  | .shutdownBus => w.shutdownBus.1
  | .openSession name requester program runsAsRequester process =>
    w.setSession name { Session.start requester program runsAsRequester with process }
  | .resetSession name => w.onSession name Session.reset
  | .setRunAs name value => w.onSession name (·.setRunAs value)
  | .check name op r raising => (w.check name op r raising).1
  | .populate name => w.populate name
  | .groupsFor site c => (w.groupsFor site c).1
  | .forgetEntity id => (w.forget (·.forgetEntity id)).1
  | .forgetSite id => (w.forget (·.forgetSite id)).1
  | .startEngine config extras => w.startEngine config extras
  | .shutdownEngine => w.shutdownEngine

/-- The world after commands in sequence. -/
def run (w : World) (commands : List Command) : World := commands.foldl perform w

/-- The worlds that a run leads to from a new world with or without a bus. -/
def Reachable (w : World) : Prop :=
  ∃ withBus config extras commands, w = (start withBus config extras).run commands

@[simp] theorem run_nil (w : World) : w.run [] = w := rfl

@[simp] theorem run_cons (w : World) (c : Command) (cs : List Command) :
    w.run (c :: cs) = (w.perform c).run cs := rfl

theorem run_append (w : World) (as bs : List Command) : w.run (as ++ bs) = (w.run as).run bs := by
  simp [run, List.foldl_append]

theorem Reachable.perform {w : World} (h : w.Reachable) (c : Command) :
    (w.perform c).Reachable := by
  obtain ⟨withBus, config, extras, commands, rfl⟩ := h
  exact ⟨withBus, config, extras, commands ++ [c], by simp [run, List.foldl_append]⟩

theorem run_concat (w : World) (commands : List Command) (c : Command) :
    w.run (commands ++ [c]) = (w.run commands).perform c := by
  rw [run_append, run_cons, run_nil]

/-- What every command keeps, a run keeps. -/
theorem run_keeps {P : World → Prop} (step : ∀ w c, P w → P (w.perform c)) {w : World} (h : P w)
    (commands : List Command) : P (w.run commands) := by
  induction commands generalizing w with
  | nil => exact h
  | cons c cs ih => exact ih (step w c h)

theorem Reachable.run {w : World} (h : w.Reachable) (commands : List Command) :
    (w.run commands).Reachable :=
  run_keeps (P := Reachable) (fun _ c h => h.perform c) h commands

/-- What new worlds have and every command keeps, every reachable world has. -/
theorem Reachable.induction {P : World → Prop}
    (new : ∀ withBus config extras, P (start withBus config extras))
    (step : ∀ w c, P w → P (w.perform c)) {w : World} (h : w.Reachable) : P w := by
  obtain ⟨withBus, config, extras, commands, rfl⟩ := h
  exact run_keeps step (new withBus config extras) commands

end World

end WorldAccess
