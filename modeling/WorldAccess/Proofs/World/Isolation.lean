import WorldAccess.Proofs.Engine.Sessions
import WorldAccess.Proofs.World.Steps

/-!
# Isolation of sites

Every chain is led by the checker that refuses what lies in a site apart from the actors' sites, and
its refusal is final. A session may nevertheless answer from what it remembers, so isolation rests
on an invariant: no session remembers an acceptance of anything that lies apart. Verdicts are
remembered under the ids a request is about, which is all the leading checker looks at, and no
command gives a session other actors.

## Main definitions

* `Session.isApart` — an id lies in a site apart from those of the actors
* `Session.Isolated` — no acceptance of anything apart is remembered
* `Command.UsesGlobalSite` — an engine is only started with the given global site

## Main results

* `Engine.freshVerdict_of_apart` — every chain denies what lies apart
* `Session.Isolated.evaluate` — answering keeps a session isolated
* `World.isolating_run` — over a run, sessions stay isolated
* `World.check_apart` — what lies apart is never allowed
-/

namespace WorldAccess

open Std

variable {g : SiteId} {s s' : Session} {r : Request}

/-- The ids a request is about. -/
def Scope.ids : Scope → List EntityId
  | .global | .kind _ => []
  | .target id | .application id _ | .field id _ => [id]
  | .transfer id other => [id, other]

/-- Entities are remembered by their ids. -/
theorem Request.ids_scope (r : Request) : r.scope.ids = r.entities.map (·.id) := by
  cases r <;> rfl

namespace Session

/-- Whether an id names something in a site that is apart from the site of one who acts. -/
def isApart (g : SiteId) (s : Session) (id : EntityId) : Bool :=
  id.isValid && (Checker.actorSites s).any fun a => !Checker.sitesMeet g a id.site

/-- An id lies apart if its site and that of one who acts are two, and neither is global. -/
theorem isApart_of_ne {actor id : EntityId}
    (acts : actor = s.requester ∨ actor = s.program ∧ s.program.isValid = true)
    (valid : id.isValid = true) (ne : actor.site ≠ id.site) (actorLocal : actor.site ≠ g)
    (idLocal : id.site ≠ g) : s.isApart g id = true := by
  have among : actor.site ∈ Checker.actorSites s := by
    rcases acts with rfl | ⟨rfl, program⟩
    · exact List.mem_cons_self
    · simp [Checker.actorSites, program]
  have apart : (!Checker.sitesMeet g actor.site id.site) = true := by
    simp [Checker.sitesMeet, ne, actorLocal, idLocal]
  rw [isApart, valid, Bool.true_and]
  exact List.any_eq_true.mpr ⟨actor.site, among, apart⟩

/-- Who is apart depends on the actors alone. -/
theorem isApart_congr (requester : s'.requester = s.requester) (program : s'.program = s.program) :
    s'.isApart g = s.isApart g := by
  funext id
  simp only [isApart, Checker.actorSites, requester, program]

/-- A session that remembers no acceptance of anything that lies apart. -/
def Isolated (g : SiteId) (s : Session) : Prop :=
  ∀ q, (q, Vote.accept) ∈ s.decisions.slots → ∀ id ∈ q.scope.ids, s.isApart g id = false

theorem isolated_of_forgotten (h : s.decisions = .empty) : s.Isolated g := by
  intro q hq
  rw [h] at hq
  cases hq

end Session

/-! ### The leading checker -/

/-- A refusal for good at the head of the votes is the verdict. -/
theorem Vote.verdict_denyAlways_cons (votes : List Vote) :
    Vote.verdict (.denyAlways :: votes) = .deny := rfl

theorem Checker.crossSiteVote_of_apart {w : Surroundings} {id : EntityId}
    (asked : id ∈ r.scope.ids) (apart : s.isApart w.globalSite id = true) :
    Checker.crossSiteVote w s r = .denyAlways := by
  rw [Request.ids_scope] at asked
  obtain ⟨e, he, rfl⟩ := List.mem_map.mp asked
  have refused : (r.entities.any fun e => e.id.isValid &&
      (Checker.actorSites s).any fun a => !Checker.sitesMeet w.globalSite a e.id.site) = true :=
    List.any_eq_true.mpr ⟨e, he, apart⟩
  rw [Checker.crossSiteVote, if_pos refused]

namespace Engine

variable (e : Engine) (store : Store) (op : Operation)

/-- The leading checker votes first in every chain, whatever is appended to it. -/
theorem votes_eq_cons (s : Session) (r : Request) :
    ∃ later, e.votes store s op r =
      Checker.crossSiteVote (e.surroundings store) s r :: later := ⟨_, rfl⟩

/-- Every chain denies what lies apart, whatever the session holds. -/
theorem freshVerdict_of_apart {id : EntityId} (asked : id ∈ r.scope.ids)
    (apart : s.isApart e.config.globalSite id = true) : e.freshVerdict store s op r = .deny := by
  have resolved := resolved_populate e store s
  obtain ⟨later, votes⟩ :=
    (e.populate store s).1.votes_eq_cons store op (e.populate store s).2 r
  have still : (e.populate store s).2.isApart
      ((e.populate store s).1.surroundings store).globalSite id = true := by
    rw [surroundings, config_populate, Session.isApart_congr resolved.requester resolved.program]
    exact apart
  rw [freshVerdict, votes, Checker.crossSiteVote_of_apart asked still]
  exact Vote.verdict_denyAlways_cons later

end Engine

/-- An isolated session never gets an acceptance of a request on something that lies apart. -/
theorem Session.Isolated.evaluate_ne_accept {e : Engine} (isolated : s.Isolated e.config.globalSite)
    (store : Store) (op : Operation) {id : EntityId} (asked : id ∈ r.scope.ids)
    (apart : s.isApart e.config.globalSite id = true) :
    (e.evaluate store s op r).2.2 ≠ .accept := by
  rw [Engine.evaluate_eq, Engine.freshVerdict_of_apart e store op asked apart]
  intro accepted
  cases hit : s.decisions.lookup? ⟨op, r.scope⟩ with
  | none => simp [hit] at accepted
  | some v =>
    -- a remembered acceptance would be of something that does not lie apart
    obtain rfl : v = .accept := by simpa [hit] using accepted
    have inside := isolated ⟨op, r.scope⟩ (Decisions.mem_of_lookup? hit) id asked
    rw [inside] at apart
    cases apart

/-- Answering a request keeps a session isolated. -/
theorem Session.Isolated.evaluate {e : Engine} (isolated : s.Isolated e.config.globalSite)
    (store : Store) (op : Operation) (r : Request) :
    (e.evaluate store s op r).2.1.Isolated e.config.globalSite := by
  obtain ⟨requester, program⟩ := e.requester_evaluate store s op r
  intro q hq id hid
  rw [Session.isApart_congr requester program]
  rcases e.mem_slots_evaluate store s op hq with old | new
  · exact isolated q old id hid
  · -- the chain's own acceptance: nothing it was asked on lies apart
    injection new with question accepted
    subst question
    refine Bool.eq_false_iff.mpr fun apart => ?_
    rw [Engine.freshVerdict_of_apart e store op hid apart] at accepted
    cases accepted

theorem Session.Isolated.answer {e : Engine} (isolated : s.Isolated e.config.globalSite)
    (store : Store) (op : Operation) (r : Option Request) (raising : Bool) :
    (e.answer store s op r raising).2.1.Isolated e.config.globalSite := by
  cases r with
  | none => exact isolated
  | some r => exact isolated.evaluate store op r

theorem Session.Isolated.populate {e : Engine} (isolated : s.Isolated g) (store : Store) :
    (e.populate store s).2.Isolated g := by
  have resolved := e.resolved_populate store s
  intro q hq
  rw [resolved.decisions] at hq
  rw [Session.isApart_congr resolved.requester resolved.program]
  exact isolated q hq

/-! ### Runs -/

/-- Whether a command, if it starts an engine, starts one with the given global site. -/
def Command.UsesGlobalSite (g : SiteId) : Command → Prop
  | .startEngine config _ => config.globalSite = g
  | _ => True

namespace World

variable {w : World} {c : Command}

/-- The settings of the engine, if there is one. -/
def settings (w : World) : Option Config := w.engine.map (·.config)

/-- Listeners do not touch the engine's settings. -/
theorem reaction_keeps_settings : reaction.Keeps fun (a b : Bus Listener × Audience) =>
    b.2.1.map (·.config) = a.2.1.map (·.config) where
  refl _ := rfl
  trans h h' := h'.trans h
  onEvent l id event state := by
    obtain ⟨bus, engine, notices⟩ := state
    cases l with
    | engine => cases engine <;> rfl
    | observer | observerOnce | failing => rfl
  onRemoved l id state := by
    obtain ⟨bus, engine, notices⟩ := state
    cases l with
    | observer | observerOnce | failing => rfl
    | engine =>
      cases engine with
      | none => rfl
      | some e => cases hw : e.watch <;> simp [reaction, lose, hw]

theorem settings_deliver (w : World) : w.deliver.1.settings = w.settings :=
  engine_deliver (R := fun e e' => e'.map (·.config) = e.map (·.config)) reaction_keeps_settings w

theorem settings_drain (w : World) : w.drain.1.settings = w.settings :=
  engine_drain (R := fun e e' => e'.map (·.config) = e.map (·.config)) reaction_keeps_settings w

theorem sessions_deliver (w : World) : w.deliver.1.sessions = w.sessions := by
  unfold deliver
  split <;> rfl

theorem sessions_drain (w : World) : w.drain.1.sessions = w.sessions := by
  unfold drain
  split <;> rfl

/-- A world with an engine of the given global site, whose sessions are all isolated. -/
structure Isolating (g : SiteId) (w : World) : Prop where
  engine : ∃ config, w.settings = some config ∧ config.globalSite = g
  sessions : ∀ (name : String) (s : Session), w.sessions[name]? = some s → s.Isolated g

theorem Isolating.of_eq {w' : World} (h : w.Isolating g) (settings : w'.settings = w.settings)
    (sessions : w'.sessions = w.sessions) : w'.Isolating g :=
  ⟨settings ▸ h.engine, sessions ▸ h.sessions⟩

/-- Another session is put in the place of one name. -/
theorem Isolating.setSession (h : w.Isolating g) (name : String) (isolated : s.Isolated g) :
    (w.setSession name s).Isolating g := by
  refine ⟨h.engine, fun other t ht => ?_⟩
  by_cases same : name = other
  · obtain rfl : s = t := by simpa [World.setSession, same] using ht
    exact isolated
  · refine h.sessions other t ?_
    simpa [World.setSession, ExtTreeMap.getElem?_insert, same] using ht

theorem Isolating.onSession (h : w.Isolating g) (name : String) {f : Session → Session}
    (keeps : ∀ s : Session, s.Isolated g → (f s).Isolated g) :
    (w.onSession name f).Isolating g := by
  unfold World.onSession
  split
  next s hs => exact h.setSession name (keeps s (h.sessions name s hs))
  · exact h

theorem isolating_startEngine {w : World} {config : Config} (extras : List (Operation × Checker))
    (global : config.globalSite = g)
    (sessions : ∀ (name : String) (s : Session), w.sessions[name]? = some s → s.Isolated g) :
    (w.startEngine config extras).Isolating g := by
  refine ⟨⟨config, ?_, global⟩, sessions⟩
  unfold startEngine Engine.start
  dsimp only
  split <;> rfl

theorem Isolating.globalSite (h : w.Isolating g) {e : Engine} (he : w.engine = some e) :
    e.config.globalSite = g := by
  obtain ⟨config, settings, global⟩ := h.engine
  obtain rfl : e.config = config := by simpa [World.settings, he] using settings
  exact global

/-- An engine of the same global site takes the place of the one before. -/
theorem Isolating.setEngine (h : w.Isolating g) {e : Engine} (global : e.config.globalSite = g) :
    Isolating g { w with engine := some e } :=
  ⟨⟨e.config, rfl, global⟩, h.sessions⟩

theorem Isolating.check (h : w.Isolating g) (name : String) (op : Operation) (r : Option Request)
    (raising : Bool) : (w.check name op r raising).1.Isolating g := by
  unfold World.check
  split
  next e s he hs =>
    have global := h.globalSite he
    have isolated : s.Isolated e.config.globalSite := global ▸ h.sessions name s hs
    have answered := isolated.answer w.store op r raising
    have engine := h.setEngine (e := (e.answer w.store s op r raising).1)
      (by rw [e.config_answer, global])
    exact engine.setSession name (global ▸ answered)
  · exact h

theorem Isolating.populate (h : w.Isolating g) (name : String) :
    (w.populate name).Isolating g := by
  unfold World.populate
  split
  next e s he hs =>
    have engine := h.setEngine (e := (e.populate w.store s).1)
      (by rw [e.config_populate, h.globalSite he])
    exact engine.setSession name ((h.sessions name s hs).populate w.store)
  · exact h

theorem Isolating.groupsFor (h : w.Isolating g) (site : SiteId) (cap : Capability) :
    (w.groupsFor site cap).1.Isolating g := by
  unfold World.groupsFor
  split
  · exact h
  next e he => exact h.setEngine (h.globalSite (e := e) he)

theorem Isolating.forget {α : Type} (h : w.Isolating g) (clear : GrantLists → GrantLists × α) :
    (w.forget clear).1.Isolating g := by
  unfold World.forget
  split
  · exact h
  next e he => exact h.setEngine (h.globalSite (e := e) he)

theorem Isolating.shutdownEngine (h : w.Isolating g) : w.shutdownEngine.Isolating g := by
  unfold World.shutdownEngine
  split
  next e he =>
    have global : (e.shutdown w.bus).1.config.globalSite = g := by
      rw [e.config_shutdown, h.globalSite he]
    exact ⟨⟨_, rfl, global⟩, h.sessions⟩
  · exact h

/-- Every command keeps sessions isolated, if it starts no engine of another global site. -/
theorem Isolating.perform (h : w.Isolating g) (uses : c.UsesGlobalSite g) :
    (w.perform c).Isolating g := by
  cases c
  case openSession name requester program runsAs process =>
    exact h.setSession name (Session.isolated_of_forgotten rfl)
  case resetSession name => exact h.onSession name fun s _ => Session.isolated_of_forgotten rfl
  case setRunAs name value =>
    refine h.onSession name fun s isolated => ?_
    unfold Session.setRunAs
    split
    · exact isolated
    · exact Session.isolated_of_forgotten rfl
  case check name op r raising => exact h.check name op r raising
  case populate name => exact h.populate name
  case startEngine config extras => exact isolating_startEngine extras uses h.sessions
  case deliver => exact h.of_eq (settings_deliver w) (sessions_deliver w)
  case shutdownBus => exact h.of_eq (settings_drain w) (sessions_drain w)
  case groupsFor site cap => exact h.groupsFor site cap
  case forgetEntity id => exact h.forget _
  case forgetSite id => exact h.forget _
  case shutdownEngine => exact h.shutdownEngine
  all_goals exact h.of_eq rfl rfl

theorem isolating_run (h : w.Isolating g) {commands : List Command}
    (uses : ∀ c ∈ commands, c.UsesGlobalSite g) : (w.run commands).Isolating g := by
  induction commands generalizing w with
  | nil => exact h
  | cons c commands ih =>
    refine ih (h.perform (uses c List.mem_cons_self)) fun d hd => ?_
    exact uses d (List.mem_cons_of_mem c hd)

/-- In every run under one global site, a request on an entity is never allowed if the entity's site
and the site of one who acts are two and neither is the global one: whatever checkers are appended,
and whatever the session holds and remembers. -/
theorem check_apart {withBus : Bool} {config : Config} {extras : List (Operation × Checker)}
    {commands : List Command} (uses : ∀ c ∈ commands, c.UsesGlobalSite config.globalSite)
    {name : String} {s : Session}
    (session : ((start withBus config extras).run commands).sessions[name]? = some s)
    {actor : EntityId} (acts : actor = s.requester ∨ actor = s.program ∧ s.program.isValid = true)
    {r : Request} {h : Handle} {e : Entity} (asked : e ∈ r.entities)
    (read : ((start withBus config extras).run commands).store.read? h = some e)
    (apart : actor.site ≠ e.id.site) (actorLocal : actor.site ≠ config.globalSite)
    (entityLocal : e.id.site ≠ config.globalSite) (op : Operation) (raising : Bool) :
    ∃ answer,
      (((start withBus config extras).run commands).check name op (some r) raising).2 =
        some answer ∧ answer ≠ .ok true := by
  have isolating : ((start withBus config extras).run commands).Isolating config.globalSite := by
    refine isolating_run (isolating_startEngine extras rfl fun name s hs => ?_) uses
    simp at hs
  have reachable : ((start withBus config extras).run commands).Reachable :=
    ⟨withBus, config, extras, commands, rfl⟩
  -- from here on only the two invariants count, and not the run
  generalize (start withBus config extras).run commands = w at *
  obtain ⟨⟨config', settings, global⟩, sessions⟩ := isolating
  obtain ⟨engine, running, rfl⟩ := Option.map_eq_some_iff.mp settings
  have valid := reachable.wellFormed.isValid_of_read? read
  have isApart : s.isApart engine.config.globalSite e.id = true := by
    rw [global]
    exact Session.isApart_of_ne acts valid apart actorLocal entityLocal
  have scope : e.id ∈ r.scope.ids := by
    rw [Request.ids_scope]
    exact List.mem_map_of_mem asked
  have isolated : s.Isolated engine.config.globalSite := global ▸ sessions name s session
  have refused := isolated.evaluate_ne_accept w.store op scope isApart
  refine ⟨_, by simp only [check, running, session]; rfl, ?_⟩
  simp only [Engine.answer, if_neg refused]
  split <;> simp

/-- Those who run a session of this configuration are admins without any capability. -/
def trustingConfig : Config := { implicitAdmins := [⟨2, 1⟩] }

/-- A checker that is appended to the deletion of entities and accepts everything for good. -/
def trustingExtras : List (Operation × Checker) :=
  [(.deleteEntity, .supplied "trusting" fun _ _ _ => .acceptAlways)]

/-- A run in which an admin of one site has been allowed to delete an entity of that site, and a
session's way of running has changed. -/
def trustingRun : List Command :=
  [.registerSite 2 "near", .registerSite 3 "far", .create .epoch 2 .player "admin" .none,
    .create .epoch 3 .room "hall" .none, .openSession "s" ⟨2, 1⟩ .none true none,
    .check "s" .deleteEntity
      (some (.target (.fresh .epoch ⟨2, 1⟩ .player "admin" .none))) false,
    .setRunAs "s" false, .setRunAs "s" true, .populate "s"]

theorem check_apart_trustingRun :
    (((start true trustingConfig trustingExtras).run trustingRun).sessions["s"]?.any
        (·.isAdmin)) = true ∧
      ∃ answer, (((start true trustingConfig trustingExtras).run trustingRun).check "s"
          .deleteEntity (some (.target (.fresh .epoch ⟨3, 1⟩ .room "hall" .none))) true).2 =
        some answer ∧ answer ≠ .ok true := by
  have requester : ((start true trustingConfig trustingExtras).run
      trustingRun).sessions["s"]?.map (·.requester) = some ⟨2, 1⟩ := by decide +kernel
  have read : ((start true trustingConfig trustingExtras).run trustingRun).store.read?
      ⟨⟨3, 1⟩, 1⟩ = some (.fresh .epoch ⟨3, 1⟩ .room "hall" .none) := by decide +kernel
  obtain ⟨s, session, acts⟩ := Option.map_eq_some_iff.mp requester
  refine ⟨by decide +kernel, ?_⟩
  exact check_apart (by simp [trustingRun, Command.UsesGlobalSite]) session (Or.inl acts.symm)
    (List.mem_singleton.mpr rfl) read (by decide) (by decide) (by decide) .deleteEntity true

end World

end WorldAccess
