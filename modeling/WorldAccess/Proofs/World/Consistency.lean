import WorldAccess.Proofs.Engine.Privilege
import WorldAccess.Proofs.World.Isolation

/-!
# Sessions are consistent

What a session shows of itself hangs together at any time, whatever is done with it and whatever
happens to the world in between. It is marked as an admin's iff it holds the admin capability; before
its capabilities are resolved it holds none and remembers no verdict, so that no verdict outlives the
capabilities it was given with; once they are resolved they stay the same until the session is reset;
and every verdict that it remembers is an acceptance or a denial. All of it rests on one inversion of
what a command can do to the session of a name.

## Main definitions

* `Session.Consistent` — the invariant
* `Command.renews` — commands that begin the session of a name anew
* `SessionFate` — what a command can do to the session of a name

## Main results

* `World.session_perform` — every command does one of these things
* `SessionFate.consistent`, `SessionFate.settled` — what each of them keeps
* `World.consistent_run` — what holds of a session in every run
-/

namespace WorldAccess

open Std

variable {s : Session} {name : String} {c : Command}

/-! ### The invariant -/

namespace Session

/-- Whether what a session shows of itself hangs together. -/
structure Consistent (s : Session) : Prop where
  marked : s.isAdmin = s.has .admin
  bare : s.populated = false → s.capabilities = ∅
  forgotten : s.populated = false → s.decisions = .empty
  decided : ∀ slot ∈ s.decisions.slots, slot.2 = .accept ∨ slot.2 = .deny

theorem consistent_start (requester program : EntityId) (runsAsRequester : Bool)
    (process : Option UInt64) :
    Consistent { start requester program runsAsRequester with process } where
  marked := rfl
  bare _ := rfl
  forgotten _ := rfl
  decided _ among := by cases among

theorem consistent_reset (s : Session) : s.reset.Consistent where
  marked := rfl
  bare _ := rfl
  forgotten _ := rfl
  decided _ among := by cases among

namespace Consistent

theorem setRunAs (h : s.Consistent) (value : Bool) : (s.setRunAs value).Consistent := by
  unfold Session.setRunAs
  split
  · exact h
  · exact ⟨h.marked, h.bare, fun _ => rfl, fun _ among => by cases among⟩

theorem populate (h : s.Consistent) (e : Engine) (store : Store) :
    (e.populate store s).2.Consistent := by
  have resolved : ¬(e.populate store s).2.populated = false := by
    rw [e.populated_populate store s]
    exact Bool.noConfusion
  refine ⟨Engine.isAdmin_populate h.marked, fun unresolved => absurd unresolved resolved,
    fun unresolved => absurd unresolved resolved, ?_⟩
  rw [(e.resolved_populate store s).decisions]
  exact h.decided

theorem evaluate (h : s.Consistent) (e : Engine) (store : Store) (op : Operation) (r : Request) :
    (e.evaluate store s op r).2.1.Consistent := by
  unfold Engine.evaluate
  dsimp only
  split
  · exact h
  · -- a verdict is only remembered once the capabilities are resolved
    have resolved := h.populate e store
    have populated := e.populated_populate store s
    refine ⟨resolved.marked, fun unresolved => ?_, fun unresolved => ?_, fun slot among => ?_⟩
    · rw [populated] at unresolved
      cases unresolved
    · rw [populated] at unresolved
      cases unresolved
    · rcases Decisions.mem_slots_store among with rfl | old
      · exact Vote.verdict_eq_accept_or_deny _
      · exact resolved.decided slot old

theorem answer (h : s.Consistent) (e : Engine) (store : Store) (op : Operation)
    (r : Option Request) (raising : Bool) : (e.answer store s op r raising).2.1.Consistent := by
  cases r with
  | none => exact h
  | some r => exact h.evaluate e store op r

end Consistent

end Session

namespace Engine

/-- A session whose capabilities are resolved goes on holding them when it is answered. -/
theorem capabilities_answer (e : Engine) (store : Store) (populated : s.populated = true)
    (op : Operation) (r : Option Request) (raising : Bool) :
    (e.answer store s op r raising).2.1.populated = true ∧
      (e.answer store s op r raising).2.1.capabilities = s.capabilities := by
  cases r with
  | none => exact ⟨populated, rfl⟩
  | some r =>
    simp only [answer, evaluate]
    split
    · exact ⟨populated, rfl⟩
    · rw [e.populate_of_populated store s populated]
      exact ⟨populated, rfl⟩

end Engine

/-! ### What commands do to a session -/

/-- Whether a command begins the session of a name anew: it opens or resets it. -/
def Command.renews (name : String) : Command → Bool
  | .openSession other .. | .resetSession other => other == name
  | _ => false

/-- What a command can do to the session of a name, from before to after. -/
inductive SessionFate (c : Command) (name : String) : Option Session → Option Session → Prop where
  | same (o : Option Session) : SessionFate c name o o
  | opened (o : Option Session) (requester program : EntityId) (runsAsRequester : Bool)
      (process : Option UInt64) (renews : c.renews name = true) :
      SessionFate c name o (some { Session.start requester program runsAsRequester with process })
  | reset (s : Session) (renews : c.renews name = true) :
      SessionFate c name (some s) (some s.reset)
  | setRunAs (s : Session) (value : Bool) : SessionFate c name (some s) (some (s.setRunAs value))
  | resolved (e : Engine) (store : Store) (s : Session) :
      SessionFate c name (some s) (some (e.populate store s).2)
  | answered (e : Engine) (store : Store) (s : Session) (op : Operation) (r : Option Request)
      (raising : Bool) : SessionFate c name (some s) (some (e.answer store s op r raising).2.1)

namespace SessionFate

variable {before after : Option Session}

/-- A consistent session is left consistent, or a consistent one takes its place. -/
theorem consistent (fate : SessionFate c name before after)
    (h : ∀ s ∈ before, s.Consistent) : ∀ s ∈ after, s.Consistent := by
  cases fate with
  | same => exact h
  | opened _ requester program runsAs process =>
    rintro _ ⟨⟩
    exact Session.consistent_start requester program runsAs process
  | reset s =>
    rintro _ ⟨⟩
    exact s.consistent_reset
  | setRunAs s value =>
    rintro _ ⟨⟩
    exact (h s rfl).setRunAs value
  | resolved e store s =>
    rintro _ ⟨⟩
    exact (h s rfl).populate e store
  | answered e store s op r raising =>
    rintro _ ⟨⟩
    exact (h s rfl).answer e store op r raising

/-- A session whose capabilities are resolved goes on holding them unless it begins anew. -/
theorem settled (fate : SessionFate c name (some s) after) (populated : s.populated = true)
    (kept : c.renews name = false) :
    ∃ s', after = some s' ∧ s'.populated = true ∧ s'.capabilities = s.capabilities := by
  cases fate with
  | same => exact ⟨s, rfl, populated, rfl⟩
  | opened _ _ _ _ _ renews | reset _ renews =>
    rw [kept] at renews
    cases renews
  | setRunAs _ value =>
    refine ⟨_, rfl, ?_⟩
    unfold Session.setRunAs
    split <;> exact ⟨populated, rfl⟩
  | resolved e store =>
    refine ⟨_, rfl, ?_⟩
    rw [e.populate_of_populated store s populated]
    exact ⟨populated, rfl⟩
  | answered e store _ op r raising =>
    exact ⟨_, rfl, e.capabilities_answer store populated op r raising⟩

end SessionFate

namespace World

variable {w : World}

/-- A session is put in the place of a name, which may be another one. -/
theorem sessionFate_setSession {other : String}
    (fate : other = name → SessionFate c name w.sessions[name]? (some s)) :
    SessionFate c name w.sessions[name]? (w.setSession other s).sessions[name]? := by
  by_cases same : other = name
  · have placed : (w.setSession other s).sessions[name]? = some s := by simp [setSession, same]
    rw [placed]
    exact fate same
  · have left : (w.setSession other s).sessions[name]? = w.sessions[name]? := by
      simp [setSession, ExtTreeMap.getElem?_insert, same]
    rw [left]
    exact .same _

theorem sessionFate_onSession {other : String} {f : Session → Session}
    (fate : ∀ s, other = name → SessionFate c name (some s) (some (f s))) :
    SessionFate c name w.sessions[name]? (w.onSession other f).sessions[name]? := by
  unfold onSession
  split
  next s found =>
    refine sessionFate_setSession fun same => ?_
    rw [← same, found, same]
    exact fate s same
  · exact .same _

/-- What a command does to the session of a name. -/
theorem session_perform (w : World) (c : Command) (name : String) :
    SessionFate c name w.sessions[name]? (w.perform c).sessions[name]? := by
  cases c
  -- three commands name the session, two more ask it, and the others leave it alone
  case openSession other requester program runsAs process =>
    refine sessionFate_setSession fun same => .opened _ requester program runsAs process ?_
    simpa [Command.renews] using same
  case resetSession other =>
    refine sessionFate_onSession fun s same => .reset s ?_
    simpa [Command.renews] using same
  case setRunAs other value => exact sessionFate_onSession fun s _ => .setRunAs s value
  case check other op r raising =>
    simp only [perform, check]
    split
    next e s _ found =>
      refine sessionFate_setSession (w := { w with engine := _ }) fun same => ?_
      rw [← same, found]
      exact .answered e w.store s op r raising
    · exact .same _
  case populate other =>
    simp only [perform, populate]
    split
    next e s _ found =>
      refine sessionFate_setSession (w := { w with engine := _ }) fun same => ?_
      rw [← same, found]
      exact .resolved e w.store s
    · exact .same _
  case deliver =>
    rw [perform, sessions_deliver]
    exact .same _
  case shutdownBus =>
    simp only [perform, shutdownBus, sessions_drain]
    exact .same _
  case groupsFor => simp only [perform, groupsFor]; split <;> exact .same _
  case forgetEntity | forgetSite => simp only [perform, forget]; split <;> exact .same _
  case shutdownEngine => simp only [perform, shutdownEngine]; split <;> exact .same _
  all_goals exact .same _

/-- Every session of a run is consistent. -/
theorem consistent_of_run (h : ∀ s ∈ w.sessions[name]?, s.Consistent) (commands : List Command) :
    ∀ s ∈ (w.run commands).sessions[name]?, s.Consistent :=
  run_keeps (P := fun w => ∀ s ∈ w.sessions[name]?, s.Consistent)
    (fun w c h => (session_perform w c name).consistent h) h commands

/-- Over a run that does not begin a session anew, it goes on holding what it has been found to
hold. -/
theorem settled_run (session : w.sessions[name]? = some s) (populated : s.populated = true)
    {commands : List Command} (kept : ∀ c ∈ commands, c.renews name = false) :
    ∃ s', (w.run commands).sessions[name]? = some s' ∧ s'.populated = true ∧
      s'.capabilities = s.capabilities := by
  induction commands generalizing w s with
  | nil => exact ⟨s, session, populated, rfl⟩
  | cons c commands ih =>
    obtain ⟨first, later⟩ := List.forall_mem_cons.mp kept
    have fate := session ▸ session_perform w c name
    obtain ⟨s', session', populated', same⟩ := fate.settled populated first
    obtain ⟨s'', session'', populated'', same'⟩ := ih session' populated' later
    exact ⟨s'', session'', populated'', same'.trans same⟩

/-- What holds of a session at any moment of a run, whatever is asked in it, however it is set to
run, and whatever happens to the store, the bus and the engine in between. It is marked as an admin's
iff it holds the admin capability. Before its capabilities are resolved it holds none and remembers
nothing. Every verdict that it remembers is an acceptance or a denial. Once its capabilities are
resolved, they are the same at every later moment until it begins anew. -/
theorem consistent_run {withBus : Bool} {config : Config} {extras : List (Operation × Checker)}
    {past : List Command}
    (session : ((start withBus config extras).run past).sessions[name]? = some s) :
    (s.isAdmin = true ↔ Capability.admin ∈ s.capabilities) ∧
      (s.populated = false → s.capabilities = ∅ ∧ s.decisions.slots = []) ∧
      (∀ slot ∈ s.decisions.slots, slot.2 = .accept ∨ slot.2 = .deny) ∧
      (s.populated = true → ∀ later : List Command, (∀ c ∈ later, c.renews name = false) →
        ∃ s', ((start withBus config extras).run (past ++ later)).sessions[name]? = some s' ∧
          s'.populated = true ∧ s'.capabilities = s.capabilities) := by
  have consistent : s.Consistent := by
    refine consistent_of_run (w := start withBus config extras) (fun s begun => ?_) past s session
    simp [start, startEngine] at begun
  refine ⟨?_, fun unresolved => ⟨consistent.bare unresolved, ?_⟩, consistent.decided,
    fun populated later kept => ?_⟩
  · rw [consistent.marked, Session.has]
    exact ExtTreeSet.contains_iff_mem
  · rw [consistent.forgotten unresolved]
    rfl
  · rw [run_append]
    exact settled_run session populated kept

/-- A run in which a player has been asked about as an admin. -/
def adminGranted : List Command :=
  [.registerSite 2 "main", .create .epoch 2 .player "smith" .none,
    .create .epoch 2 .capability "ADMIN" .none, .edit .epoch ⟨⟨2, 2⟩, 1⟩ [.edit (.addMember ⟨2, 1⟩)],
    .openSession "s" ⟨2, 1⟩ .none true none, .check "s" .characterOnline (some .global) false]

/-- What may follow: the capability is taken from the player and then deleted, and the session goes
on. -/
def adminRevoked : List Command :=
  [.edit .epoch ⟨⟨2, 2⟩, 1⟩ [.edit (.removeMember ⟨2, 1⟩)], .deliver, .delete ⟨2, 2⟩, .deliver,
    .setRunAs "s" false, .check "s" .getContains none true, .populate "s", .resetSession "t",
    .check "s" .deleteEntity (some (.kind .room)) false]

theorem consistent_run_adminRevoked :
    ∃ s s', ((start true {} []).run adminGranted).sessions["s"]? = some s ∧
      s.populated = true ∧ Capability.admin ∈ s.capabilities ∧
      ((start true {} []).run (adminGranted ++ adminRevoked)).sessions["s"]? = some s' ∧
      s'.populated = true ∧ s'.capabilities = s.capabilities := by
  have found : ((start true {} []).run adminGranted).sessions["s"]?.map (fun s =>
      (s.populated, s.isAdmin)) = some (true, true) := by decide +kernel
  obtain ⟨s, session, shown⟩ := Option.map_eq_some_iff.mp found
  obtain ⟨populated, marked⟩ := Prod.mk.inj shown
  obtain ⟨holds, _, _, settled⟩ := consistent_run session
  obtain ⟨s', session', populated', same⟩ := settled populated adminRevoked (by decide)
  exact ⟨s, s', session, populated, holds.mp marked, session', populated', same⟩

end World

end WorldAccess
