import WorldAccess.Proofs.Engine.Capabilities
import WorldAccess.Proofs.World.Steps

/-!
# Remembered verdicts are not seen

A session remembers verdicts and resolves its capabilities once. As long as the store and the grant
lists stay what they are, neither can be told from outside: whatever has been asked before, and
however often the ring of remembered verdicts has been overwritten, every answer is the one that a
new session of the same actors gives that runs in the same way. The invariant is that a session is
*honest*: what it holds is what a new session is found to hold, and every verdict that it remembers
on entities as they are stored is the one that a new session is given.

## Main definitions

* `Request.IsCurrent` — a request on entities as they are stored
* `Session.Honest` — the invariant
* `Command.OnlyAsks` — commands that leave the store and the grant lists to what they are

## Main results

* `Session.Honest.freshVerdict` — the chain's verdict is that on a new session
* `Session.Honest.evaluate` — answering keeps a session honest
* `World.transparent_run` — over a run of questions, sessions stay honest
* `World.check_eq_anew` — every answer is that of a new session
-/

namespace WorldAccess

open Std

variable {s s' : Session} {store : Store} {r r' : Request}

/-! ### Requests on what is stored -/

/-- Whether the entities of a request are as they are stored. -/
def Request.IsCurrent (store : Store) (r : Request) : Prop :=
  ∀ e ∈ r.entities, store.get? e.id = some e

/-- A request on no entity is current. -/
theorem Request.isCurrent_of_nil (h : r.entities = []) : r.IsCurrent store := by
  intro e asked
  rw [h] at asked
  cases asked

/-- Current requests about the same are the same. -/
theorem Request.IsCurrent.eq_of_scope (h : r.IsCurrent store) (h' : r'.IsCurrent store)
    (same : r.scope = r'.scope) : r = r' := by
  have stored : ∀ {a b : Entity}, store.get? a.id = some a → store.get? b.id = some b →
      a.id = b.id → a = b := by
    intro a b ha hb hid
    rw [hid, hb] at ha
    exact (Option.some_inj.mp ha).symm
  cases r <;> cases r' <;> simp only [scope, Scope.kind.injEq, Scope.target.injEq,
    Scope.application.injEq, Scope.field.injEq, Scope.transfer.injEq, reduceCtorEq] at same
  case global => rfl
  case kind => rw [same]
  case target a b => rw [stored (h a (by simp [entities])) (h' b (by simp [entities])) same]
  case application a _ b _ =>
    rw [stored (h a (by simp [entities])) (h' b (by simp [entities])) same.1, same.2]
  case field a _ b _ =>
    rw [stored (h a (by simp [entities])) (h' b (by simp [entities])) same.1, same.2]
  case transfer a c b d =>
    rw [stored (h a (by simp [entities])) (h' b (by simp [entities])) same.1,
      stored (h c (by simp [entities])) (h' d (by simp [entities])) same.2]

/-! ### Honest sessions -/

namespace Session

/-- Whether a session gives nothing away of what was asked before. Its capabilities, once resolved,
are those of a new session, and so is every verdict that it remembers on what is stored. -/
structure Honest (e : Engine) (store : Store) (s : Session) : Prop where
  unresolved : s.populated = false → s.anew.SameStanding s
  resolved : s.populated = true → (e.populate store s.anew).2.SameStanding s
  remembered : ∀ (op : Operation) (r : Request) (v : Vote), r.IsCurrent store →
    (⟨op, r.scope⟩, v) ∈ s.decisions.slots → v = e.freshVerdict store s.anew op r

theorem honest_anew (e : Engine) (store : Store) (s : Session) : s.anew.Honest e store where
  unresolved _ := .refl s.anew
  resolved h := by cases h
  remembered _ _ _ _ h := by cases h

end Session

namespace Session.Honest

open Engine

variable {e e' : Engine}

/-- An honest session is found to hold what a new session is found to hold. -/
theorem standing (h : s.Honest e store) (alike : Alike store e e') :
    (e.populate store s.anew).2.SameStanding (e'.populate store s).2 := by
  cases populated : s.populated with
  | false => exact sameStanding_populate alike (h.unresolved populated) populated
  | true =>
    rw [e'.populate_of_populated store s populated]
    exact h.resolved populated

/-- The chain gives an honest session the verdict that it gives a new one. -/
theorem freshVerdict (h : s.Honest e store) (alike : Alike store e e')
    (stateless : ∀ extra ∈ e.extras, extra.2.Stateless) (op : Operation) (r : Request) :
    e'.freshVerdict store s op r = e.freshVerdict store s.anew op r :=
  freshVerdict_congr alike stateless (h.standing alike) rfl (Or.inl rfl) op r

theorem populate (h : s.Honest e store) (alike : Alike store e e') :
    (e'.populate store s).2.Honest e store := by
  have found := e'.resolved_populate store s
  refine ⟨fun unresolved => ?_, fun _ => ?_, ?_⟩
  · rw [e'.populated_populate] at unresolved
    cases unresolved
  · rw [found.anew_eq]
    exact h.standing alike
  · rw [found.anew_eq, found.decisions]
    exact h.remembered

/-- What a session remembers of a verdict may be replaced, as long as it is honest. -/
theorem setDecisions (h : s.Honest e store) {d : Decisions}
    (honest : ∀ (op : Operation) (r : Request) (v : Vote), r.IsCurrent store →
      (⟨op, r.scope⟩, v) ∈ d.slots → v = e.freshVerdict store s.anew op r) :
    Session.Honest e store { s with decisions := d } := by
  have same : s.SameStanding { s with decisions := d } := ⟨rfl, rfl, rfl, rfl⟩
  exact ⟨fun unresolved => (h.unresolved unresolved).trans same,
    fun resolved => (h.resolved resolved).trans same, honest⟩

/-- Answering a request on what is stored keeps a session honest. -/
theorem evaluate (h : s.Honest e store) (alike : Alike store e e')
    (stateless : ∀ extra ∈ e.extras, extra.2.Stateless) (op : Operation)
    (current : r.IsCurrent store) : (e'.evaluate store s op r).2.1.Honest e store := by
  have slots : ∀ slot ∈ (e'.evaluate store s op r).2.1.decisions.slots,
      slot ∈ s.decisions.slots ∨ slot = (⟨op, r.scope⟩, e'.freshVerdict store s op r) :=
    fun _ among => e'.mem_slots_evaluate store s op among
  unfold Engine.evaluate at slots ⊢
  dsimp only at slots ⊢
  split
  · exact h
  next miss =>
    rw [miss] at slots
    refine (h.populate alike).setDecisions fun op' r' v current' remembered => ?_
    rw [(e'.resolved_populate store s).anew_eq]
    rcases slots _ remembered with old | new
    · exact h.remembered op' r' v current' old
    · -- the verdict that has just been given
      injection new with question verdict
      injection question with same scope
      obtain rfl : r' = r := current'.eq_of_scope current scope
      rw [verdict, same, h.freshVerdict alike stateless]

theorem answer (h : s.Honest e store) (alike : Alike store e e')
    (stateless : ∀ extra ∈ e.extras, extra.2.Stateless) (op : Operation) {r : Option Request}
    (current : ∀ q ∈ r, q.IsCurrent store) (raising : Bool) :
    (e'.answer store s op r raising).2.1.Honest e store := by
  cases r with
  | none => exact h
  | some r => exact h.evaluate alike stateless op (current r rfl)

/-- The way a session runs does not change what it is found to hold. -/
theorem setRunAs (h : s.Honest e store) (value : Bool) : (s.setRunAs value).Honest e store := by
  unfold Session.setRunAs
  split
  · exact h
  · have new : s.anew.SameStanding { s.anew with runsAsRequester := value } :=
      ⟨rfl, rfl, rfl, rfl⟩
    have found := sameStanding_populate (.refl store e) new rfl
    have same : s.SameStanding { s with runsAsRequester := value, decisions := .empty } :=
      ⟨rfl, rfl, rfl, rfl⟩
    exact ⟨fun unresolved => new.symm.trans ((h.unresolved unresolved).trans same),
      fun resolved => found.symm.trans ((h.resolved resolved).trans same),
      fun _ _ _ _ forgotten => by cases forgotten⟩

theorem reset (e : Engine) (store : Store) (s : Session) : s.reset.Honest e store where
  unresolved _ := ⟨rfl, rfl, rfl, rfl⟩
  resolved h := by cases h
  remembered _ _ _ _ h := by cases h

/-- An honest session remembers on what is stored the verdict that the chain gives a new one. -/
theorem evaluate_snd (h : s.Honest e store) (alike : Alike store e e')
    (stateless : ∀ extra ∈ e.extras, extra.2.Stateless) (op : Operation)
    (current : r.IsCurrent store) :
    (e'.evaluate store s op r).2.2 = e.freshVerdict store s.anew op r := by
  rw [evaluate_eq]
  cases hit : s.decisions.lookup? ⟨op, r.scope⟩ with
  | none => exact h.freshVerdict alike stateless op r
  | some v => exact h.remembered op r v current (Decisions.mem_of_lookup? hit)

end Session.Honest

/-! ### Runs of questions -/

/-- Whether a command leaves the store and what the grant lists answer as they are. Requests are on
entities as they are stored. -/
def Command.OnlyAsks (store : Store) : Command → Prop
  | .check _ _ r _ => ∀ q ∈ r, q.IsCurrent store
  | .openSession .. | .resetSession _ | .setRunAs .. | .populate _ | .groupsFor .. => True
  | .hold .. | .release _ | .subscribe .. | .unsubscribe _ | .forceRemove _ | .publish _ => True
  | _ => False

namespace World

variable {w : World} {c : Command} {e : Engine} {name : String}

/-- A world over a store in which an engine like the given one answers, and the session of a name,
if there is one, is honest. -/
structure Transparent (e : Engine) (store : Store) (name : String) (w : World) : Prop where
  unchanged : w.store = store
  engine : ∃ e', w.engine = some e' ∧ e.Alike store e'
  session : ∀ s, w.sessions[name]? = some s → s.Honest e store

theorem Transparent.of_eq (h : w.Transparent e store name) {w' : World}
    (same : w'.store = w.store) (engine : w'.engine = w.engine)
    (sessions : w'.sessions = w.sessions) : w'.Transparent e store name :=
  ⟨same.trans h.unchanged, engine ▸ h.engine, sessions ▸ h.session⟩

/-- The engine that is running is alike to the given one. -/
theorem Transparent.alike (h : w.Transparent e store name) {e' : Engine}
    (running : w.engine = some e') : e.Alike store e' := by
  obtain ⟨e'', running', alike⟩ := h.engine
  obtain rfl : e' = e'' := Option.some_inj.mp (running.symm.trans running')
  exact alike

/-- An engine that answers alike takes the place of the one before. -/
theorem Transparent.setEngine (h : w.Transparent e store name) {e' : Engine}
    (alike : e.Alike store e') : Transparent e store name { w with engine := some e' } :=
  ⟨h.unchanged, ⟨e', rfl, alike⟩, h.session⟩

theorem Transparent.setSession (h : w.Transparent e store name) {other : String}
    (honest : other = name → s.Honest e store) :
    (w.setSession other s).Transparent e store name := by
  refine ⟨h.unchanged, h.engine, fun t ht => ?_⟩
  by_cases same : other = name
  · obtain rfl : s = t := by simpa [World.setSession, same] using ht
    exact honest same
  · refine h.session t ?_
    simpa [World.setSession, ExtTreeMap.getElem?_insert, same] using ht

theorem Transparent.onSession (h : w.Transparent e store name) (other : String)
    {f : Session → Session} (keeps : ∀ s : Session, s.Honest e store → (f s).Honest e store) :
    (w.onSession other f).Transparent e store name := by
  unfold World.onSession
  split
  next s hs =>
    refine h.setSession fun same => keeps s (h.session s ?_)
    rw [← same]
    exact hs
  · exact h

theorem Transparent.check (h : w.Transparent e store name)
    (stateless : ∀ extra ∈ e.extras, extra.2.Stateless) (other : String) (op : Operation)
    {r : Option Request} (current : ∀ q ∈ r, q.IsCurrent store) (raising : Bool) :
    (w.check other op r raising).1.Transparent e store name := by
  unfold World.check
  split
  next e' s running hs =>
    obtain rfl := h.unchanged
    have alike := h.alike running
    have engine := h.setEngine (alike.trans (e'.alike_answer w.store s op r raising))
    refine engine.setSession fun same => ?_
    subst same
    exact (h.session s hs).answer alike stateless op current raising
  · exact h

theorem Transparent.populate (h : w.Transparent e store name) (other : String) :
    (w.populate other).Transparent e store name := by
  unfold World.populate
  split
  next e' s running hs =>
    obtain rfl := h.unchanged
    have alike := h.alike running
    have engine := h.setEngine (alike.trans (e'.alike_populate w.store s))
    refine engine.setSession fun same => ?_
    subst same
    exact (h.session s hs).populate alike
  · exact h

theorem Transparent.groupsFor (h : w.Transparent e store name) (site : SiteId)
    (cap : Capability) : (w.groupsFor site cap).1.Transparent e store name := by
  unfold World.groupsFor
  split
  · exact h
  next e' running =>
    obtain rfl := h.unchanged
    exact h.setEngine ((h.alike running).trans (e'.alike_groupsFor w.store site cap))

/-- Every command that only asks keeps a world transparent. -/
theorem Transparent.perform (h : w.Transparent e store name)
    (stateless : ∀ extra ∈ e.extras, extra.2.Stateless) (asks : c.OnlyAsks store) :
    (w.perform c).Transparent e store name := by
  cases c
  case openSession other requester program runsAs process =>
    refine h.setSession fun _ => ?_
    exact Session.honest_anew e store
      { Session.start requester program runsAs with process }
  case resetSession other => exact h.onSession other fun s _ => .reset e store s
  case setRunAs other value => exact h.onSession other fun s honest => honest.setRunAs value
  case check other op r raising => exact h.check stateless other op asks raising
  case populate other => exact h.populate other
  case groupsFor site cap => exact h.groupsFor site cap
  case hold | release | subscribe | unsubscribe | forceRemove | publish => exact h.of_eq rfl rfl rfl
  all_goals cases asks

theorem transparent_run (h : w.Transparent e store name)
    (stateless : ∀ extra ∈ e.extras, extra.2.Stateless) {commands : List Command}
    (asks : ∀ c ∈ commands, c.OnlyAsks store) : (w.run commands).Transparent e store name := by
  induction commands generalizing w with
  | nil => exact h
  | cons c commands ih =>
    refine ih (h.perform stateless (asks c List.mem_cons_self)) fun d hd => ?_
    exact asks d (List.mem_cons_of_mem c hd)

/-- What is answered to a request: nothing is allowed on what is not there, and otherwise it is the
ruling on the chain's verdict on a new session. -/
def answerAnew (e : Engine) (store : Store) (s : Session) (op : Operation) (raising : Bool) :
    Option Request → Except Refusal Bool
  | none => .ok false
  | some r => s.ruling ⟨op, r.scope⟩ raising (e.freshVerdict store s.anew op r)

theorem Transparent.check_snd (h : w.Transparent e store name)
    (stateless : ∀ extra ∈ e.extras, extra.2.Stateless) (session : w.sessions[name]? = some s)
    (op : Operation) {r : Option Request} (current : ∀ q ∈ r, q.IsCurrent store) (raising : Bool) :
    (w.check name op r raising).2 = some (answerAnew e store s op raising r) := by
  obtain ⟨e', running, alike⟩ := h.engine
  have honest := h.session s session
  simp only [World.check, running, session, h.unchanged]
  cases r with
  | none => rfl
  | some r =>
    rw [Engine.answer_some, honest.evaluate_snd alike stateless op (current r rfl)]
    rfl

/-- While commands only ask, every answer in a session that was new at first is the answer in a
session opened now for the same requester and program, if it runs in the same way: whatever has been
asked in between, and of whom. Appended checkers may look at the session's process, but then the two
sessions must belong to the same one. -/
theorem check_eq_anew (running : w.engine = some e)
    (stateless : ∀ extra ∈ e.extras, extra.2.Stateless)
    (new : ∀ s, w.sessions[name]? = some s → s = s.anew) {commands : List Command}
    (asks : ∀ c ∈ commands, c.OnlyAsks w.store)
    (session : (w.run commands).sessions[name]? = some s) {r : Option Request}
    (current : ∀ q ∈ r, q.IsCurrent w.store) (op : Operation) (raising : Bool) (other : String)
    {process : Option UInt64}
    (unheeded : process = s.process ∨ ∀ extra ∈ e.extras, extra.2.IgnoresProcess) :
    ∃ answer, ((w.run commands).check name op r raising).2 = some answer ∧
      (((w.run commands).perform (.openSession other s.requester s.program s.runsAsRequester
        process)).check other op r raising).2 = some answer := by
  have begun : w.Transparent e w.store name := by
    refine ⟨rfl, ⟨e, running, .refl w.store e⟩, fun t ht => ?_⟩
    rw [new t ht]
    exact t.honest_anew e w.store
  have now := transparent_run begun stateless asks
  refine ⟨_, now.check_snd stateless session op current raising, ?_⟩
  -- the opened session is honest too
  let opened : Session :=
    { Session.start s.requester s.program s.runsAsRequester with process }
  have later : ((w.run commands).setSession other opened).Transparent e w.store other := by
    refine ⟨now.unchanged, now.engine, fun t ht => ?_⟩
    obtain rfl : opened = t := by simpa [setSession] using ht
    exact opened.honest_anew e w.store
  have there : ((w.run commands).setSession other opened).sessions[other]? = some opened := by
    simp [setSession]
  rw [perform, later.check_snd stateless there op current raising]
  cases r with
  | none => rfl
  | some r =>
    have standing : (e.populate w.store s.anew).2.SameStanding (e.populate w.store opened.anew).2 :=
      Engine.sameStanding_populate (.refl w.store e) ⟨rfl, rfl, rfl, rfl⟩ rfl
    have verdict := Engine.freshVerdict_congr (.refl w.store e) stateless standing rfl unheeded op r
    rw [answerAnew, answerAnew, verdict]
    rfl

/-- A checker that is appended to the deletion of entities and asks whether a program runs as its
requester. -/
def runsAsExtras : List (Operation × Checker) :=
  [(.deleteEntity, .supplied "runs_as" fun _ s _ => .ofBool s.runsAsRequester)]

/-- A world in which a player is a builder. -/
def builderWorld : World :=
  (start true {} runsAsExtras).run
    [.registerSite 2 "main", .create .epoch 2 .player "smith" .none,
      .create .epoch 2 .capability "BUILDER" .none,
      .edit .epoch ⟨⟨2, 2⟩, 1⟩ [.edit (.addMember ⟨2, 1⟩)]]

/-- The player as the store has it. -/
def smith : Entity := .fresh .epoch ⟨2, 1⟩ .player "smith" .none

/-- A run in which more is asked of the builder than a session remembers. -/
def manyQuestions : List Command :=
  [.openSession "s" ⟨2, 1⟩ .none false (some 7),
      .check "s" .deleteEntity (some (.target smith)) false, .setRunAs "s" true] ++
    Operation.all.flatMap fun op =>
      [.target smith, .global, .kind .room, .kind .player].map fun r =>
        .check "s" op (some r) false

theorem check_eq_anew_manyQuestions :
    (builderWorld.run manyQuestions).sessions["s"]?.map (·.decisions.size) = some 64 ∧
      ∃ answer, ((builderWorld.run manyQuestions).check "s" .deleteEntity
            (some (.target smith)) true).2 = some answer ∧
        (((builderWorld.run manyQuestions).perform (.openSession "t" ⟨2, 1⟩ .none true
          (some 7))).check "t" .deleteEntity (some (.target smith)) true).2 = some answer := by
  have found : (builderWorld.run manyQuestions).sessions["s"]?.map (fun s =>
      (s.requester, s.program, s.runsAsRequester, s.process)) =
        some (⟨2, 1⟩, .none, true, some 7) := by decide +kernel
  obtain ⟨s, session, form⟩ := Option.map_eq_some_iff.mp found
  simp only [Prod.mk.injEq] at form
  obtain ⟨requester, program, runsAs, process⟩ := form
  obtain ⟨e, running, extras⟩ :
      ∃ e, builderWorld.engine = some e ∧ e.extras = runsAsExtras := ⟨_, rfl, rfl⟩
  have stateless : ∀ extra ∈ e.extras, extra.2.Stateless := by
    rw [extras]
    rintro extra among w r s s' - runsAs -
    rw [List.mem_singleton.mp among]
    exact congrArg Vote.ofBool runsAs
  have unopened : ∀ s, builderWorld.sessions["s"]? = some s → s = s.anew := by
    intro s hs
    have none : builderWorld.sessions["s"]?.isNone = true := by decide +kernel
    rw [hs] at none
    cases none
  have target : (Request.target smith).IsCurrent builderWorld.store := by
    have stored : builderWorld.store.get? smith.id = some smith := by decide +kernel
    intro e asked
    rw [List.mem_singleton.mp asked]
    exact stored
  have asks : ∀ c ∈ manyQuestions, c.OnlyAsks builderWorld.store := by
    intro c among
    simp only [manyQuestions, List.mem_append, List.mem_cons, List.not_mem_nil, or_false,
      List.mem_flatMap, List.map_cons, List.map_nil] at among
    rcases among with (rfl | rfl | rfl) | ⟨op, _, rfl | rfl | rfl | rfl⟩
    case inl.inl | inl.inr.inr => trivial
    all_goals
      intro q asked
      obtain rfl := Option.mem_some_iff.mp asked
    case inl.inr.inl | inr.inl => exact target
    all_goals exact Request.isCurrent_of_nil rfl
  have answered := check_eq_anew running stateless unopened asks session
    (r := some (.target smith)) ?_ .deleteEntity true "t" (Or.inl process.symm)
  · rw [requester, program, runsAs] at answered
    exact ⟨by decide +kernel, answered⟩
  · intro q asked
    obtain rfl := Option.mem_some_iff.mp asked
    exact target

end World

end WorldAccess
