import WorldAccess.Engine.Basic

/-!
# What answering leaves in a session

An engine that answers a request changes a session in two ways: it resolves the capabilities, once,
and it remembers verdicts. Who asks and how stays as it is, and so do the engine's settings.

## Main definitions

* `Session.Resolved` — a session before and after its capabilities are resolved
* `Session.anew` — a new session in the place of another
* `Session.ruling` — what a session is told of a verdict

## Main results

* `Decisions.mem_slots_store`, `Decisions.mem_of_lookup?` — what a ring of verdicts holds
* `Engine.resolved_populate` — resolving capabilities changes nothing else
* `Engine.evaluate_eq`, `Engine.mem_slots_evaluate` — where a verdict comes from and what is
  remembered
* `Engine.answer_some` — what is answered
-/

namespace WorldAccess

namespace Decisions

variable {q : Question} {v : Vote} {slot : Question × Vote}

theorem mem_replace {slots : List (Question × Vote)} (h : slot ∈ replace q v slots) :
    slot = (q, v) ∨ slot ∈ slots := by
  induction slots with
  | nil => cases h
  | cons first rest ih =>
    unfold replace at h
    split at h
    · rcases List.mem_cons.mp h with new | old
      · exact Or.inl new
      · exact Or.inr (List.mem_cons_of_mem first old)
    · rcases List.mem_cons.mp h with old | later
      · exact Or.inr (old ▸ List.mem_cons_self)
      · exact (ih later).imp_right (List.mem_cons_of_mem first)

/-- Remembering a verdict adds nothing but that verdict. -/
theorem mem_slots_store {d : Decisions} (h : slot ∈ (d.store q v).slots) :
    slot = (q, v) ∨ slot ∈ d.slots := by
  unfold store at h
  split at h
  · exact mem_replace h
  · dsimp only at h
    split at h
    · rcases List.mem_append.mp h with old | new
      · exact Or.inr old
      · exact Or.inl (List.mem_singleton.mp new)
    · exact (List.mem_or_eq_of_mem_set h).symm

theorem mem_of_lookup? {d : Decisions} (h : d.lookup? q = some v) : (q, v) ∈ d.slots := by
  obtain ⟨⟨q', v'⟩, found, rfl⟩ := Option.map_eq_some_iff.mp h
  have same : q' = q := by simpa using List.find?_some found
  exact same ▸ List.mem_of_find?_eq_some found

end Decisions

/-- A session before and after its capabilities are resolved: who asks, how, and what is remembered
are the same. -/
structure Session.Resolved (s s' : Session) : Prop where
  requester : s'.requester = s.requester
  program : s'.program = s.program
  process : s'.process = s.process
  runsAsRequester : s'.runsAsRequester = s.runsAsRequester
  decisions : s'.decisions = s.decisions

theorem Session.Resolved.refl (s : Session) : s.Resolved s := ⟨rfl, rfl, rfl, rfl, rfl⟩

theorem Session.Resolved.trans {s s' s'' : Session} (h : s.Resolved s') (h' : s'.Resolved s'') :
    s.Resolved s'' where
  requester := h'.requester.trans h.requester
  program := h'.program.trans h.program
  process := h'.process.trans h.process
  runsAsRequester := h'.runsAsRequester.trans h.runsAsRequester
  decisions := h'.decisions.trans h.decisions

/-- A new session of the same requester and program that runs in the same way. -/
def Session.anew (s : Session) : Session :=
  { start s.requester s.program s.runsAsRequester with process := s.process }

theorem Session.Resolved.anew_eq {s s' : Session} (h : s.Resolved s') : s'.anew = s.anew := by
  simp only [anew, h.requester, h.program, h.runsAsRequester, h.process]

theorem Session.resolved_grant (s : Session) (c : Capability) : s.Resolved (s.grant c) :=
  ⟨rfl, rfl, rfl, rfl, rfl⟩

/-- What a session is told of a verdict. A refusal is raised only if that is asked for. -/
def Session.ruling (s : Session) (q : Question) (raising : Bool) (verdict : Vote) :
    Except Refusal Bool :=
  if verdict = .accept then .ok true
  else if raising then .error (.ofQuestion s q)
  else .ok false

/-- A refusal says of a session who asks. -/
theorem Session.ruling_congr {s s' : Session} (requester : s'.requester = s.requester)
    (program : s'.program = s.program) (q : Question) (raising : Bool) (verdict : Vote) :
    s'.ruling q raising verdict = s.ruling q raising verdict := by
  simp only [ruling, Refusal.ofQuestion, requester, program]

namespace Engine

variable (e : Engine) (store : Store) (s : Session) (op : Operation)

theorem resolved_grantAll (store : Store) (sites : List SiteId) (cs : List Capability)
    (g : GrantLists) (s : Session) : s.Resolved (grantAll store sites cs g s).2 := by
  induction cs generalizing g s with
  | nil => exact .refl s
  | cons c cs ih =>
    unfold grantAll
    split
    · exact ih g s
    · dsimp only
      split
      · exact (s.resolved_grant c).trans (ih _ _)
      · exact ih _ s

/-- Resolving a session's capabilities changes nothing else in it. -/
theorem resolved_populate : s.Resolved (e.populate store s).2 := by
  unfold populate
  split
  · exact .refl s
  · -- admins by configuration come first, then what is looked up
    have implicit : s.Resolved (if e.isImplicitAdmin s then s.grant .admin else s) := by
      split
      · exact s.resolved_grant .admin
      · exact .refl s
    dsimp only
    generalize (if e.isImplicitAdmin s then s.grant .admin else s) = admitted at implicit ⊢
    have granted := resolved_grantAll store (e.grantSites admitted) Capability.all e.grants admitted
    obtain ⟨requester, program, process, runsAs, decisions⟩ := implicit.trans granted
    exact ⟨requester, program, process, runsAs, decisions⟩

theorem populated_populate : (e.populate store s).2.populated = true := by
  unfold populate
  split
  · assumption
  · rfl

/-- A session is resolved once. -/
theorem populate_of_populated (h : s.populated = true) : e.populate store s = (e, s) := if_pos h

theorem config_populate : (e.populate store s).1.config = e.config := by
  unfold populate
  split <;> rfl

theorem config_shutdown {L : Type} (bus : Option (Bus L)) :
    (e.shutdown bus).1.config = e.config := by
  unfold shutdown
  split <;> rfl

theorem config_evaluate (r : Request) : (e.evaluate store s op r).1.config = e.config := by
  unfold evaluate
  dsimp only
  split
  · rfl
  · exact config_populate e store s

theorem config_answer (r : Option Request) (raising : Bool) :
    (e.answer store s op r raising).1.config = e.config := by
  cases r with
  | none => rfl
  | some r => exact config_evaluate e store s op r

/-- The verdict that the chain gives on a request once the session's capabilities are resolved. -/
def freshVerdict (r : Request) : Vote :=
  Vote.verdict ((e.populate store s).1.votes store (e.populate store s).2 op r)

/-- A verdict is a remembered one, or the one that the chain gives. -/
theorem evaluate_eq (r : Request) :
    (e.evaluate store s op r).2.2 = (s.decisions.lookup? ⟨op, r.scope⟩).getD
      (e.freshVerdict store s op r) := by
  unfold evaluate freshVerdict
  dsimp only
  split
  next hit => rw [hit, Option.getD_some]
  next miss => rw [miss, Option.getD_none]

theorem requester_evaluate (r : Request) :
    (e.evaluate store s op r).2.1.requester = s.requester ∧
      (e.evaluate store s op r).2.1.program = s.program := by
  unfold evaluate
  dsimp only
  split
  · exact ⟨rfl, rfl⟩
  · have resolved := resolved_populate e store s
    exact ⟨resolved.requester, resolved.program⟩

/-- What is remembered after a request was remembered before, or is the chain's verdict on it. -/
theorem mem_slots_evaluate {r : Request} {slot : Question × Vote}
    (h : slot ∈ (e.evaluate store s op r).2.1.decisions.slots) :
    slot ∈ s.decisions.slots ∨ slot = (⟨op, r.scope⟩, e.freshVerdict store s op r) := by
  unfold evaluate at h
  dsimp only at h
  split at h
  · exact Or.inl h
  · rcases Decisions.mem_slots_store h with new | old
    · exact Or.inr new
    · rw [(resolved_populate e store s).decisions] at old
      exact Or.inl old

/-- What is answered is what the session is told of the verdict. -/
theorem answer_some (r : Request) (raising : Bool) :
    (e.answer store s op (some r) raising).2.2 =
      s.ruling ⟨op, r.scope⟩ raising (e.evaluate store s op r).2.2 := by
  obtain ⟨requester, program⟩ := e.requester_evaluate store s op r
  exact Session.ruling_congr requester program _ raising _

/-- Allowed is what has the verdict of acceptance. -/
theorem answer_eq_ok_true_iff {r : Request} {raising : Bool} :
    (e.answer store s op (some r) raising).2.2 = .ok true ↔
      (e.evaluate store s op r).2.2 = .accept := by
  rw [answer_some, Session.ruling]
  cases raising <;> split <;> simp_all

/-- A session that remembers nothing is given the chain's verdict. -/
theorem answer_of_forgotten (forgotten : s.decisions = .empty) (r : Request) (raising : Bool) :
    (e.answer store s op (some r) raising).2.2 =
      s.ruling ⟨op, r.scope⟩ raising (e.freshVerdict store s op r) := by
  rw [answer_some, evaluate_eq, forgotten]
  rfl

end Engine

end WorldAccess
