import WorldAccess.Proofs.Engine.Grants
import WorldAccess.Proofs.Engine.Sessions

/-!
# What decides a verdict

The capabilities that a session is found to hold depend on who asks and on what the grant lists
answer. Filling lists does not change their answers, so capabilities come out the same whenever they
are resolved. Votes depend on the capabilities, on who asks, and on how the session runs; what a
session remembers plays no part in them, unless a caller appends a checker that looks at it.

## Main definitions

* `GrantLists.SameAnswers`, `Engine.Alike` — lists and engines that answer alike
* `Session.SameStanding` — sessions of the same actors that hold the same capabilities
* `Checker.Stateless`, `Checker.IgnoresProcess` — what a checker does not look at

## Main results

* `GrantLists.sameAnswers_of_filledFrom` — filled lists answer as before
* `Engine.heldIn_snd` — when a capability is held
* `Engine.sameStanding_populate` — capabilities come out the same
* `Engine.votes_congr`, `Engine.freshVerdict_congr` — votes and verdicts come out the same
-/

namespace WorldAccess

open Std

variable {s s' s'' : Session} {store : Store} {c : Checker}

/-! ### Answers of grant lists -/

namespace GrantLists

variable {g g' g'' : GrantLists}

/-- Whether two sets of grant lists answer every question over a store alike. -/
def SameAnswers (store : Store) (g g' : GrantLists) : Prop :=
  ∀ site c, (g'.groupsFor store site c).2 = (g.groupsFor store site c).2

theorem SameAnswers.refl (store : Store) (g : GrantLists) : SameAnswers store g g :=
  fun _ _ => rfl

theorem SameAnswers.symm (h : SameAnswers store g g') : SameAnswers store g' g :=
  fun site c => (h site c).symm

theorem SameAnswers.trans (h : SameAnswers store g g') (h' : SameAnswers store g' g'') :
    SameAnswers store g g'' := fun site c => (h' site c).trans (h site c)

/-- A list that is filled is filled with what it would have answered. -/
theorem sameAnswers_of_filledFrom (h : FilledFrom store g g') : SameAnswers store g g' := by
  intro site c
  rw [groupsFor_snd, groupsFor_snd]
  rcases h site c with same | ⟨empty, filled⟩
  · rw [same]
  · rw [filled, empty]
    split <;> rfl

end GrantLists

/-! ### Standing -/

namespace Session

/-- Whether two sessions are of the same actors and hold the same capabilities. -/
structure SameStanding (s s' : Session) : Prop where
  requester : s'.requester = s.requester
  program : s'.program = s.program
  isAdmin : s'.isAdmin = s.isAdmin
  capabilities : s'.capabilities = s.capabilities

theorem SameStanding.refl (s : Session) : s.SameStanding s := ⟨rfl, rfl, rfl, rfl⟩

theorem SameStanding.symm (h : s.SameStanding s') : s'.SameStanding s :=
  ⟨h.requester.symm, h.program.symm, h.isAdmin.symm, h.capabilities.symm⟩

theorem SameStanding.trans (h : s.SameStanding s') (h' : s'.SameStanding s'') :
    s.SameStanding s'' where
  requester := h'.requester.trans h.requester
  program := h'.program.trans h.program
  isAdmin := h'.isAdmin.trans h.isAdmin
  capabilities := h'.capabilities.trans h.capabilities

theorem SameStanding.has (h : s.SameStanding s') (c : Capability) : s'.has c = s.has c := by
  rw [Session.has, h.capabilities, Session.has]

theorem SameStanding.grant (h : s.SameStanding s') (c : Capability) :
    (s.grant c).SameStanding (s'.grant c) where
  requester := h.requester
  program := h.program
  isAdmin := by simp only [Session.grant, h.isAdmin]
  capabilities := by simp only [Session.grant, h.capabilities]

end Session

namespace Engine

open GrantLists Session

variable {e e' e'' : Engine} {g g' : GrantLists}

/-- Whether two engines have the same settings and appended checkers, and grant lists that answer
alike. -/
structure Alike (store : Store) (e e' : Engine) : Prop where
  config : e'.config = e.config
  extras : e'.extras = e.extras
  answers : SameAnswers store e.grants e'.grants

theorem Alike.refl (store : Store) (e : Engine) : Alike store e e :=
  ⟨rfl, rfl, SameAnswers.refl store e.grants⟩

theorem Alike.symm (h : Alike store e e') : Alike store e' e :=
  ⟨h.config.symm, h.extras.symm, h.answers.symm⟩

theorem Alike.trans (h : Alike store e e') (h' : Alike store e' e'') : Alike store e e'' :=
  ⟨h'.config.trans h.config, h'.extras.trans h.extras, h.answers.trans h'.answers⟩

theorem extras_populate (e : Engine) (store : Store) (s : Session) :
    (e.populate store s).1.extras = e.extras := by
  unfold populate
  split <;> rfl

theorem alike_populate (e : Engine) (store : Store) (s : Session) :
    Alike store e (e.populate store s).1 :=
  ⟨config_populate e store s, extras_populate e store s,
    sameAnswers_of_filledFrom (filledFrom_populate e store s)⟩

theorem alike_evaluate (e : Engine) (store : Store) (s : Session) (op : Operation) (r : Request) :
    Alike store e (e.evaluate store s op r).1 := by
  unfold evaluate
  dsimp only
  split
  · exact Alike.refl store e
  · -- counting the calls of fixed checkers changes nothing that is asked
    obtain ⟨config, extras, answers⟩ := alike_populate e store s
    exact ⟨config, extras, answers⟩

theorem alike_answer (e : Engine) (store : Store) (s : Session) (op : Operation)
    (r : Option Request) (raising : Bool) :
    Alike store e (e.answer store s op r raising).1 := by
  cases r with
  | none => exact Alike.refl store e
  | some r => exact alike_evaluate e store s op r

theorem alike_groupsFor (e : Engine) (store : Store) (site : SiteId) (c : Capability) :
    Alike store e { e with grants := (e.grants.groupsFor store site c).1 } :=
  ⟨rfl, rfl, sameAnswers_of_filledFrom (filledFrom_groupsFor e.grants store site c)⟩

/-! ### Capabilities -/

theorem isBackedBy_congr (h : s.SameStanding s') (store : Store) :
    isBackedBy store s' = isBackedBy store s := by
  funext group
  simp only [isBackedBy, h.requester, h.program]

/-- A capability is held if some list of the sites names a group that one who acts belongs to. -/
theorem heldIn_snd (store : Store) (s : Session) (c : Capability) (sites : List SiteId)
    (g : GrantLists) :
    (heldIn store s c sites g).2 =
      sites.any fun site => (g.groupsFor store site c).2.any (isBackedBy store s) := by
  induction sites generalizing g with
  | nil => rfl
  | cons site sites ih =>
    rw [List.any_cons, heldIn]
    dsimp only
    split
    next found => rw [found, Bool.true_or]
    next unfound =>
      -- asking the first site does not change what the others answer
      have later := sameAnswers_of_filledFrom (filledFrom_groupsFor g store site c)
      rw [Bool.eq_false_iff.mpr unfound, Bool.false_or, ih]
      congr 1
      funext other
      rw [later other c]

theorem sameAnswers_heldIn (store : Store) (s : Session) (c : Capability) (sites : List SiteId)
    (g : GrantLists) : SameAnswers store g (heldIn store s c sites g).1 :=
  sameAnswers_of_filledFrom (filledFrom_heldIn store s c sites g)

theorem heldIn_congr (answers : SameAnswers store g g') (h : s.SameStanding s') (c : Capability)
    (sites : List SiteId) : (heldIn store s' c sites g').2 = (heldIn store s c sites g).2 := by
  rw [heldIn_snd, heldIn_snd, isBackedBy_congr h]
  congr 1
  funext site
  rw [answers site c]

theorem sameStanding_grantAll (sites : List SiteId) (cs : List Capability)
    (answers : SameAnswers store g g') (h : s.SameStanding s') :
    (grantAll store sites cs g s).2.SameStanding (grantAll store sites cs g' s').2 := by
  induction cs generalizing g g' s s' with
  | nil => exact h
  | cons c cs ih =>
    rw [grantAll, grantAll, h.has c]
    split
    · exact ih answers h
    · have before := sameAnswers_heldIn store s c sites g
      have after := sameAnswers_heldIn store s' c sites g'
      dsimp only
      rw [heldIn_congr answers h c sites]
      refine ih (before.symm.trans (answers.trans after)) ?_
      split
      · exact h.grant c
      · exact h

/-- Engines that are alike find that sessions of the same standing hold the same capabilities. -/
theorem sameStanding_populate (alike : Alike store e e') (h : s.SameStanding s')
    (populated : s'.populated = s.populated) :
    (e.populate store s).2.SameStanding (e'.populate store s').2 := by
  have sites : ∀ {a b : Session}, a.SameStanding b → e'.grantSites b = e.grantSites a := by
    intro a b same
    simp only [grantSites, alike.config, same.requester]
  have implicit : e'.isImplicitAdmin s' = e.isImplicitAdmin s := by
    simp only [isImplicitAdmin, alike.config, h.requester, h.program]
  rw [populate, populate, populated, implicit]
  split
  · exact h
  · dsimp only
    -- the implicit admin is settled before the capabilities are looked up
    have admitted : (if e.isImplicitAdmin s then s.grant .admin else s).SameStanding
        (if e.isImplicitAdmin s then s'.grant .admin else s') := by
      split
      · exact h.grant .admin
      · exact h
    -- the sites that are looked through depend on the sessions after that
    generalize (if e.isImplicitAdmin s then s.grant .admin else s) = a at admitted ⊢
    generalize (if e.isImplicitAdmin s then s'.grant .admin else s') = b at admitted ⊢
    rw [sites admitted]
    obtain ⟨requester, program, isAdmin, capabilities⟩ :=
      sameStanding_grantAll (e.grantSites a) Capability.all alike.answers admitted
    exact ⟨requester, program, isAdmin, capabilities⟩

end Engine

/-! ### Votes -/

namespace Checker

/-- Whether a caller supplies the checker's opinion. -/
def isSupplied : Checker → Bool
  | supplied _ _ => true
  | _ => false

/-- Whether a checker's votes depend on who asks, on what they hold and on how the session runs, and
on nothing else that a session keeps. -/
def Stateless (c : Checker) : Prop :=
  ∀ (w : Surroundings) (r : Request) (s s' : Session), s.SameStanding s' →
    s'.runsAsRequester = s.runsAsRequester → s'.process = s.process → c.vote w s' r = c.vote w s r

/-- Whether a checker's votes do not depend on the process that a session belongs to. -/
def IgnoresProcess (c : Checker) : Prop :=
  ∀ (w : Surroundings) (r : Request) (s : Session) (process : Option UInt64),
    c.vote w { s with process } r = c.vote w s r

/-- A checker whose opinion is not supplied looks at who asks, at what they hold and at how the
session runs. -/
theorem vote_congr (own : c.isSupplied = false) (w : Surroundings) (r : Request)
    (h : s.SameStanding s') (runsAs : s'.runsAsRequester = s.runsAsRequester) :
    c.vote w s' r = c.vote w s r := by
  obtain ⟨requester, program, process, runs, populated, isAdmin, capabilities, decisions⟩ := s
  obtain ⟨requester', program', process', runs', populated', isAdmin', capabilities',
    decisions'⟩ := s'
  obtain ⟨rfl, rfl, rfl, rfl⟩ := h
  obtain rfl : runs' = runs := runsAs
  cases c
  case supplied name opinion => cases own
  all_goals cases r <;> rfl

/-- The program's own checkers look at nothing that a session remembers. -/
theorem stateless_of_own (own : c.isSupplied = false) : c.Stateless :=
  fun w r _ _ h runsAs _ => vote_congr own w r h runsAs

theorem isSupplied_of_ofName? {name : String} (h : ofName? name = some c) :
    c.isSupplied = false := by
  have all : ∀ c ∈ registered, c.isSupplied = false := by decide
  rw [ofName?, Text.exactWord?] at h
  exact all c (List.mem_of_find?_eq_some h)

end Checker

namespace Engine

variable {e e' : Engine} {op : Operation}

/-- A checker of a chain is one of the program's own, or a caller has appended it. -/
theorem isSupplied_or_appended (h : c ∈ e.chain op) :
    c.isSupplied = false ∨ ∃ extra ∈ e.extras, extra.2 = c := by
  simp only [chain, Operation.chain, List.mem_append] at h
  rcases h with ((leading | builtin) | appended) | supplied
  · have all : ∀ c ∈ Checker.leading, c.isSupplied = false := by decide
    exact Or.inl (all c leading)
  · have all : ∀ op : Operation, ∀ c ∈ op.builtin, c.isSupplied = false := by
      intro op
      cases op <;> decide
    exact Or.inl (all op c builtin)
  · obtain ⟨⟨key, names⟩, _, listed⟩ := List.mem_flatMap.mp appended
    dsimp only at listed
    split at listed
    · obtain ⟨name, _, found⟩ := List.mem_filterMap.mp listed
      exact Or.inl (Checker.isSupplied_of_ofName? found)
    · cases listed
  · obtain ⟨extra, among, rfl⟩ := List.mem_map.mp supplied
    exact Or.inr ⟨extra, (List.mem_filter.mp among).1, rfl⟩

/-- Engines that are alike let the same checkers vote, and these vote alike in sessions of the same
standing that run in the same way. -/
theorem votes_congr (alike : Alike store e e') (stateless : ∀ extra ∈ e.extras, extra.2.Stateless)
    (h : s.SameStanding s') (runsAs : s'.runsAsRequester = s.runsAsRequester)
    (unheeded : s'.process = s.process ∨ ∀ extra ∈ e.extras, extra.2.IgnoresProcess)
    (op : Operation) (r : Request) : e'.votes store s' op r = e.votes store s op r := by
  have chains : e'.chain op = e.chain op := by rw [chain, alike.config, alike.extras, chain]
  have seen : e'.surroundings store = e.surroundings store := by
    rw [surroundings, alike.config, surroundings]
  rw [votes, votes, chains, seen]
  refine List.map_congr_left fun c among => ?_
  rcases isSupplied_or_appended among with own | ⟨extra, appended, rfl⟩
  · exact Checker.vote_congr own _ r h runsAs
  · have voting := stateless extra appended
    rcases unheeded with same | ignored
    · exact voting _ r s s' h runsAs same
    · -- give the first session the process of the second
      rw [voting _ r { s with process := s'.process } s'
        ⟨h.requester, h.program, h.isAdmin, h.capabilities⟩ runsAs rfl]
      exact ignored extra appended _ r s s'.process

/-- So the verdicts of such engines on sessions that are found to hold the same are the same. -/
theorem freshVerdict_congr (alike : Alike store e e')
    (stateless : ∀ extra ∈ e.extras, extra.2.Stateless)
    (h : (e.populate store s).2.SameStanding (e'.populate store s').2)
    (runsAs : s'.runsAsRequester = s.runsAsRequester)
    (unheeded : s'.process = s.process ∨ ∀ extra ∈ e.extras, extra.2.IgnoresProcess)
    (op : Operation) (r : Request) : e'.freshVerdict store s' op r = e.freshVerdict store s op r := by
  have before := e.alike_populate store s
  have after := e'.alike_populate store s'
  have found := e.resolved_populate store s
  have found' := e'.resolved_populate store s'
  rw [freshVerdict, freshVerdict]
  congr 1
  refine votes_congr (before.symm.trans (alike.trans after)) ?_ h ?_ ?_ op r
  · rw [before.extras]
    exact stateless
  · rw [found'.runsAsRequester, found.runsAsRequester]
    exact runsAs
  · rw [found'.process, found.process, before.extras]
    exact unheeded

end Engine

end WorldAccess
