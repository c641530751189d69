import WorldAccess.Proofs.Engine.AdminOverride

/-!
# More privilege never refuses more

A session that holds more capabilities, or whose program runs as the requester besides, is allowed
at least as much. Votes have a *support*, from denial over no opinion to the two acceptances, and a
chain whose votes gain in support does not lose its acceptance. A capability only adds to what a
checker supports, and so does the requester's standing when it is added to the program's. Without a
program the requester's standing counts either way, so that it makes no difference whether the
session runs as the requester.

## Main definitions

* `Session.Prepared` — capabilities are resolved, and nothing is remembered
* `Session.Within` — a session that is privileged at most as another is
* `Vote.support` — how far a vote goes towards acceptance

## Main results

* `Vote.foldAll_mono` — a fold over votes of more support
* `Store.permits_mono`, `Store.administers_mono` — standing of more candidates
* `Checker.support_vote_le` — every checker of the program's own
* `Engine.answer_mono` — what is allowed stays allowed
-/

namespace WorldAccess

variable {s s' : Session} {store : Store} {w : Surroundings}

/-! ### Prepared sessions -/

/-- Whether a session's capabilities are resolved and it remembers nothing. It is marked as an
admin's iff it holds the admin capability, as every session is that has been granted what it holds.
-/
structure Session.Prepared (s : Session) : Prop where
  populated : s.populated = true
  forgotten : s.decisions = .empty
  marked : s.isAdmin = s.has .admin

/-- A prepared session has nothing to forget when it is set how it runs. -/
theorem Session.Prepared.setRunAs_eq (prepared : s.Prepared) (value : Bool) :
    s.setRunAs value = { s with runsAsRequester := value } := by
  unfold setRunAs
  split
  next same => rw [← same]
  next => rw [← prepared.forgotten]

namespace Engine

variable {e : Engine} {op : Operation} {r : Request}

/-- Resolving the capabilities of a new session prepares it. -/
theorem prepared_populate (e : Engine) (store : Store) (new : s = s.anew) :
    (e.populate store s).2.Prepared where
  populated := e.populated_populate store s
  forgotten := by
    rw [(e.resolved_populate store s).decisions, new]
    rfl
  marked := isAdmin_populate (by rw [new]; rfl)

/-- A prepared session is given the chain's verdict. -/
theorem evaluate_of_prepared (prepared : s.Prepared) :
    (e.evaluate store s op r).2.2 = Vote.verdict (e.votes store s op r) := by
  rw [evaluate_eq, prepared.forgotten, Decisions.lookup?_empty, Option.getD_none, freshVerdict,
    e.populate_of_populated store s prepared.populated]

end Engine

/-! ### Support -/

namespace Vote

/-- How far a vote goes towards acceptance. -/
def support : Vote → Nat
  | deny | denyAlways => 0
  | skip => 1
  | accept => 2
  | acceptAlways => 3

theorem support_ofBool_le {p q : Bool} (h : p = true → q = true) :
    (ofBool p).support ≤ (ofBool q).support := by
  cases p with
  | false => exact Nat.zero_le _
  | true => exact Nat.le_of_eq (by rw [h rfl])

/-- The vote of the checker that accepts what an admin asks. -/
theorem support_acceptAlways_le {p q : Bool} (h : p = true → q = true) :
    (if p = true then acceptAlways else skip).support ≤
      (if q = true then acceptAlways else skip).support := by
  cases p <;> cases q <;> simp_all [support]

/-- An acceptance on top of no denial is an acceptance. -/
theorem foldInto_accept {a : Vote} (undenied : a = skip ∨ a = accept) :
    accept.foldInto a = (accept, false) := by
  rcases undenied with rfl | rfl <;> rfl

/-- Whether two aggregates are no denials, and the second is no less than the first. -/
structure Leads (a a' : Vote) : Prop where
  undenied : a = skip ∨ a = accept
  undenied' : a' = skip ∨ a' = accept
  le : a.support ≤ a'.support

/-- One vote of more support on top: the lesser one denies, or the greater one accepts for good, or
the aggregates go on as before. -/
theorem foldInto_mono {a a' v v' : Vote} (leads : a.Leads a') (le : v.support ≤ v'.support) :
    v.foldInto a = (deny, true) ∨ v'.foldInto a' = (accept, true) ∨
      ∃ b b', v.foldInto a = (b, false) ∧ v'.foldInto a' = (b', false) ∧ b.Leads b' := by
  obtain ⟨undenied, undenied', ahead⟩ := leads
  -- the cases are the lesser vote, and then the votes that are no less
  cases v
  case deny | denyAlways => exact Or.inl rfl
  case acceptAlways =>
    cases v'
    case acceptAlways => exact Or.inr (Or.inl rfl)
    all_goals simp [support] at le
  case accept =>
    cases v'
    case acceptAlways => exact Or.inr (Or.inl rfl)
    case accept =>
      exact Or.inr (Or.inr ⟨accept, accept, foldInto_accept undenied, foldInto_accept undenied',
        Or.inr rfl, Or.inr rfl, Nat.le_refl _⟩)
    all_goals simp [support] at le
  case skip =>
    cases v'
    case acceptAlways => exact Or.inr (Or.inl rfl)
    case accept =>
      have below : a.support ≤ accept.support := by rcases undenied with rfl | rfl <;> decide
      exact Or.inr (Or.inr ⟨a, accept, rfl, foldInto_accept undenied', undenied, Or.inr rfl, below⟩)
    case skip => exact Or.inr (Or.inr ⟨a, a', rfl, rfl, undenied, undenied', ahead⟩)
    all_goals simp [support] at le

/-- Votes of more support do not lose an acceptance, nor does an aggregate of more support. -/
theorem foldAll_mono {α : Type} {chain : List α} {f g : α → Vote}
    (le : ∀ c ∈ chain, (f c).support ≤ (g c).support) {a a' : Vote} (leads : a.Leads a')
    (accepted : (foldAll a (chain.map f)).1 = accept) :
    (foldAll a' (chain.map g)).1 = accept := by
  induction chain generalizing a a' with
  | nil =>
    obtain ⟨_, undenied', ahead⟩ := leads
    obtain rfl : a = accept := accepted
    rcases undenied' with rfl | rfl
    · simp [support] at ahead
    · rfl
  | cons c chain ih =>
    obtain ⟨first, later⟩ := List.forall_mem_cons.mp le
    rw [List.map_cons, foldAll] at accepted ⊢
    -- the first vote denies, settles the other fold, or keeps it ahead
    rcases foldInto_mono leads first with denied | settled | ⟨b, b', went, went', leads⟩
    · rw [denied] at accepted
      cases accepted
    · rw [settled]
      rfl
    · rw [went] at accepted
      rw [went']
      exact ih later leads accepted

/-- A chain whose votes gain in support does not lose its acceptance. -/
theorem verdict_mono {α : Type} {chain : List α} {f g : α → Vote}
    (le : ∀ c ∈ chain, (f c).support ≤ (g c).support) (accepted : verdict (chain.map f) = accept) :
    verdict (chain.map g) = accept := by
  have before : (foldAll skip (chain.map f)).1 = accept := by
    unfold verdict at accepted
    dsimp only at accepted
    split at accepted
    · cases accepted
    · exact accepted
  have after : (foldAll skip (chain.map g)).1 = accept :=
    foldAll_mono le ⟨Or.inl rfl, Or.inl rfl, Nat.le_refl _⟩ before
  rw [verdict, after]
  rfl

/-- A fold ends without opinion, with acceptance or with denial. -/
theorem foldAll_of_undenied {a : Vote} (undenied : a = skip ∨ a = accept) (votes : List Vote) :
    (foldAll a votes).1 = skip ∨ (foldAll a votes).1 = accept ∨ (foldAll a votes).1 = deny := by
  induction votes generalizing a with
  | nil => exact undenied.imp_right Or.inl
  | cons v votes ih =>
    rw [foldAll]
    cases v
    case deny | denyAlways => exact Or.inr (Or.inr rfl)
    case acceptAlways => exact Or.inr (Or.inl rfl)
    case skip => exact ih undenied
    case accept =>
      rw [foldInto_accept undenied]
      exact ih (Or.inr rfl)

/-- A verdict is acceptance or denial. -/
theorem verdict_eq_accept_or_deny (votes : List Vote) :
    verdict votes = accept ∨ verdict votes = deny := by
  unfold verdict
  dsimp only
  rcases foldAll_of_undenied (Or.inl rfl) votes with none | accepted | denied
  · exact Or.inr (if_pos none)
  · rw [accepted]
    exact Or.inl rfl
  · rw [denied]
    exact Or.inr rfl

/-- Verdicts are the same if each is an acceptance where the other is. -/
theorem verdict_congr {votes votes' : List Vote}
    (same : verdict votes' = accept ↔ verdict votes = accept) : verdict votes' = verdict votes := by
  rcases verdict_eq_accept_or_deny votes with accepted | denied
  · rw [accepted, same.mpr accepted]
  · rcases verdict_eq_accept_or_deny votes' with accepted' | denied'
    · rw [accepted', same.mp accepted']
    · rw [denied, denied']

end Vote

/-! ### Standing -/

namespace Store

variable {owner : EntityId} {p : Permissions} {wanted : Rights} {rule : BasicRule}
  {first first' : EntityId} {second second' : Option EntityId}

theorem permits_mono (more : ∀ c ∈ first :: second.toList, c ∈ first' :: second'.toList)
    (h : store.permits owner p wanted first second rule = true) :
    store.permits owner p wanted first' second' rule = true := by
  rw [permits, Bool.or_eq_true] at h ⊢
  refine h.imp_left fun entitled => ?_
  obtain ⟨c, among, entitled⟩ := List.any_eq_true.mp entitled
  exact List.any_eq_true.mpr ⟨c, more c among, entitled⟩

theorem administers_mono (more : ∀ c ∈ first :: second.toList, c ∈ first' :: second'.toList)
    (h : store.administers owner p first second = true) :
    store.administers owner p first' second' = true := by
  obtain ⟨c, among, standing⟩ := List.any_eq_true.mp h
  exact List.any_eq_true.mpr ⟨c, more c among, standing⟩

/-- Owners and admins have every right. -/
theorem permits_of_administers (h : store.administers owner p first second = true) :
    store.permits owner p wanted first second rule = true := by
  obtain ⟨c, among, standing⟩ := List.any_eq_true.mp h
  obtain ⟨valid, standing⟩ := Bool.and_eq_true_iff.mp standing
  rw [permits, Bool.or_eq_true]
  refine Or.inl (List.any_eq_true.mpr ⟨c, among, ?_⟩)
  rw [entitles, valid, standing]
  rfl

end Store

namespace Session

/-- Whether a session of the same actors holds at least as much, and lets its program, if there is
one, run as the requester if the first does. -/
structure Within (s s' : Session) : Prop where
  requester : s'.requester = s.requester
  program : s'.program = s.program
  has : ∀ c, s.has c = true → s'.has c = true
  runsAs : s.program.isValid = true → s.runsAsRequester = true → s'.runsAsRequester = true

/-- The candidates are the program, with the requester if the session runs so, or the requester. -/
theorem mem_candidates {c : EntityId} :
    c ∈ s.candidates.1 :: s.candidates.2.toList ↔
      (s.program.isValid = true ∧
          (c = s.program ∨ s.runsAsRequester = true ∧ c = s.requester)) ∨
        s.program.isValid = false ∧ c = s.requester := by
  unfold candidates
  by_cases valid : s.program.isValid = true
  all_goals by_cases runs : s.runsAsRequester = true
  all_goals simp [valid, runs]

namespace Within

theorem candidates (h : s.Within s') :
    ∀ c ∈ s.candidates.1 :: s.candidates.2.toList,
      c ∈ s'.candidates.1 :: s'.candidates.2.toList := by
  intro c among
  rw [mem_candidates] at among ⊢
  rw [h.program, h.requester]
  rcases among with ⟨valid, rfl | ⟨runs, rfl⟩⟩ | without
  · exact Or.inl ⟨valid, Or.inl rfl⟩
  · exact Or.inl ⟨valid, Or.inr ⟨h.runsAs valid runs, rfl⟩⟩
  · exact Or.inr without

theorem sessionPermits (h : s.Within s') {owner : EntityId} {p : Permissions} {wanted : Rights}
    {rule : BasicRule} (may : w.sessionPermits s owner p wanted rule = true) :
    w.sessionPermits s' owner p wanted rule = true :=
  Store.permits_mono h.candidates may

theorem sessionAdministers (h : s.Within s') {owner : EntityId} {p : Permissions}
    (may : w.sessionAdministers s owner p = true) : w.sessionAdministers s' owner p = true :=
  Store.administers_mono h.candidates may

theorem isNear (h : s.Within s') : w.isNear s' = w.isNear s := by
  funext target
  rw [Surroundings.isNear, Surroundings.isNear, h.requester]

theorem any_sessionPermits (h : s.Within s') {x : Entity} {name : String} {wanted : Rights}
    {rule : BasicRule}
    (may : (x.applications[name]?.any fun app =>
      w.sessionPermits s app.owner app.permissions wanted rule) = true) :
    (x.applications[name]?.any fun app =>
      w.sessionPermits s' app.owner app.permissions wanted rule) = true := by
  obtain ⟨app, had, may⟩ := (Option.any_eq_true _ _).mp may
  exact (Option.any_eq_true _ _).mpr ⟨app, had, h.sessionPermits may⟩

theorem mayAdministerApplication (h : s.Within s') {x : Entity} {name : String}
    (may : w.mayAdministerApplication s x name = true) :
    w.mayAdministerApplication s' x name = true := by
  rw [Surroundings.mayAdministerApplication, Bool.or_eq_true] at may ⊢
  refine may.imp (fun own => ?_) h.sessionAdministers
  obtain ⟨app, had, may⟩ := (Option.any_eq_true _ _).mp own
  exact (Option.any_eq_true _ _).mpr ⟨app, had, h.sessionAdministers may⟩

theorem basicNear (h : s.Within s') : w.basicNear s' = w.basicNear s := by
  funext target
  rw [Surroundings.basicNear, Surroundings.basicNear, h.isNear]

/-- A right for which BASIC may stand in near the requester, as it does for some fields. -/
theorem mayUse_basicNear (h : s.Within s') {x : Entity} (f : Field)
    (may : w.mayUse s x .read (if f.isBase then w.basicNear s x.id else .ignored) = true) :
    w.mayUse s' x .read (if f.isBase then w.basicNear s' x.id else .ignored) = true := by
  rw [h.basicNear]
  exact h.sessionPermits may

/-- A name is seen by standing of the requester too, which a session without a program has as its
candidate. -/
theorem maySeeName (h : s.Within s') {x : Entity} (may : w.maySeeName s x = true) :
    w.maySeeName s' x = true := by
  simp only [Surroundings.maySeeName, Bool.or_eq_true, Bool.and_eq_true] at may ⊢
  rw [h.isNear, h.requester]
  rcases may with ((known | ⟨runs, standing⟩) | near) | may
  · exact Or.inl (Or.inl (Or.inl (h.has _ known)))
  · by_cases valid : s.program.isValid = true
    · exact Or.inl (Or.inl (Or.inr ⟨h.runsAs valid runs, standing⟩))
    · -- an owner or admin has the right to see, and the requester is the candidate
      have invalid : s'.program.isValid = false := by
        rw [h.program]
        exact Bool.eq_false_iff.mpr valid
      have candidate : ∀ c ∈ s.requester :: (none : Option EntityId).toList,
          c ∈ s'.candidates.1 :: s'.candidates.2.toList := by
        intro c among
        rw [mem_candidates]
        exact Or.inr ⟨invalid, (List.mem_singleton.mp among).trans h.requester.symm⟩
      exact Or.inr (Store.permits_mono candidate (Store.permits_of_administers standing))
  · exact Or.inl (Or.inr near)
  · exact Or.inr (h.sessionPermits may)

end Within

end Session

/-! ### Checkers -/

namespace Checker

variable {c : Checker} {r : Request}

theorem mayReadField_mono (h : s.Within s') {x : Entity} {f : Field}
    (may : mayReadField w s x f = true) : mayReadField w s' x f = true := by
  cases f
  case id => rfl
  case password => cases may
  case name => exact h.maySeeName may
  all_goals exact h.mayUse_basicNear _ may

theorem mayWriteField_mono (h : s.Within s') {x : Entity} {f : Field}
    (may : mayWriteField w s x f = true) : mayWriteField w s' x f = true := by
  cases f
  case owner | security => exact h.sessionAdministers may
  case id | type | version | createdTimestamp | updatedTimestamp => cases may
  all_goals exact h.sessionPermits may

/-- A checker of the program's own supports a session of more privilege as far as one of less. -/
theorem support_vote_le (own : c.isSupplied = false) (h : s.Within s')
    (marked : s.isAdmin = true → s'.isAdmin = true) (w : Surroundings) (r : Request) :
    (c.vote w s r).support ≤ (c.vote w s' r).support := by
  cases c
  case supplied name opinion => cases own
  -- sites are the same whatever the privilege
  case crossSite =>
    refine Nat.le_of_eq ?_
    rw [vote, vote, crossSiteVote, crossSiteVote, actorSites, actorSites, h.requester, h.program]
  case admin =>
    rw [vote, vote, adminVote, adminVote, h.requester]
    exact Vote.support_acceptAlways_le fun admin => by
      rw [Bool.and_eq_true] at admin ⊢
      exact admin.imp_left marked
  case createEntity =>
    cases r with
    | kind k =>
      cases k
      case capability | program => exact Nat.le_refl _
      case player | guest => exact Vote.support_ofBool_le (h.has .createPlayer)
      all_goals exact Vote.support_ofBool_le (h.has .builder)
    | _ => exact Nat.le_refl _
  case deleteEntity =>
    cases r with
    | target x =>
      refine Vote.support_ofBool_le fun may => ?_
      rw [Bool.and_eq_true] at may ⊢
      exact may.imp (h.has .builder) h.sessionAdministers
    | _ => exact Nat.le_refl _
  case getContains =>
    cases r with
    | target x =>
      refine Vote.support_ofBool_le fun may => ?_
      rw [Bool.or_eq_true] at may ⊢
      rw [h.isNear]
      exact may.imp_right h.sessionPermits
    | _ => exact Nat.le_refl _
  case convertIdToName =>
    cases r with
    | target x => exact Vote.support_ofBool_le h.maySeeName
    | _ => exact Nat.le_refl _
  case getEntityField =>
    cases r with
    | field x f => exact Vote.support_ofBool_le (mayReadField_mono h)
    | _ => exact Nat.le_refl _
  case setEntityField =>
    cases r with
    | field x f => exact Vote.support_ofBool_le (mayWriteField_mono h)
    | _ => exact Nat.le_refl _
  case getApplicationProperty =>
    cases r with
    | application x name =>
      rw [vote, vote, h.basicNear]
      exact Vote.support_ofBool_le h.any_sessionPermits
    | _ => exact Nat.le_refl _
  case setApplicationProperty =>
    cases r with
    | application x name => exact Vote.support_ofBool_le h.any_sessionPermits
    | _ => exact Nat.le_refl _
  case createApplication =>
    cases r with
    | application x name => exact Vote.support_ofBool_le h.sessionPermits
    | _ => exact Nat.le_refl _
  case applicationSecurity | deleteApplication =>
    cases r with
    | application x name => exact Vote.support_ofBool_le h.mayAdministerApplication
    | _ => exact Nat.le_refl _
  case transferEntity =>
    cases r with
    | transfer target source =>
      rw [vote, vote, transferVote, transferVote, h.requester]
      refine Vote.support_ofBool_le fun may => ?_
      rw [Bool.or_eq_true] at may ⊢
      refine may.imp_right fun standing => ?_
      rw [Bool.and_eq_true] at standing ⊢
      exact standing.imp h.sessionAdministers h.sessionAdministers
    | _ => exact Nat.le_refl _
  case useAction =>
    cases r with
    | target x =>
      -- the requester alone counts, with or without a program
      refine Nat.le_of_eq ?_
      rw [vote, vote, useActionVote, useActionVote, h.requester]
    | _ => exact Nat.le_refl _
  case sendTextRoom =>
    cases r with
    | target x =>
      rw [vote, vote, sendTextRoomVote, sendTextRoomVote, h.requester]
      split
      · exact Nat.le_refl _
      · refine Vote.support_ofBool_le fun may => ?_
        rw [Bool.or_eq_true] at may ⊢
        exact may.imp_right (h.has _)
    | _ => exact Nat.le_refl _
  case sendTextRoomUnrestricted | sendTextEntity | characterOnline | findCharacterByName
      | runAsRequester =>
    cases r with
    | global | target => exact Vote.support_ofBool_le (h.has _)
    | _ => exact Nat.le_refl _
  -- the others have one vote for everything
  all_goals exact Nat.le_refl _

end Checker

namespace Engine

variable {e : Engine}

/-- What a chain accepts for a session it accepts for one of more privilege. -/
theorem verdict_votes_mono (own : ∀ extra ∈ e.extras, extra.2.isSupplied = false)
    (within : s.Within s') (marked : s.isAdmin = true → s'.isAdmin = true) {op : Operation}
    {r : Request} (accepted : Vote.verdict (e.votes store s op r) = .accept) :
    Vote.verdict (e.votes store s' op r) = .accept := by
  refine Vote.verdict_mono (fun c among => ?_) accepted
  rcases isSupplied_or_appended among with builtin | ⟨extra, appended, rfl⟩
  · exact Checker.support_vote_le builtin within marked (e.surroundings store) r
  · exact Checker.support_vote_le (own extra appended) within marked (e.surroundings store) r

/-- A session of at least the privilege of another is allowed at least as much, whatever is asked,
when both are prepared and callers append no opinions of their own. And in a session without a
program it makes no difference to any answer whether the session runs as the requester. -/
theorem answer_mono (own : ∀ extra ∈ e.extras, extra.2.isSupplied = false) (prepared : s.Prepared)
    (prepared' : s'.Prepared) (within : s.Within s') (store : Store) (op : Operation)
    (r : Option Request) (raising : Bool) :
    ((e.answer store s op r raising).2.2 = .ok true →
        (e.answer store s' op r raising).2.2 = .ok true) ∧
      (s.program.isValid = false → ∀ runsAsRequester : Bool,
        (e.answer store (s.setRunAs runsAsRequester) op r raising).2.2 =
          (e.answer store s op r raising).2.2) := by
  cases r with
  | none => exact ⟨id, fun _ _ => rfl⟩
  | some r =>
    constructor
    · intro allowed
      rw [answer_eq_ok_true_iff, evaluate_of_prepared prepared] at allowed
      rw [answer_eq_ok_true_iff, evaluate_of_prepared prepared']
      refine verdict_votes_mono own within (fun admin => ?_) allowed
      rw [prepared'.marked]
      exact within.has .admin (prepared.marked ▸ admin)
    · intro invalid runsAsRequester
      rw [prepared.setRunAs_eq]
      have prepared'' : ({ s with runsAsRequester } : Session).Prepared :=
        ⟨prepared.populated, prepared.forgotten, prepared.marked⟩
      -- without a program each of the two sessions is within the other
      have more : s.Within { s with runsAsRequester } :=
        ⟨rfl, rfl, fun _ => id, fun valid => by rw [invalid] at valid; cases valid⟩
      have less : ({ s with runsAsRequester } : Session).Within s :=
        ⟨rfl, rfl, fun _ => id, fun valid => by rw [invalid] at valid; cases valid⟩
      rw [answer_some, answer_some, evaluate_of_prepared prepared, evaluate_of_prepared prepared'']
      rw [Vote.verdict_congr ⟨verdict_votes_mono own less id, verdict_votes_mono own more id⟩]
      exact Session.ruling_congr rfl rfl _ raising _

/-- A store with a player, a program, and a capability entity of builders. -/
def yardStore : Store :=
  let s := (Store.empty.registerSite 2 "main").store
  let s := (s.create .epoch 2 .player "mason" .none).store
  let s := (s.create .epoch 2 .program "crane" .none).store
  (s.create .epoch 2 .capability "BUILDER" .none).store

/-- The same store after the player has become a builder. -/
def hiredStore : Store := (yardStore.edit .epoch ⟨⟨2, 3⟩, 2⟩ [.edit (.addMember ⟨2, 1⟩)]).store

/-- A stone that the program owns. -/
def stone : Entity := .fresh .epoch ⟨2, 4⟩ .entity "stone" ⟨2, 2⟩

/-- An engine with checkers appended to writing that accept everything, or have no opinion. -/
def yardEngine : Engine :=
  { extras := [(.setEntityField, .acceptAll), (.setEntityField, .fixed 0 .skip)] }

/-- A session of the program for the player, with what is resolved over a store. -/
def craneSession (store : Store) (runsAsRequester : Bool) : Session :=
  (yardEngine.populate store (.start ⟨2, 1⟩ ⟨2, 2⟩ runsAsRequester)).2

/-- A session of the player alone, with what is resolved over a store. -/
def masonSession (store : Store) : Session := (yardEngine.populate store (.forRequester ⟨2, 1⟩)).2

theorem answer_mono_crane :
    (yardEngine.answer hiredStore (craneSession hiredStore true) .setEntityField
        (some (.field stone .note)) true).2.2 = .ok true ∧
      (yardEngine.answer hiredStore ((masonSession hiredStore).setRunAs false) .createEntity
        (some (.kind .room)) true).2.2 = .ok true := by
  have own : ∀ extra ∈ yardEngine.extras, extra.2.isSupplied = false := by decide
  have prepared : ∀ store runs, (craneSession store runs).Prepared :=
    fun store _ => prepared_populate yardEngine store rfl
  have more : ∀ c ∈ Capability.all, (craneSession yardStore false).has c = true →
      (craneSession hiredStore true).has c = true := by decide +kernel
  have hired : (craneSession yardStore false).Within (craneSession hiredStore true) :=
    ⟨by decide +kernel, by decide +kernel, fun c => more c c.mem_all, by decide +kernel⟩
  have mason : (masonSession hiredStore).Prepared := prepared_populate yardEngine hiredStore rfl
  constructor
  · refine (answer_mono own (prepared _ _) (prepared _ _) hired hiredStore .setEntityField
      (some (.field stone .note)) true).1 ?_
    rw [answer_eq_ok_true_iff]
    decide +kernel
  · rw [(answer_mono own mason mason ⟨rfl, rfl, fun _ => id, fun _ => id⟩ hiredStore .createEntity
      (some (.kind .room)) true).2 (by decide +kernel) false, answer_eq_ok_true_iff]
    decide +kernel

end Engine

end WorldAccess
