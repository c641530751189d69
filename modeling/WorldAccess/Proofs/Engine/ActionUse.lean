import WorldAccess.Proofs.Engine.DefaultChains
import WorldAccess.Proofs.Engine.Standing

/-!
# Who may use an action

An action is used by the requester alone. Which program asks for the requester, and whether it runs
as the requester, does not count, as long as it may deal with the site of the action. The requester
has to see the action, for which BASIC is as good as READ, and has to pass its lock. A lock lets in
whom it fits or, if it is negated, whom it does not fit. One that asks for the members of the
requester does not fit the requester, even if that is a group and a member of itself.

## Main definitions

* `Rights.Show` — rights by which something is seen
* `Store.Sees` — a user sees an entity by its record
* `Lock.Fits`, `Lock.isNegated`, `Lock.LetsIn` — whom a lock lets in

## Main results

* `Lock.opensFor_iff` — the lock as it is asked about a requester
* `Checker.accepts_useActionVote_iff` — what the checker of actions is for
* `Engine.useAction_by_requester` — which actions may be used, whoever asks
-/

namespace WorldAccess

/-! ### Seeing -/

/-- Whether something is seen by these rights. -/
def Rights.Show (r : Rights) : Prop := r.includes .read = true ∨ r.includes .basic = true

theorem Rights.grant_read_iff {r : Rights} : r.grant .read .counts = true ↔ r.Show := by
  simp [grant, Show]

/-- Whether a user sees an entity: as the owner, through an id among the admins or, if the list
rights show it, on the list, or as everybody does if the other rights show it. -/
def Store.Sees (s : Store) (user : EntityId) (x : Entity) : Prop :=
  (user.isValid = true ∧
      (user = x.owner ∨ (∃ id ∈ x.permissions.admins, s.StandsFor id user) ∨
        x.permissions.listRights.Show ∧ ∃ id ∈ x.permissions.listed, s.StandsFor id user)) ∨
    x.permissions.otherRights.Show

theorem Store.permits_read_iff {s : Store} {user : EntityId} {x : Entity} :
    s.permits x.owner x.permissions .read user none .counts = true ↔ s.Sees user x := by
  simp only [permits, Option.toList_none, List.any_cons, List.any_nil, Bool.or_false,
    Bool.or_eq_true, entitles_iff, Rights.grant_read_iff, Sees]

/-! ### Locks -/

namespace Lock

/-- Whether a lock fits a user, before it is negated: the user's id is the one it names, or the user
has the property it names with the same value, or is a member of the group it names. A requester
does not count as a member of itself. -/
def Fits (store : Store) (requester : EntityId) (user : Entity) : Lock → Prop
  | unlocked => True
  | byId id _ => user.id = id
  | byProperty application path value _ =>
    ∃ found, user.property? application path = some found ∧ found.same value = true
  | byGroup group _ => group ≠ requester ∧ store.isMember group user.id = true

/-- Whether a lock keeps out whom it fits. -/
def isNegated : Lock → Bool
  | unlocked => false
  | byId _ negate | byProperty _ _ _ negate | byGroup _ negate => negate

/-- Whether a lock lets a user in. -/
def LetsIn (lock : Lock) (store : Store) (requester : EntityId) (user : Entity) : Prop :=
  lock.Fits store requester user ↔ lock.isNegated = false

/-- A lock that is asked about a requester opens for whom it lets in. -/
theorem opensFor_iff {lock : Lock} {store : Store} {requester : EntityId} {user : Entity} :
    (lock.opensFor user fun group member => group != requester && store.isMember group member) =
        true ↔ lock.LetsIn store requester user := by
  -- an answer that is negated is yes iff the answer differs from the negation
  have negated : ∀ {fits negate : Bool} {p : Prop}, (fits = true ↔ p) →
      ((fits != negate) = true ↔ (p ↔ negate = false)) := by
    intro fits negate p fact
    rw [← fact]
    cases fits <;> cases negate <;> decide
  cases lock with
  | unlocked => exact iff_of_true rfl (iff_of_true trivial rfl)
  | byId id negate => exact negated beq_iff_eq
  | byProperty application path value negate => exact negated (Option.any_eq_true _ _)
  | byGroup group negate =>
    refine negated ?_
    rw [Bool.and_eq_true, bne_iff_ne]
    rfl

theorem isLocked_eq_false_iff {lock : Lock} : lock.isLocked = false ↔ lock = .unlocked := by
  cases lock <;> simp [isLocked]

end Lock

/-! ### Using actions -/

variable {w : Surroundings} {s s' : Session} {store : Store}

/-- Whether a requester may use an action that it may deal with: it is an action, the requester sees
it, and it is not locked or its lock lets the requester in as stored. -/
structure Store.CanUse (store : Store) (requester : EntityId) (x : Entity) : Prop where
  isAction : x.kind.isAction = true
  sees : store.Sees requester x
  passes : x.lock = .unlocked ∨
    ∃ user, store.get? requester = some user ∧ x.lock.LetsIn store requester user

/-- The checker of actions is for what the requester can use. -/
theorem Checker.accepts_useActionVote_iff {x : Entity} :
    (useActionVote w s x).accepts = true ↔ w.store.CanUse s.requester x := by
  -- the checker asks four questions in turn, and refuses on the first that fails
  unfold useActionVote
  split
  next other => exact iff_of_false Bool.false_ne_true fun can => by simp [can.isAction] at other
  next action =>
  split
  next unseen =>
    refine iff_of_false Bool.false_ne_true fun can => ?_
    simp [Store.permits_read_iff.mpr can.sees] at unseen
  next seen =>
  have isAction : x.kind.isAction = true := by simpa using action
  have sees : w.store.Sees s.requester x := Store.permits_read_iff.mp (by simpa using seen)
  split
  next unlocked =>
    have unlocked : x.lock = .unlocked := Lock.isLocked_eq_false_iff.mp (by simpa using unlocked)
    exact iff_of_true rfl ⟨isAction, sees, Or.inl unlocked⟩
  next locked =>
  have locked : x.lock ≠ .unlocked := fun unlocked => by
    simp [Lock.isLocked_eq_false_iff.mpr unlocked] at locked
  split
  next gone =>
    refine iff_of_false Bool.false_ne_true fun can => ?_
    obtain ⟨user, stored, _⟩ := can.passes.resolve_left locked
    cases gone.symm.trans stored
  next user stored =>
    rw [Vote.accepts_ofBool, Lock.opensFor_iff]
    constructor
    · exact fun lets => ⟨isAction, sees, Or.inr ⟨user, stored, lets⟩⟩
    · intro can
      obtain ⟨same, stored', lets⟩ := can.passes.resolve_left locked
      cases stored.symm.trans stored'
      exact lets

namespace Engine

variable {e : Engine}

theorem evaluate_useAction_eq_accept_iff (plain : e.AppendsNothing) (prepared : s.Prepared)
    {x : Entity} :
    (e.evaluate store s .useAction (.target x)).2.2 = .accept ↔
      s.MayDealWith e.config.globalSite x.id ∧
        (s.has .admin = true ∧ x.id.site = s.requester.site ∨ store.CanUse s.requester x) := by
  rw [evaluate_of_prepared prepared, plain.verdict_eq_accept_iff rfl, prepared.marked, Checker.vote,
    Checker.accepts_useActionVote_iff]
  simp [Request.entities, Request.LiesIn, surroundings]

/-- Actions are used by the requester alone. By default two sessions of one requester, whose
capabilities are resolved and which remember nothing, are given the same verdict on the use of an
action, whatever programs ask and however they run, if they hold the admin capability alike and may
deal with the site of the action. And where an admin has no say, the action may be used iff the
requester sees it, and it is not locked or its lock lets in the requester as stored. -/
theorem useAction_by_requester (plain : e.AppendsNothing) (prepared : s.Prepared)
    (prepared' : s'.Prepared) (requester : s'.requester = s.requester)
    (admin : s'.has .admin = s.has .admin) (store : Store) (x : Entity)
    (deals : s.MayDealWith e.config.globalSite x.id)
    (deals' : s'.MayDealWith e.config.globalSite x.id) :
    (e.evaluate store s' .useAction (.target x)).2.2 =
        (e.evaluate store s .useAction (.target x)).2.2 ∧
      (¬ (s.has .admin = true ∧ x.id.site = s.requester.site) →
        ((e.evaluate store s .useAction (.target x)).2.2 = .accept ↔
          store.CanUse s.requester x)) := by
  constructor
  · apply evaluate_eq_of_accept_iff prepared.forgotten prepared'.forgotten
    rw [evaluate_useAction_eq_accept_iff plain prepared,
      evaluate_useAction_eq_accept_iff plain prepared', requester, admin]
    exact and_congr_left fun _ => iff_of_true deals' deals
  · intro overridden
    rw [evaluate_useAction_eq_accept_iff plain prepared]
    exact (and_iff_right deals).trans (or_iff_right overridden)

/-- A guild that is a member of itself. -/
def guild : Entity :=
  { Entity.fresh .epoch ⟨2, 1⟩ .group "guild" .none with group := some { members := {⟨2, 1⟩} } }

/-- A store with the guild. -/
def guildStore : Store := ((Store.empty.registerSite 2 "main").store.insert guild).store

/-- A gate that everybody sees by BASIC, locked against the members of the guild. -/
def gate : Entity :=
  { Entity.fresh .epoch ⟨2, 2⟩ .action "gate" ⟨2, 9⟩ with
    permissions := .make .empty .basic
    action := some { lock := .byGroup ⟨2, 1⟩ true } }

/-- A session of the guild, with or without a program that asks for it. -/
def guildSession (program : EntityId) : Session :=
  (populate {} guildStore (.start ⟨2, 1⟩ program false)).2

theorem useAction_by_requester_guild :
    guildStore.isMember ⟨2, 1⟩ ⟨2, 1⟩ = true ∧
      (evaluate {} guildStore (guildSession .none) .useAction (.target gate)).2.2 = .accept ∧
      (evaluate {} guildStore (guildSession ⟨2, 7⟩) .useAction (.target gate)).2.2 =
        (evaluate {} guildStore (guildSession .none) .useAction (.target gate)).2.2 := by
  have plain : ({} : Engine).AppendsNothing := appendsNothing_of_empty rfl rfl
  have prepared : ∀ program, (guildSession program).Prepared :=
    fun _ => prepared_populate {} guildStore rfl
  obtain ⟨same, used⟩ := useAction_by_requester plain (prepared .none) (prepared ⟨2, 7⟩)
    (by decide +kernel) (by decide +kernel) guildStore gate (by decide +kernel) (by decide +kernel)
  -- the guild does not count as its own member, so that the lock does not fit it
  have lets : gate.lock.LetsIn guildStore ⟨2, 1⟩ guild :=
    iff_of_false (fun fits => fits.1 rfl) (by decide)
  have can : guildStore.CanUse ⟨2, 1⟩ gate :=
    ⟨by decide, Or.inr (Or.inr (by decide)), Or.inr ⟨guild, by decide +kernel, lets⟩⟩
  exact ⟨by decide +kernel, (used (by decide +kernel)).mpr can, same⟩

end Engine

end WorldAccess
