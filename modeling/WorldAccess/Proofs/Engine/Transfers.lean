import WorldAccess.Proofs.Engine.DefaultChains
import WorldAccess.Proofs.Engine.Standing

/-!
# Who may move what

Moving one entity into another is allowed on three grounds. An admin may move what lies in the
requester's own site. Between something room-like and something that is not, the requester may move
what is near, wherever it lies. And those who have admin standing on both ends may move anything
there is, also from afar. None of the grounds tells what is moved from where it goes, so that
whoever may put one entity into another may put the second into the first as well.

## Main definitions

* `Store.StandsOver` — a candidate has admin standing on an entity
* `Engine.MoveGround` — the grounds for moving between two entities

## Main results

* `Checker.accepts_transferVote_iff` — what the checker of transfers is for
* `Engine.MoveGround.symm` — the grounds count both ways
* `Engine.transfer_allowed_iff` — which transfers are allowed
-/

namespace WorldAccess

/-- Whether a candidate has admin standing on an entity: as the owner, or through an id among the
admins of its record. -/
def Store.StandsOver (s : Store) (candidate : EntityId) (x : Entity) : Prop :=
  candidate.isValid = true ∧
    (candidate = x.owner ∨ ∃ id ∈ x.permissions.admins, s.StandsFor id candidate)

variable {w : Surroundings} {s : Session} {store : Store}

theorem Surroundings.mayAdminister_iff {x : Entity} :
    w.mayAdminister s x = true ↔
      ∃ c ∈ s.candidates.1 :: s.candidates.2.toList, w.store.StandsOver c x :=
  Store.administers_iff

/-- The checker of transfers is for moving between something room-like and something that is not,
both near the requester, and for moving between entities that candidates have standing on. -/
theorem Checker.accepts_transferVote_iff {target source : Entity} :
    (transferVote w s target source).accepts = true ↔
      (target.kind.isRoomLike ≠ source.kind.isRoomLike ∧
          w.store.isLocal w.maxDepth s.requester target.id true = true ∧
          w.store.isLocal w.maxDepth s.requester source.id true = true) ∨
        (∃ c ∈ s.candidates.1 :: s.candidates.2.toList, w.store.StandsOver c target) ∧
          ∃ c ∈ s.candidates.1 :: s.candidates.2.toList, w.store.StandsOver c source := by
  rw [transferVote, Vote.accepts_ofBool, Bool.or_eq_true, Bool.and_eq_true, Bool.and_eq_true,
    Bool.and_eq_true, Surroundings.mayAdminister_iff, Surroundings.mayAdminister_iff, bne_iff_ne]
  exact or_congr (and_congr_right fun _ => And.comm) And.comm

namespace Engine

variable {e : Engine}

/-- The grounds on which a session may move between two entities. -/
inductive MoveGround (e : Engine) (store : Store) (s : Session) (a b : Entity) : Prop
  /-- An admin moves within the requester's site. -/
  | admin (held : (e.populate store s).2.has .admin = true)
    (home : a.id.site = s.requester.site) (home' : b.id.site = s.requester.site)
  /-- Both are near the requester, and one of them is room-like. -/
  | near (crosses : a.kind.isRoomLike ≠ b.kind.isRoomLike)
    (near : store.isLocal e.config.maxDepth s.requester a.id true = true)
    (near' : store.isLocal e.config.maxDepth s.requester b.id true = true)
  /-- One candidate stands over the one, and one over the other. -/
  | standing (first : ∃ c ∈ s.candidates.1 :: s.candidates.2.toList, store.StandsOver c a)
    (second : ∃ c ∈ s.candidates.1 :: s.candidates.2.toList, store.StandsOver c b)

/-- What is moved and where it goes count alike. -/
theorem MoveGround.symm {a b : Entity} (ground : e.MoveGround store s a b) :
    e.MoveGround store s b a := by
  cases ground with
  | admin held home home' => exact .admin held home' home
  | near crosses near near' => exact .near crosses.symm near' near
  | standing first second => exact .standing second first

theorem evaluate_transfer_eq_accept_iff (plain : e.AppendsNothing) (new : s = s.anew)
    {target source : Entity} :
    (e.evaluate store s .transferEntity (.transfer target source)).2.2 = .accept ↔
      s.MayDealWith e.config.globalSite target.id ∧
        s.MayDealWith e.config.globalSite source.id ∧ e.MoveGround store s target source := by
  have resolved := e.resolved_populate store s
  -- resolving capabilities does not change who asks
  have candidates : (e.populate store s).2.candidates = s.candidates := by
    rw [Session.candidates, Session.candidates, resolved.program, resolved.requester,
      resolved.runsAsRequester]
  rw [plain.evaluate_eq_accept_iff rfl new, Checker.vote, Checker.accepts_transferVote_iff,
    candidates, resolved.requester]
  simp only [Request.entities, Request.LiesIn, List.forall_mem_cons, List.not_mem_nil,
    false_implies, implies_true, and_true, and_assoc]
  refine and_congr_right fun _ => and_congr_right fun _ => ⟨fun grounds => ?_, fun ground => ?_⟩
  · rcases grounds with ⟨held, home, home'⟩ | ⟨crosses, near, near'⟩ | ⟨first, second⟩
    · exact .admin held home home'
    · exact .near crosses near near'
    · exact .standing first second
  · cases ground with
    | admin held home home' => exact Or.inl ⟨held, home, home'⟩
    | near crosses near near' => exact Or.inr (Or.inl ⟨crosses, near, near'⟩)
    | standing first second => exact Or.inr (Or.inr ⟨first, second⟩)

/-- Which transfers a new session is allowed, by default. Those who act must be allowed to deal with
the sites of both entities; and there is a ground for moving: an admin moves within the requester's
site, or the requester is near both and one of them is room-like while the other is not, or some
candidate stands over the one and some candidate over the other. The verdict is the same if the two
are exchanged. -/
theorem transfer_allowed_iff (plain : e.AppendsNothing) (new : s = s.anew) (store : Store)
    (target source : Entity) (raising : Bool) :
    ((e.answer store s .transferEntity (some (.transfer target source)) raising).2.2 = .ok true ↔
        s.MayDealWith e.config.globalSite target.id ∧
          s.MayDealWith e.config.globalSite source.id ∧ e.MoveGround store s target source) ∧
      (e.evaluate store s .transferEntity (.transfer source target)).2.2 =
        (e.evaluate store s .transferEntity (.transfer target source)).2.2 := by
  constructor
  · rw [answer_eq_ok_true_iff, evaluate_transfer_eq_accept_iff plain new]
  · have forgotten : s.decisions = .empty := by
      rw [new]
      rfl
    apply evaluate_eq_of_accept_iff forgotten forgotten
    rw [evaluate_transfer_eq_accept_iff plain new, evaluate_transfer_eq_accept_iff plain new]
    constructor
    · rintro ⟨source, target, ground⟩
      exact ⟨target, source, ground.symm⟩
    · rintro ⟨target, source, ground⟩
      exact ⟨source, target, ground.symm⟩

/-- A hall. -/
def hall : Entity := .fresh .epoch ⟨2, 1⟩ .room "hall" .none

/-- A vase that stands in the hall. -/
def vase : Entity := { Entity.fresh .epoch ⟨2, 2⟩ .entity "vase" ⟨2, 9⟩ with container := ⟨2, 1⟩ }

/-- A visitor to the hall who has no standing on either. -/
def visitor : Entity :=
  { Entity.fresh .epoch ⟨2, 3⟩ .player "visitor" ⟨2, 9⟩ with container := ⟨2, 1⟩ }

/-- A store with the three. -/
def hallStore : Store :=
  let s := (Store.empty.registerSite 2 "main").store
  (((s.insert hall).store.insert vase).store.insert visitor).store

theorem transfer_allowed_iff_vase :
    (answer {} hallStore (.forRequester ⟨2, 3⟩) .transferEntity (some (.transfer hall vase))
        true).2.2 = .ok true ∧
      (evaluate {} hallStore (.forRequester ⟨2, 3⟩) .transferEntity (.transfer vase hall)).2.2 =
        .accept := by
  have plain : ({} : Engine).AppendsNothing := appendsNothing_of_empty rfl rfl
  obtain ⟨allowed, same⟩ :=
    transfer_allowed_iff (s := .forRequester ⟨2, 3⟩) plain rfl hallStore hall vase true
  have moved := allowed.mpr ⟨by decide, by decide, .near (by decide) (by decide +kernel)
    (by decide +kernel)⟩
  exact ⟨moved, same.trans ((answer_eq_ok_true_iff _ _ _ _).mp moved)⟩

end Engine

end WorldAccess
