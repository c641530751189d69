import WorldAccess.Proofs.Engine.Placement
import WorldAccess.Proofs.Engine.Privilege

/-!
# Programs on their own

A program that does not run as the requester has no rights but its own. What the requester owns,
which records list the requester and which groups the requester belongs to is of no use to it. Of
the requester only three things count: the site, which the two leading checkers compare; the
capabilities, which are held by the session; and, for what looks around and for the use of actions,
the requester's place and their own standing. Apart from that, one requester may be put in the place
of another without a verdict changing.

## Main definitions

* `Session.SameDeputy` — sessions of one program that does not run as the requester
* `Operation.turnsToRequester` — where the requester's place or standing may matter

## Main results

* `Session.SameDeputy.candidates_eq` — the program is the only candidate
* `Engine.evaluate_of_sameDeputy` — the program is given the same verdicts for either requester
-/

namespace WorldAccess

variable {s s' : Session}

namespace Session

/-- Whether two sessions are of the same program, which runs as the requester in neither. They hold
the same capabilities, and the requesters are of the same site. -/
structure SameDeputy (s s' : Session) : Prop where
  program : s'.program = s.program
  valid : s.program.isValid = true
  apart : s.runsAsRequester = false
  apart' : s'.runsAsRequester = false
  has : ∀ c, s'.has c = s.has c
  site : s'.requester.site = s.requester.site

namespace SameDeputy

/-- The program is the only candidate. -/
theorem candidates_eq (deputy : s.SameDeputy s') :
    s.candidates = (s.program, none) ∧ s'.candidates = (s.program, none) := by
  have valid' : s'.program.isValid = true := deputy.program ▸ deputy.valid
  constructor
  · rw [candidates, if_pos deputy.valid, deputy.apart]
    rfl
  · rw [candidates, if_pos valid', deputy.apart', deputy.program]
    rfl

theorem sessionPermits (deputy : s.SameDeputy s') (w : Surroundings) :
    w.sessionPermits s' = w.sessionPermits s := by
  obtain ⟨alone, alone'⟩ := deputy.candidates_eq
  funext owner p wanted rule
  rw [Surroundings.sessionPermits, Surroundings.sessionPermits, alone, alone']

theorem sessionAdministers (deputy : s.SameDeputy s') (w : Surroundings) :
    w.sessionAdministers s' = w.sessionAdministers s := by
  obtain ⟨alone, alone'⟩ := deputy.candidates_eq
  funext owner p
  rw [Surroundings.sessionAdministers, Surroundings.sessionAdministers, alone, alone']

theorem actorSites (deputy : s.SameDeputy s') : Checker.actorSites s' = Checker.actorSites s := by
  rw [Checker.actorSites, Checker.actorSites, deputy.program, deputy.site]

end SameDeputy

end Session

/-- Whether a request turns to the requester: an action is used by the requester, and checkers look
around the requester. -/
def Operation.turnsToRequester : Operation → Request → Bool
  | useAction, _ => true
  | op, r => op.looksAround r

namespace Operation

variable {op : Operation} {r : Request}

theorem turnsToRequester_eq_false (alone : op.turnsToRequester r = false) :
    op ≠ .useAction ∧ op.looksAround r = false := by
  cases op
  case useAction => cases alone
  all_goals exact ⟨nofun, alone⟩

/-- The checkers of an operation do not tell one requester from another. -/
theorem vote_of_sameDeputy (deputy : s.SameDeputy s') (alone : op.turnsToRequester r = false)
    (w : Surroundings) : ∀ c ∈ op.builtin, c.vote w s' r = c.vote w s r := by
  obtain ⟨unused, afar⟩ := turnsToRequester_eq_false alone
  intro c own
  -- by way of the request on entities that are nowhere
  calc c.vote w s' r
    _ = c.vote w s' (r.conceal .unplaced) := (vote_unplaced rfl rfl rfl afar unused c own).symm
    _ = c.vote w s r := vote_unplaced (deputy.sessionPermits w) (deputy.sessionAdministers w)
      (funext deputy.has) afar unused c own

end Operation

namespace Engine

variable {e : Engine}

/-- A program that does not run as the requester is given the same verdicts for either of two
requesters of one site, if the same capabilities are held. This is so for whatever does not turn to
the requester, when both sessions are prepared and chains are the default ones. -/
theorem evaluate_of_sameDeputy (plain : e.AppendsNothing) (prepared : s.Prepared)
    (prepared' : s'.Prepared) (deputy : s.SameDeputy s') {op : Operation} {r : Request}
    (alone : op.turnsToRequester r = false) (store : Store) :
    (e.evaluate store s' op r).2.2 = (e.evaluate store s op r).2.2 := by
  have marked : s'.isAdmin = s.isAdmin := by
    rw [prepared'.marked, deputy.has, prepared.marked]
  have voted : e.votes store s' op r = e.votes store s op r := by
    refine plain.votes_congr ?_ ?_ (Operation.vote_of_sameDeputy deputy alone _)
    · rw [Checker.crossSiteVote, Checker.crossSiteVote, deputy.actorSites]
    · rw [Checker.adminVote, Checker.adminVote, marked, deputy.site]
  rw [evaluate_of_prepared prepared, evaluate_of_prepared prepared', voted]

/-- A session of the program for a requester, with what is resolved over the store of the yard. -/
def craneFor (requester : EntityId) : Session :=
  (populate {} yardStore (.start requester ⟨2, 2⟩ false)).2

/-- A stone that the player owns. -/
def masonStone : Entity := .fresh .epoch ⟨2, 5⟩ .entity "stone" ⟨2, 1⟩

theorem evaluate_of_sameDeputy_crane :
    (evaluate {} yardStore (craneFor ⟨2, 1⟩) .setEntityField (.field stone .owner)).2.2 = .accept ∧
      (evaluate {} yardStore (craneFor ⟨2, 1⟩) .setEntityField (.field masonStone .owner)).2.2 =
        .deny := by
  have plain : ({} : Engine).AppendsNothing := appendsNothing_of_empty rfl rfl
  have prepared : ∀ requester, (craneFor requester).Prepared :=
    fun _ => prepared_populate {} yardStore rfl
  have same : ∀ c ∈ Capability.all,
      (craneFor ⟨2, 1⟩).has c = (craneFor ⟨2, 9⟩).has c := by decide +kernel
  have deputy : (craneFor ⟨2, 9⟩).SameDeputy (craneFor ⟨2, 1⟩) :=
    ⟨by decide +kernel, by decide +kernel, by decide +kernel, by decide +kernel,
      fun c => same c c.mem_all, by decide +kernel⟩
  constructor
  · rw [evaluate_of_sameDeputy plain (prepared _) (prepared _) deputy rfl yardStore]
    decide +kernel
  · rw [evaluate_of_sameDeputy plain (prepared _) (prepared _) deputy rfl yardStore]
    decide +kernel

end Engine

end WorldAccess
