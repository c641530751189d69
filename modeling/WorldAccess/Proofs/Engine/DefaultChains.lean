import WorldAccess.Proofs.Engine.Votes

/-!
# What default chains accept

By default a chain has three checkers: the two that lead every chain, and one of the operation's
own. The first can only refuse and the second can only accept, so that what is left to say of an
operation is what its own checker is for. This module says what it takes to be accepted by such a
chain, in the same way for all operations.

## Main definitions

* `Session.MayDealWith` — those who act may deal with the site of an id
* `Request.LiesIn` — all entities of a request lie in a site

## Main results

* `Checker.crossSiteVote_eq_skip_iff`, `Checker.adminVote_eq_acceptAlways_iff` — the leading votes
* `Engine.AppendsNothing.verdict_eq_accept_iff` — what a default chain accepts
* `Engine.AppendsNothing.evaluate_eq_accept_iff` — and what it accepts in a new session
-/

namespace WorldAccess

/-- Whether the requester, and the program where there is one, may deal with the site of an id: the
site is their own, or one of the two is global. An id that names nothing lies in no site. -/
def Session.MayDealWith (s : Session) (globalSite : SiteId) (id : EntityId) : Prop :=
  id.isValid = true → ∀ actor, actor = s.requester ∨ s.program.isValid = true ∧ actor = s.program →
    actor.site = id.site ∨ actor.site = globalSite ∨ id.site = globalSite

/-- Whether all entities of a request lie in a site. -/
def Request.LiesIn (r : Request) (site : SiteId) : Prop := ∀ x ∈ r.entities, x.id.site = site

variable {s s' : Session} {r : Request} {store : Store}

theorem Session.mayDealWith_congr (requester : s'.requester = s.requester)
    (program : s'.program = s.program) {globalSite : SiteId} {id : EntityId} :
    s'.MayDealWith globalSite id ↔ s.MayDealWith globalSite id := by
  rw [MayDealWith, MayDealWith, requester, program]

/-! ### Votes -/

@[simp] theorem Vote.accepts_ofBool (allowed : Bool) : (ofBool allowed).accepts = allowed := by
  cases allowed <;> rfl

/-- The verdict of three votes, the first of which can only refuse and the second only accept. -/
theorem Vote.verdict_eq_accept_iff_of_leading {first second : Vote}
    (refuses : first = skip ∨ first = denyAlways) (admits : second = skip ∨ second = acceptAlways)
    (v : Vote) :
    verdict [first, second, v] = accept ↔
      first = skip ∧ (second = acceptAlways ∨ v.accepts = true) := by
  rcases refuses with rfl | rfl
  all_goals rcases admits with rfl | rfl
  all_goals cases v <;> decide

namespace Checker

variable {w : Surroundings}

theorem sitesMeet_iff {globalSite a b : SiteId} :
    sitesMeet globalSite a b = true ↔ a = b ∨ a = globalSite ∨ b = globalSite := by
  simp only [sitesMeet, Bool.or_eq_true, beq_iff_eq, or_assoc]

theorem mem_actorSites {site : SiteId} :
    site ∈ actorSites s ↔
      ∃ actor, (actor = s.requester ∨ s.program.isValid = true ∧ actor = s.program) ∧
        actor.site = site := by
  by_cases valid : s.program.isValid = true
  · simp [actorSites, valid, or_and_right, exists_or, eq_comm]
  · simp [actorSites, valid, eq_comm]

/-- This goes through those who act. A quantifier over sites would be decided site by site. -/
theorem mayDealWith_iff {globalSite : SiteId} {id : EntityId} :
    s.MayDealWith globalSite id ↔
      (id.isValid = true → (actorSites s).all (sitesMeet globalSite · id.site) = true) := by
  rw [List.all_eq_true]
  refine imp_congr_right fun _ => ⟨fun deals site among => ?_, fun deals actor acts => ?_⟩
  · obtain ⟨actor, acts, rfl⟩ := mem_actorSites.mp among
    exact sitesMeet_iff.mpr (deals actor acts)
  · exact sitesMeet_iff.mp (deals actor.site (mem_actorSites.mpr ⟨actor, acts, rfl⟩))

instance (globalSite : SiteId) (id : EntityId) : Decidable (s.MayDealWith globalSite id) :=
  decidable_of_iff _ mayDealWith_iff.symm

theorem crossSiteVote_eq_skip_or_denyAlways :
    crossSiteVote w s r = .skip ∨ crossSiteVote w s r = .denyAlways := by
  unfold crossSiteVote
  split
  · exact Or.inr rfl
  · exact Or.inl rfl

theorem adminVote_eq_skip_or_acceptAlways :
    adminVote s r = .skip ∨ adminVote s r = .acceptAlways := by
  unfold adminVote
  split
  · exact Or.inr rfl
  · exact Or.inl rfl

/-- The first checker has nothing to say iff those who act may deal with every entity. -/
theorem crossSiteVote_eq_skip_iff :
    crossSiteVote w s r = .skip ↔ ∀ x ∈ r.entities, s.MayDealWith w.globalSite x.id := by
  simp only [mayDealWith_iff]
  simp [crossSiteVote]

/-- The second checker accepts iff an admin asks within the requester's site. -/
theorem adminVote_eq_acceptAlways_iff :
    adminVote s r = .acceptAlways ↔ s.isAdmin = true ∧ r.LiesIn s.requester.site := by
  simp [adminVote, Request.LiesIn]

end Checker

/-! ### Verdicts -/

namespace Engine

variable {e : Engine} {op op' : Operation} {r' : Request} {c : Checker}

/-- Two verdicts that nothing is remembered of are the same if each is acceptance where the other
is. -/
theorem evaluate_eq_of_accept_iff (forgotten : s.decisions = .empty)
    (forgotten' : s'.decisions = .empty)
    (same : (e.evaluate store s' op' r').2.2 = .accept ↔ (e.evaluate store s op r).2.2 = .accept) :
    (e.evaluate store s' op' r').2.2 = (e.evaluate store s op r).2.2 := by
  have unasked : s.decisions.lookup? ⟨op, r.scope⟩ = none := by
    rw [forgotten, Decisions.lookup?_empty]
  have unasked' : s'.decisions.lookup? ⟨op', r'.scope⟩ = none := by
    rw [forgotten', Decisions.lookup?_empty]
  rw [e.evaluate_of_unasked store unasked, e.evaluate_of_unasked store unasked'] at same ⊢
  exact Vote.verdict_congr same

/-- By default a request is accepted iff those who act may deal with all that it is on, and an admin
asks it within the requester's site or the operation's own checker is for it. -/
theorem AppendsNothing.verdict_eq_accept_iff (plain : e.AppendsNothing) (own : op.builtin = [c]) :
    Vote.verdict (e.votes store s op r) = .accept ↔
      (∀ x ∈ r.entities, s.MayDealWith e.config.globalSite x.id) ∧
        (s.isAdmin = true ∧ r.LiesIn s.requester.site ∨
          (c.vote (e.surroundings store) s r).accepts = true) := by
  have votes : e.votes store s op r = [Checker.crossSiteVote (e.surroundings store) s r,
      Checker.adminVote s r, c.vote (e.surroundings store) s r] := by
    rw [Engine.votes, plain.chain, own]
    rfl
  rw [votes, Vote.verdict_eq_accept_iff_of_leading Checker.crossSiteVote_eq_skip_or_denyAlways
    Checker.adminVote_eq_skip_or_acceptAlways, Checker.crossSiteVote_eq_skip_iff,
    Checker.adminVote_eq_acceptAlways_iff]
  rfl

/-- What a default chain accepts in a new session is told by the session as it was, but for the
capabilities that it is found to hold. -/
theorem AppendsNothing.evaluate_eq_accept_iff (plain : e.AppendsNothing) (own : op.builtin = [c])
    (new : s = s.anew) :
    (e.evaluate store s op r).2.2 = .accept ↔
      (∀ x ∈ r.entities, s.MayDealWith e.config.globalSite x.id) ∧
        ((e.populate store s).2.has .admin = true ∧ r.LiesIn s.requester.site ∨
          (c.vote (e.surroundings store) (e.populate store s).2 r).accepts = true) := by
  have unasked : s.decisions.lookup? ⟨op, r.scope⟩ = none := by
    rw [new]
    rfl
  have resolved := e.resolved_populate store s
  rw [e.evaluate_of_unasked store unasked]
  have verdict : Vote.verdict (e.votes store (e.populate store s).2 op r) = .accept ↔ _ :=
    plain.verdict_eq_accept_iff own
  rw [isAdmin_populate (by rw [new]; rfl), resolved.requester] at verdict
  refine verdict.trans (and_congr_left fun _ => ?_)
  simp only [Session.mayDealWith_congr resolved.requester resolved.program]

end Engine

end WorldAccess
