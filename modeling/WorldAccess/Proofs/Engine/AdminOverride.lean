import WorldAccess.Proofs.Engine.Capabilities

/-!
# How far an admin's word goes

A session that holds the admin capability is allowed what it asks of nothing in particular, and what
it asks of entities in the requester's own site, provided that a program which asks for the requester
may deal with that site. The two leading checkers see to this before any other is heard. As soon as
an entity of the request lies outside the requester's site, the capability counts for nothing: no
checker but the admin's looks for it, and that one has no opinion then.

## Main definitions

* `Session.withoutAdmin` — a session that lacks the admin capability and is otherwise the same
* `Request.LeavesSite` — an entity of the request lies outside a site

## Main results

* `Engine.isAdmin_populate` — a session is marked as an admin's iff it holds the capability
* `Engine.freshVerdict_of_admin` — what an admin is allowed
* `Checker.vote_withoutAdmin` — no checker looks for the capability outside the requester's site
* `Engine.answer_of_admin` — the scope of the capability
-/

namespace WorldAccess

open Std

variable {s : Session} {r : Request} {store : Store}

/-- Whether an entity of a request lies outside a site. -/
def Request.LeavesSite (r : Request) (site : SiteId) : Prop := ∃ x ∈ r.entities, x.id.site ≠ site

/-! ### Holding the capability -/

namespace Session

/-- The same session without the admin capability. -/
def withoutAdmin (s : Session) : Session :=
  { s with isAdmin := false, capabilities := s.capabilities.erase .admin }

theorem has_withoutAdmin {c : Capability} (ne : c ≠ .admin) : s.withoutAdmin.has c = s.has c := by
  have apart : Capability.admin ≠ c := ne.symm
  simp [withoutAdmin, has, apart]

theorem has_grant (c d : Capability) : (s.grant c).has d = (c == d || s.has d) := by
  rw [Bool.eq_iff_iff]
  simp [grant, has]

/-- Granting capabilities marks as an admin's what comes to hold the admin capability. -/
theorem isAdmin_grant (marked : s.isAdmin = s.has .admin) (c : Capability) :
    (s.grant c).isAdmin = (s.grant c).has .admin := by
  rw [has_grant, ← marked, Bool.or_comm]
  rfl

end Session

namespace Engine

variable {e : Engine}

theorem isAdmin_grantAll (sites : List SiteId) (cs : List Capability) (g : GrantLists)
    (marked : s.isAdmin = s.has .admin) :
    (grantAll store sites cs g s).2.isAdmin = (grantAll store sites cs g s).2.has .admin := by
  induction cs generalizing g s with
  | nil => exact marked
  | cons c cs ih =>
    rw [grantAll]
    split
    · exact ih g marked
    · dsimp only
      split
      · exact ih _ (Session.isAdmin_grant marked c)
      · exact ih _ marked

/-- A session whose capabilities have been resolved is marked as an admin's iff it holds the admin
capability. -/
theorem isAdmin_populate (marked : s.isAdmin = s.has .admin) :
    (e.populate store s).2.isAdmin = (e.populate store s).2.has .admin := by
  rw [populate]
  split
  · exact marked
  · refine isAdmin_grantAll _ _ _ ?_
    split
    · exact Session.isAdmin_grant marked .admin
    · exact marked

/-! ### The two leading checkers -/

/-- The two leading checkers vote first in every chain. -/
theorem votes_eq_leading (e : Engine) (store : Store) (s : Session) (op : Operation)
    (r : Request) : ∃ later, e.votes store s op r =
      Checker.crossSiteVote (e.surroundings store) s r :: Checker.adminVote s r :: later :=
  ⟨_, rfl⟩

end Engine

namespace Checker

variable {w : Surroundings}

/-- Nothing lies apart if the requester's site is where everything is, and a program may deal with
it. -/
theorem crossSiteVote_of_home (home : ∀ x ∈ r.entities, x.id.site = s.requester.site)
    (meets : s.program.isValid = true → r.entities ≠ [] →
      sitesMeet w.globalSite s.program.site s.requester.site = true) :
    crossSiteVote w s r = .skip := by
  refine if_neg fun refused => ?_
  obtain ⟨x, asked, apart⟩ := List.any_eq_true.mp refused
  obtain ⟨_, distant⟩ := Bool.and_eq_true_iff.mp apart
  obtain ⟨site, acts, unmet⟩ := List.any_eq_true.mp distant
  rw [home x asked, Bool.not_eq_true'] at unmet
  rcases List.mem_cons.mp acts with rfl | program
  · -- the requester's site meets itself
    simp [sitesMeet] at unmet
  · split at program
    next valid =>
      rw [List.mem_singleton.mp program, meets valid (List.ne_nil_of_mem asked)] at unmet
      cases unmet
    next => cases program

theorem adminVote_of_home (admin : s.isAdmin = true)
    (home : ∀ x ∈ r.entities, x.id.site = s.requester.site) : adminVote s r = .acceptAlways := by
  refine if_pos ?_
  rw [admin, Bool.true_and]
  exact List.all_eq_true.mpr fun x asked => beq_iff_eq.mpr (home x asked)

theorem adminVote_of_leaves (leaves : r.LeavesSite s.requester.site) : adminVote s r = .skip := by
  refine if_neg fun accepted => ?_
  obtain ⟨_, home⟩ := Bool.and_eq_true_iff.mp accepted
  obtain ⟨x, asked, away⟩ := leaves
  exact away (beq_iff_eq.mp (List.all_eq_true.mp home x asked))

theorem maySeeName_withoutAdmin (x : Entity) :
    w.maySeeName s.withoutAdmin x = w.maySeeName s x := by
  rw [Surroundings.maySeeName, Session.has_withoutAdmin (by decide)]
  rfl

theorem mayReadField_withoutAdmin (x : Entity) (f : Field) :
    mayReadField w s.withoutAdmin x f = mayReadField w s x f := by
  cases f
  case name => exact maySeeName_withoutAdmin x
  all_goals rfl

/-- A checker of the program's own votes on what leaves the requester's site as if the session did
not hold the admin capability. -/
theorem vote_withoutAdmin {c : Checker} (own : c.isSupplied = false)
    (leaves : r.LeavesSite s.requester.site) : c.vote w s.withoutAdmin r = c.vote w s r := by
  have has : ∀ c : Capability, c ≠ .admin → s.withoutAdmin.has c = s.has c :=
    fun _ ne => Session.has_withoutAdmin ne
  cases c
  case supplied name opinion => cases own
  case admin =>
    have leaves' : r.LeavesSite s.withoutAdmin.requester.site := leaves
    rw [vote, adminVote_of_leaves leaves', vote, adminVote_of_leaves leaves]
  -- a checker that looks for a capability looks for another one
  case createEntity =>
    cases r with
    | kind k => obtain ⟨_, asked, _⟩ := leaves; cases asked
    | _ => rfl
  case deleteEntity =>
    cases r with
    | target x => exact congrArg (Vote.ofBool <| · && _) (has .builder (by decide))
    | _ => rfl
  case convertIdToName =>
    cases r with
    | target x => exact congrArg Vote.ofBool (maySeeName_withoutAdmin x)
    | _ => rfl
  case getEntityField =>
    cases r with
    | field x f => exact congrArg Vote.ofBool (mayReadField_withoutAdmin x f)
    | _ => rfl
  case sendTextRoom =>
    cases r with
    | target x =>
      rw [vote, sendTextRoomVote, has .sendTextRoomUnrestricted (by decide)]
      rfl
    | _ => rfl
  case sendTextRoomUnrestricted =>
    cases r with
    | global | target => exact congrArg Vote.ofBool (has .sendTextRoomUnrestricted (by decide))
    | _ => rfl
  case sendTextEntity =>
    cases r with
    | global | target => exact congrArg Vote.ofBool (has .sendTextEntity (by decide))
    | _ => rfl
  case characterOnline =>
    cases r with
    | global | target => exact congrArg Vote.ofBool (has .characterOnline (by decide))
    | _ => rfl
  case findCharacterByName =>
    cases r with
    | global | target => exact congrArg Vote.ofBool (has .findByNameAfar (by decide))
    | _ => rfl
  case runAsRequester =>
    cases r with
    | global | target => exact congrArg Vote.ofBool (has .runAsUser (by decide))
    | _ => rfl
  all_goals cases r <;> rfl

end Checker

namespace Engine

variable {e : Engine}

theorem votes_withoutAdmin (own : ∀ extra ∈ e.extras, extra.2.isSupplied = false)
    (leaves : r.LeavesSite s.requester.site) (op : Operation) :
    e.votes store s.withoutAdmin op r = e.votes store s op r := by
  refine List.map_congr_left fun c among => ?_
  rcases isSupplied_or_appended among with builtin | ⟨extra, appended, rfl⟩
  · exact Checker.vote_withoutAdmin builtin leaves
  · exact Checker.vote_withoutAdmin (own extra appended) leaves

/-- The verdict on what leaves the requester's site is what it is without the admin capability. -/
theorem freshVerdict_withoutAdmin (own : ∀ extra ∈ e.extras, extra.2.isSupplied = false)
    (leaves : r.LeavesSite s.requester.site) (op : Operation) :
    e.freshVerdict store (e.populate store s).2.withoutAdmin op r = e.freshVerdict store s op r := by
  have resolved := e.resolved_populate store s
  have alike := e.alike_populate store s
  have populated : (e.populate store s).2.withoutAdmin.populated = true :=
    e.populated_populate store s
  have stateless : ∀ extra ∈ e.extras, extra.2.Stateless :=
    fun extra appended => Checker.stateless_of_own (own extra appended)
  rw [freshVerdict, e.populate_of_populated store _ populated, freshVerdict,
    votes_congr alike stateless (.refl _) rfl (Or.inl rfl), votes_withoutAdmin own]
  rw [resolved.requester]
  exact leaves

/-- An admin is allowed what the requester's site is asked for, or nothing in particular. -/
theorem freshVerdict_of_admin (new : s = s.anew)
    (admin : (e.populate store s).2.has .admin = true)
    (home : ∀ x ∈ r.entities, x.id.site = s.requester.site)
    (meets : s.program.isValid = true → r.entities ≠ [] →
      Checker.sitesMeet e.config.globalSite s.program.site s.requester.site = true)
    (op : Operation) : e.freshVerdict store s op r = .accept := by
  have resolved := e.resolved_populate store s
  have marked : (e.populate store s).2.isAdmin = true := by
    rw [isAdmin_populate (by rw [new]; rfl)]
    exact admin
  -- two checkers vote before all others, and the second settles it
  obtain ⟨later, votes⟩ :=
    (e.populate store s).1.votes_eq_leading store (e.populate store s).2 op r
  rw [freshVerdict, votes, Checker.crossSiteVote_of_home, Checker.adminVote_of_home marked]
  · rfl
  · rw [resolved.requester]
    exact home
  · rw [resolved.requester]
    exact home
  · rw [resolved.requester, resolved.program, surroundings, config_populate]
    exact meets

/-- The scope of the admin capability. When a new session is found to hold it, and callers append no
opinions of their own, the session is allowed what concerns no entity, and what concerns entities of
the requester's site, if a program that asks is of that site, or one of the two sites is global. If
an entity lies outside the requester's site, the answer is what it is without the capability. -/
theorem answer_of_admin (own : ∀ extra ∈ e.extras, extra.2.isSupplied = false)
    (new : s = s.anew) (admin : (e.populate store s).2.has .admin = true) (op : Operation)
    (r : Request) (raising : Bool) :
    (r.entities = [] → (e.answer store s op (some r) raising).2.2 = .ok true) ∧
      (r.entities ≠ [] → (∀ x ∈ r.entities, x.id.site = s.requester.site) →
        (s.program.isValid = true → s.program.site = s.requester.site ∨
          s.program.site = e.config.globalSite ∨ s.requester.site = e.config.globalSite) →
        (e.answer store s op (some r) raising).2.2 = .ok true) ∧
      (r.LeavesSite s.requester.site →
        (e.answer store s op (some r) raising).2.2 =
          (e.answer store (e.populate store s).2.withoutAdmin op (some r) raising).2.2) := by
  have forgotten : s.decisions = .empty := by rw [new]; rfl
  have allowed : e.freshVerdict store s op r = .accept →
      (e.answer store s op (some r) raising).2.2 = .ok true := by
    intro accepted
    rw [e.answer_of_forgotten store s op forgotten, accepted]
    rfl
  refine ⟨fun none => allowed ?_, fun _ home meets => allowed ?_, fun leaves => ?_⟩
  · refine freshVerdict_of_admin new admin (fun x asked => ?_) (fun _ some => absurd none some) op
    rw [none] at asked
    cases asked
  · refine freshVerdict_of_admin new admin home (fun valid _ => ?_) op
    rcases meets valid with same | program | requester
    · simp [Checker.sitesMeet, same]
    · simp [Checker.sitesMeet, program]
    · simp [Checker.sitesMeet, requester]
  · -- the session without the capability remembers as little, and is of the same actors
    have resolved := e.resolved_populate store s
    have forgotten' : (e.populate store s).2.withoutAdmin.decisions = .empty :=
      resolved.decisions.trans forgotten
    rw [e.answer_of_forgotten store s op forgotten,
      e.answer_of_forgotten store _ op forgotten', freshVerdict_withoutAdmin own leaves]
    exact (Session.ruling_congr resolved.requester resolved.program _ raising _).symm

/-- A store with a player who belongs to the capability entity of admins, an exit and a room of the
player's site, and a room of the global one. -/
def keptStore : Store :=
  let s := (Store.empty.registerSite 2 "main").store
  let s := (s.registerSite 1 "global").store
  let s := (s.create .epoch 2 .player "keeper" .none).store
  let s := (s.create .epoch 2 .capability "ADMIN" .none).store
  (s.edit .epoch ⟨⟨2, 2⟩, 1⟩ [.edit (.addMember ⟨2, 1⟩)]).store

/-- A new session of that player. -/
def keeper : Session := .forRequester ⟨2, 1⟩

/-- An engine with a checker appended to transfers that refuses everything for good. -/
def strictEngine : Engine := { extras := [(.transferEntity, .fixed 0 .denyAlways)] }

/-- Moving a box into a room, in the sites of the two. -/
def moveBox (room box : SiteId) : Request :=
  .transfer (.fresh .epoch ⟨room, 7⟩ .room "hall" .none) (.fresh .epoch ⟨box, 8⟩ .entity "box" .none)

theorem answer_of_admin_keeper :
    (strictEngine.answer keptStore keeper .transferEntity (some (.kind .room)) true).2.2 = .ok true ∧
      (strictEngine.answer keptStore keeper .transferEntity (some (moveBox 2 2)) true).2.2 =
        .ok true ∧
      (strictEngine.answer keptStore keeper .transferEntity (some (moveBox 2 1)) true).2.2 =
        (strictEngine.answer keptStore (strictEngine.populate keptStore keeper).2.withoutAdmin
          .transferEntity (some (moveBox 2 1)) true).2.2 := by
  have own : ∀ extra ∈ strictEngine.extras, extra.2.isSupplied = false := by decide
  have admin : (strictEngine.populate keptStore keeper).2.has .admin = true := by decide +kernel
  refine ⟨?_, ?_, ?_⟩
  · exact (answer_of_admin own rfl admin .transferEntity (.kind .room) true).1 rfl
  · refine (answer_of_admin own rfl admin .transferEntity (moveBox 2 2) true).2.1 (by simp [moveBox,
      Request.entities]) (by decide) (by decide)
  · exact (answer_of_admin own rfl admin .transferEntity (moveBox 2 1) true).2.2
      ⟨_, List.mem_cons_of_mem _ List.mem_cons_self, by decide⟩

end Engine

end WorldAccess
