import WorldAccess.Proofs.Engine.Capabilities

/-!
# Stores with the same groups

Standing by a permission record is read from two things in a store, what is a group and who is an
enabled member of what. Capabilities are read from a third besides, which entities back them. Where
two stores agree on these three, the candidates of a session stand alike by every record, sessions
are found to hold the same, and a chain is all that is left to tell the stores apart.

## Main definitions

* `Store.SameGroups` — stores that agree on groups, on their members and on what backs a capability

## Main results

* `Store.SameGroups.permits`, `Store.SameGroups.administers` — standing by a record
* `Store.SameGroups.populate` — the capabilities of a session
* `Store.SameGroups.evaluate` — verdicts are the same where votes are
-/

namespace WorldAccess

/-- Whether two stores agree on what is a group, on who is an enabled member of what, and on which
entities back a capability. -/
structure Store.SameGroups (a b : Store) : Prop where
  isGroup : b.isGroup = a.isGroup
  isMember : b.isMember = a.isMember
  resolve : GrantLists.resolve b = GrantLists.resolve a

theorem Engine.votes_populate (e : Engine) (store : Store) (s : Session) :
    (e.populate store s).1.votes = e.votes := by
  unfold populate
  split <;> rfl

namespace Store.SameGroups

variable {a b : Store}

/-! ### Standing -/

theorem covers (h : a.SameGroups b) : b.covers = a.covers := by
  funext ids candidate
  rw [Store.covers, Store.covers, h.isGroup, h.isMember]

theorem permits (h : a.SameGroups b) : b.permits = a.permits := by
  funext owner p wanted first second rule
  have entitles : b.entitles owner p wanted rule = a.entitles owner p wanted rule := by
    funext candidate
    rw [Store.entitles, Store.entitles, h.covers]
  rw [Store.permits, Store.permits, entitles]

theorem administers (h : a.SameGroups b) : b.administers = a.administers := by
  funext owner p first second
  rw [Store.administers, Store.administers, h.covers]

section

variable {w w' : Surroundings} {s : Session}

theorem sessionPermits (h : w.store.SameGroups w'.store) :
    w'.sessionPermits s = w.sessionPermits s := by
  funext owner p wanted rule
  rw [Surroundings.sessionPermits, Surroundings.sessionPermits, h.permits]

theorem sessionAdministers (h : w.store.SameGroups w'.store) :
    w'.sessionAdministers s = w.sessionAdministers s := by
  funext owner p
  rw [Surroundings.sessionAdministers, Surroundings.sessionAdministers, h.administers]

theorem mayUse (h : w.store.SameGroups w'.store) : w'.mayUse s = w.mayUse s := by
  funext e wanted rule
  rw [Surroundings.mayUse, Surroundings.mayUse, h.sessionPermits]

theorem mayAdminister (h : w.store.SameGroups w'.store) :
    w'.mayAdminister s = w.mayAdminister s := by
  funext e
  rw [Surroundings.mayAdminister, Surroundings.mayAdminister, h.sessionAdministers]

theorem mayAdministerApplication (h : w.store.SameGroups w'.store) :
    w'.mayAdministerApplication s = w.mayAdministerApplication s := by
  funext e name
  rw [Surroundings.mayAdministerApplication, Surroundings.mayAdministerApplication,
    h.sessionAdministers, h.mayAdminister]

end

/-! ### Capabilities -/

theorem groupsFor (h : a.SameGroups b) (g : GrantLists) : g.groupsFor b = g.groupsFor a := by
  funext site c
  rw [GrantLists.groupsFor, GrantLists.groupsFor, h.resolve]

theorem heldIn (h : a.SameGroups b) (s : Session) (c : Capability) (sites : List SiteId)
    (g : GrantLists) : Engine.heldIn b s c sites g = Engine.heldIn a s c sites g := by
  have backed : Engine.isBackedBy b s = Engine.isBackedBy a s := by
    funext group
    rw [Engine.isBackedBy, Engine.isBackedBy, h.isMember]
  -- over both stores the same lists are filled on the way
  induction sites generalizing g with
  | nil => rfl
  | cons site sites ih =>
    rw [Engine.heldIn, Engine.heldIn, h.groupsFor, backed]
    simp only [ih]

theorem grantAll (h : a.SameGroups b) (sites : List SiteId) (cs : List Capability)
    (g : GrantLists) (s : Session) :
    Engine.grantAll b sites cs g s = Engine.grantAll a sites cs g s := by
  induction cs generalizing g s with
  | nil => rfl
  | cons c cs ih =>
    rw [Engine.grantAll, Engine.grantAll]
    simp only [h.heldIn, ih]

/-- A session is found to hold the same, and the same grant lists are filled. -/
theorem populate (h : a.SameGroups b) (e : Engine) (s : Session) :
    e.populate b s = e.populate a s := by
  rw [Engine.populate, Engine.populate]
  simp only [h.grantAll]

/-! ### Verdicts -/

/-- Requests on the same get the same verdict, and leave the same behind, if the chain votes alike
once the capabilities are resolved. -/
theorem evaluate (h : a.SameGroups b) (e : Engine) (s : Session) (op : Operation)
    {r r' : Request} (scope : r'.scope = r.scope)
    (voted : ∀ s', s.Resolved s' → e.votes b s' op r' = e.votes a s' op r) :
    e.evaluate b s op r' = e.evaluate a s op r := by
  have votes : (e.populate a s).1.votes b (e.populate a s).2 op r' =
      (e.populate a s).1.votes a (e.populate a s).2 op r := by
    -- filling lists changes neither the chains nor the settings
    rw [e.votes_populate]
    exact voted _ (e.resolved_populate a s)
  rw [Engine.evaluate, Engine.evaluate, scope, h.populate]
  simp only [votes]

end Store.SameGroups

end WorldAccess
