import WorldAccess.Engine.Basic
import WorldAccess.Proofs.Engine.Backing

/-!
# How grant lists change

Two things happen to a grant list: it is filled from the store when it is asked for and empty, and
it is cleared. Here this is said of each operation on the lists and of everything the engine does
with them.

## Main definitions

* `GrantLists.listsAt` — the lists of one site
* `GrantLists.FilledFrom` — some lists that were empty have been resolved
* `GrantLists.ClearedTo` — some lists have been cleared

## Main results

* `GrantLists.kept_groupsFor`, `kept_forgetEntity`, `kept_forgetSite` — each operation, list by list
* `GrantLists.kept_onEvent_of_clears` — an event clears the lists it says it clears
* `Engine.filledFrom_answer`, `Engine.filledFrom_populate` — the engine only fills lists
-/

namespace WorldAccess

open Std

variable {g g' g'' : GrantLists} {store : Store} {site : SiteId} {c : Capability}

namespace GrantLists

/-! ### List by list -/

@[simp] theorem kept_empty (site : SiteId) (c : Capability) :
    ({} : GrantLists).kept site c = [] := by
  simp [kept]

/-- The lists of a site, all empty before it is asked for. -/
def listsAt (g : GrantLists) (site : SiteId) : SiteGrants :=
  g.sites[site]?.getD (Vector.replicate Capability.count [])

theorem kept_eq_listsAt (g : GrantLists) (site : SiteId) (c : Capability) :
    g.kept site c = (g.listsAt site).get c.index := by
  unfold kept listsAt
  cases g.sites[site]? with
  | none => exact (Vector.getElem_replicate c.index.isLt).symm
  | some lists => rfl

theorem groupsFor_eq (g : GrantLists) (store : Store) (site : SiteId) (c : Capability) :
    g.groupsFor store site c =
      if (g.kept site c).isEmpty then
        (⟨g.sites.insert site ((g.listsAt site).set c.index (resolve store site c) c.index.isLt)⟩,
          resolve store site c)
      else (g, g.kept site c) := by
  rw [kept_eq_listsAt]
  rfl

/-- The list that is answered is the one that is kept, or the resolved one if none is. -/
theorem groupsFor_snd (g : GrantLists) (store : Store) (site : SiteId) (c : Capability) :
    (g.groupsFor store site c).2 =
      if (g.kept site c).isEmpty then resolve store site c else g.kept site c := by
  rw [groupsFor_eq]
  split <;> rfl

/-- A list that is put in is kept in its place, and in no other. -/
theorem kept_insert_set (g : GrantLists) (site other : SiteId) (c d : Capability)
    (list : List EntityId) :
    GrantLists.kept ⟨g.sites.insert site ((g.listsAt site).set c.index list c.index.isLt)⟩ other d =
      if other = site ∧ d = c then list else g.kept other d := by
  by_cases here : other = site
  · subst here
    by_cases same : d = c
    · subst same
      simp [kept]
    · -- the other lists of the site stay in their places
      have apart : c.index.val ≠ d.index.val := fun h =>
        same (Capability.index_injective (Fin.ext h.symm))
      rw [kept_eq_listsAt g]
      simp [kept, same, Vector.getElem_set_ne _ _ apart]
      rfl
  · have apart : site ≠ other := fun h => here h.symm
    simp [kept, here, ExtTreeMap.getElem?_insert, apart]

/-- Only the list that is asked for is filled, and it is what is answered. -/
theorem kept_groupsFor (g : GrantLists) (store : Store) (site other : SiteId) (c d : Capability) :
    (g.groupsFor store site c).1.kept other d =
      if other = site ∧ d = c then (g.groupsFor store site c).2 else g.kept other d := by
  rw [groupsFor_snd, groupsFor_eq]
  split
  · exact kept_insert_set g site other c d (resolve store site c)
  · -- the list is kept already, so asking for it changes nothing
    split
    next same => rw [same.1, same.2]
    next => rfl

theorem kept_forgetEntity (g : GrantLists) (id : EntityId) (site : SiteId) (c : Capability) :
    (g.forgetEntity id).1.kept site c =
      if id.site = site ∧ heads id (g.kept site c) then [] else g.kept site c := by
  unfold forgetEntity
  split
  next none =>
    by_cases here : id.site = site
    · subst here
      simp [kept, none]
    · simp [here]
  next lists found =>
    by_cases here : id.site = site
    · subst here
      simp [kept, found]
    · simp [kept, here, ExtTreeMap.getElem?_insert]

theorem kept_forgetSite (g : GrantLists) (gone site : SiteId) (c : Capability) :
    (g.forgetSite gone).1.kept site c = if gone = site then [] else g.kept site c := by
  unfold forgetSite
  by_cases here : gone = site
  · subst here
    simp [kept]
  · simp [kept, here, ExtTreeMap.getElem?_erase]

/-! ### Clearing -/

/-- Lists of which some have been cleared. -/
def ClearedTo (g g' : GrantLists) : Prop :=
  ∀ site c, g'.kept site c = g.kept site c ∨ g'.kept site c = []

theorem ClearedTo.refl (g : GrantLists) : g.ClearedTo g := fun _ _ => Or.inl rfl

theorem ClearedTo.trans (h : g.ClearedTo g') (h' : g'.ClearedTo g'') : g.ClearedTo g'' := by
  intro site c
  rcases h' site c with same | cleared
  · rw [same]
    exact h site c
  · exact Or.inr cleared

theorem clearedTo_forgetEntity (g : GrantLists) (id : EntityId) :
    g.ClearedTo (g.forgetEntity id).1 := by
  intro site c
  rw [kept_forgetEntity]
  split
  · exact Or.inr rfl
  · exact Or.inl rfl

theorem clearedTo_forgetSite (g : GrantLists) (gone : SiteId) :
    g.ClearedTo (g.forgetSite gone).1 := by
  intro site c
  rw [kept_forgetSite]
  split
  · exact Or.inr rfl
  · exact Or.inl rfl

theorem clearedTo_onEvent (g : GrantLists) (event : Event) : g.ClearedTo (g.onEvent event) := by
  cases event with
  | siteDeleted gone => exact clearedTo_forgetSite g gone
  | entityChanged change =>
    simp only [onEvent]
    split
    · exact clearedTo_forgetEntity g change.id
    · exact .refl g

/-- A list is cleared by an event that clears the lists of its head. -/
theorem kept_onEvent_of_clears {head : EntityId} {tail : List EntityId} {event : Event}
    (h : g.kept site c = head :: tail) (here : head.site = site)
    (clears : event.clears head = true) : (g.onEvent event).kept site c = [] := by
  cases event with
  | siteDeleted gone =>
    have same : gone = head.site := by simpa [Event.clears] using clears
    simp [onEvent, kept_forgetSite, same, here]
  | entityChanged change =>
    simp only [Event.clears, Interest.covers, Watch.membership, Bool.and_eq_true, beq_iff_eq]
      at clears
    -- the watch asks for capability entities only, and so does the clearing
    obtain ⟨rfl, ⟨_, kind⟩, _⟩ := clears
    have kind : change.kind = .capability := by simpa using kind
    simp [onEvent, kind, kept_forgetEntity, h, here, heads]

/-! ### Filling -/

/-- Lists of which some that were empty have been resolved. -/
def FilledFrom (store : Store) (g g' : GrantLists) : Prop :=
  ∀ site c, g'.kept site c = g.kept site c ∨
    g.kept site c = [] ∧ g'.kept site c = resolve store site c

theorem FilledFrom.refl (store : Store) (g : GrantLists) : FilledFrom store g g :=
  fun _ _ => Or.inl rfl

theorem FilledFrom.trans (h : FilledFrom store g g') (h' : FilledFrom store g' g'') :
    FilledFrom store g g'' := by
  intro site c
  rcases h' site c with same | ⟨empty, filled⟩
  · rw [same]
    exact h site c
  · -- filled in the second step, so empty before both
    rcases h site c with before | ⟨before, _⟩
    · exact Or.inr ⟨before ▸ empty, filled⟩
    · exact Or.inr ⟨before, filled⟩

theorem filledFrom_groupsFor (g : GrantLists) (store : Store) (site : SiteId) (c : Capability) :
    FilledFrom store g (g.groupsFor store site c).1 := by
  intro other d
  rw [kept_groupsFor]
  split
  next same =>
    obtain ⟨rfl, rfl⟩ := same
    rw [groupsFor_snd]
    split
    next empty => exact Or.inr ⟨List.isEmpty_iff.mp empty, rfl⟩
    next => exact Or.inl rfl
  next => exact Or.inl rfl

end GrantLists

namespace Engine

open GrantLists

theorem filledFrom_heldIn (store : Store) (s : Session) (c : Capability) (sites : List SiteId)
    (g : GrantLists) : FilledFrom store g (heldIn store s c sites g).1 := by
  induction sites generalizing g with
  | nil => exact .refl store g
  | cons site sites ih =>
    have first := filledFrom_groupsFor g store site c
    unfold heldIn
    dsimp only
    split
    · exact first
    · exact first.trans (ih _)

theorem filledFrom_grantAll (store : Store) (sites : List SiteId) (cs : List Capability)
    (g : GrantLists) (s : Session) : FilledFrom store g (grantAll store sites cs g s).1 := by
  induction cs generalizing g s with
  | nil => exact .refl store g
  | cons c cs ih =>
    unfold grantAll
    split
    · exact ih g s
    · exact (filledFrom_heldIn store s c sites g).trans (ih _ _)

theorem filledFrom_populate (e : Engine) (store : Store) (s : Session) :
    FilledFrom store e.grants (e.populate store s).1.grants := by
  unfold populate
  split
  · exact .refl store e.grants
  · exact filledFrom_grantAll store _ _ e.grants _

theorem filledFrom_evaluate (e : Engine) (store : Store) (s : Session) (op : Operation)
    (r : Request) : FilledFrom store e.grants (e.evaluate store s op r).1.grants := by
  unfold evaluate
  dsimp only
  split
  · exact .refl store e.grants
  · exact filledFrom_populate e store s

theorem filledFrom_answer (e : Engine) (store : Store) (s : Session) (op : Operation)
    (r : Option Request) (raising : Bool) :
    FilledFrom store e.grants (e.answer store s op r raising).1.grants := by
  cases r with
  | none => exact .refl store e.grants
  | some r => exact filledFrom_evaluate e store s op r

end Engine

end WorldAccess
