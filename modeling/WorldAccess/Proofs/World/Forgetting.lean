import Mathlib.Data.Set.Card
import WorldAccess.Proofs.World.Freshness
import WorldAccess.Proofs.World.Isolation

/-!
# Lists that an entity heads are forgotten everywhere

When an entity is forgotten, only the lists of its own site are looked through. No list of another
site is missed, because a list is resolved from the entities of its own site: whatever has happened
to the world, the head of a kept list lies in the site that the list is kept for. The count that is
answered is the number of lists that were filled before and are empty afterwards, in all sites
together.

## Main definitions

* `GrantLists.cleared` — the places of the lists that have been cleared

## Main results

* `GrantLists.toList_eq_map_kept` — a site has one list for each capability
* `GrantLists.ncard_cleared_forgetEntity` — the count of cleared lists
* `World.Reachable.kept_forget` — what is kept after an entity is forgotten
* `World.forgetEntity_everywhere` — forgetting an entity, after any run
-/

namespace WorldAccess

open Std GrantLists

/-! ### Capabilities -/

/-- The capabilities are listed in the order of their places. -/
theorem Capability.index_getElem (i : Nat) (h : i < Capability.all.length) :
    (Capability.all[i].index : Nat) = i := by
  have placed : ∀ i : Fin 9, (Capability.all[i].index : Nat) = i := by decide
  exact placed ⟨i, h⟩

theorem Capability.nodup_all : Capability.all.Nodup := by decide

namespace GrantLists

variable {g : GrantLists} {site : SiteId} {lists : SiteGrants}

/-! ### One list for each capability -/

/-- A site that has been asked for has one list for each capability. -/
theorem toList_eq_map_kept (found : g.sites[site]? = some lists) :
    lists.toList = Capability.all.map (g.kept site) := by
  apply List.ext_getElem
  · rw [Vector.length_toList, List.length_map]
    rfl
  · intro i _ inAll
    rw [List.length_map] at inAll
    rw [Vector.getElem_toList, List.getElem_map, kept, found]
    exact getElem_congr_idx (Capability.index_getElem i inAll).symm

/-! ### What is cleared -/

/-- The places of the lists that were filled and have been cleared. -/
def cleared (g g' : GrantLists) : Set (SiteId × Capability) :=
  {place | g.kept place.1 place.2 ≠ [] ∧ g'.kept place.1 place.2 = []}

/-- The lists that are counted are those of the entity's own site which it heads. -/
theorem forgetEntity_snd (g : GrantLists) (id : EntityId) :
    (g.forgetEntity id).2 = Capability.all.countP fun c => heads id (g.kept id.site c) := by
  unfold forgetEntity
  split
  next none =>
    have empty : ∀ c, g.kept id.site c = [] := by
      intro c
      rw [kept, none]
    simp [empty, heads]
  next lists found =>
    rw [toList_eq_map_kept found, List.countP_map]
    rfl

/-- A list is cleared iff it is one of the entity's own site which it heads. -/
theorem mem_cleared_forgetEntity (g : GrantLists) (id : EntityId) (site : SiteId) (c : Capability) :
    (site, c) ∈ g.cleared (g.forgetEntity id).1 ↔
      id.site = site ∧ heads id (g.kept id.site c) = true := by
  rw [cleared, Set.mem_ofPred_eq, kept_forgetEntity]
  constructor
  · rintro ⟨filled, empty⟩
    split at empty
    next hit =>
      obtain ⟨rfl, headed⟩ := hit
      exact ⟨rfl, headed⟩
    next => exact absurd empty filled
  · rintro ⟨rfl, headed⟩
    refine ⟨fun empty => ?_, if_pos ⟨rfl, headed⟩⟩
    rw [empty] at headed
    cases headed

/-- The answer counts the lists that are cleared, in all sites. -/
theorem ncard_cleared_forgetEntity (g : GrantLists) (id : EntityId) :
    (g.cleared (g.forgetEntity id).1).ncard = (g.forgetEntity id).2 := by
  -- the lists that are cleared stand in one site, so they are as many as their capabilities
  have places : g.cleared (g.forgetEntity id).1 =
      Prod.mk id.site '' ((Capability.all.filter fun c => heads id (g.kept id.site c)).toFinset :
        Set Capability) := by
    ext ⟨site, c⟩
    simp [mem_cleared_forgetEntity, Capability.mem_all, and_comm]
  rw [places, Set.ncard_image_of_injective _ (Prod.mk_right_injective id.site),
    Set.ncard_coe_finset, List.toFinset_card_of_nodup (Capability.nodup_all.filter _),
    forgetEntity_snd, List.countP_eq_length_filter]

end GrantLists

namespace World

variable {w : World} {c : Command} {config : Config} {extras : List (Operation × Checker)}
  {withBus : Bool}

/-! ### Runs -/

/-- No command leaves a world without an engine. -/
theorem isSome_settings_perform (h : w.settings.isSome = true) (c : Command) :
    (w.perform c).settings.isSome = true := by
  cases c
  case deliver => exact (settings_deliver w).symm ▸ h
  case shutdownBus => exact (settings_drain w).symm ▸ h
  case startEngine => rfl
  case resetSession | setRunAs =>
    simp only [perform, onSession]
    split <;> exact h
  case check =>
    simp only [perform, check]
    split
    · rfl
    · exact h
  case populate =>
    simp only [perform, populate]
    split
    · rfl
    · exact h
  case groupsFor =>
    simp only [perform, groupsFor]
    split
    · exact h
    · rfl
  case forgetEntity | forgetSite =>
    simp only [perform, forget]
    split
    · exact h
    · rfl
  case shutdownEngine =>
    simp only [perform, shutdownEngine]
    split
    · rfl
    · exact h
  all_goals exact h

theorem Reachable.exists_engine (h : w.Reachable) : ∃ e, w.engine = some e := by
  have settled : w.settings.isSome = true :=
    h.induction (P := fun w => w.settings.isSome = true) (fun _ _ _ => rfl)
      fun _ c h => isSome_settings_perform h c
  rw [settings, Option.isSome_map] at settled
  exact Option.isSome_iff_exists.mp settled

theorem grants_forget {e : Engine} (engine : w.engine = some e) (id : EntityId) :
    (w.perform (.forgetEntity id)).grants = (e.grants.forgetEntity id).1 := by
  simp only [perform, forget, engine]
  rfl

/-- Forgetting an entity clears the lists that it heads, in whatever site they are. -/
theorem Reachable.kept_forget (h : w.Reachable) (id : EntityId) (site : SiteId) (cap : Capability) :
    (w.perform (.forgetEntity id)).kept site cap =
      if (w.kept site cap).head? = some id then [] else w.kept site cap := by
  obtain ⟨e, engine⟩ := h.exists_engine
  have before : w.kept site cap = e.grants.kept site cap := by
    rw [kept, World.grants, engine]
    rfl
  rw [kept, grants_forget engine, kept_forgetEntity, ← before]
  by_cases headed : (w.kept site cap).head? = some id
  · -- the entity lies in the site of the list that it heads, and that site is looked through
    obtain ⟨tail, form⟩ := List.head?_eq_some_iff.mp headed
    rw [if_pos headed, if_pos ⟨h.site_head form, beq_iff_eq.mpr headed⟩]
  · rw [if_neg headed, if_neg fun hit => headed (beq_iff_eq.mp hit.2)]

/-- What forgetting an entity does. Take any run. A site that has been asked for has one list for
each capability, and the head of a list lies in the site of the list. When an entity is forgotten,
the lists that it heads become empty in whatever site they are, every other list stays as it is, and
so no list is headed by the entity any more. The answer is the number of lists that were filled
before and are empty afterwards. -/
theorem forgetEntity_everywhere (commands : List Command) (id : EntityId) :
    let w := (start withBus config extras).run commands
    let w' := w.perform (.forgetEntity id)
    (∀ site lists, w.grants.sites[site]? = some lists →
        lists.toList = Capability.all.map (w.kept site)) ∧
      (∀ site cap head tail, w.kept site cap = head :: tail → head.site = site) ∧
      (∀ site cap, (w.kept site cap).head? = some id → w'.kept site cap = []) ∧
      (∀ site cap, (w.kept site cap).head? ≠ some id → w'.kept site cap = w.kept site cap) ∧
      (∀ site cap, (w'.kept site cap).head? ≠ some id) ∧
      (w.forget (·.forgetEntity id)).2 = some (w.grants.cleared w'.grants).ncard := by
  intro w w'
  have reachable : w.Reachable := ⟨withBus, config, extras, commands, rfl⟩
  -- everything but the count is read off this
  have after : ∀ site cap, w'.kept site cap =
      if (w.kept site cap).head? = some id then [] else w.kept site cap := reachable.kept_forget id
  refine ⟨fun _ _ => toList_eq_map_kept, fun _ _ _ _ => reachable.site_head,
    fun site cap headed => ?_, fun site cap other => ?_, fun site cap headed => ?_, ?_⟩
  · rw [after, if_pos headed]
  · rw [after, if_neg other]
  · rw [after] at headed
    split at headed
    next => cases headed
    next other => exact other headed
  · obtain ⟨e, engine⟩ := reachable.exists_engine
    have before : w.grants = e.grants := by
      rw [World.grants, engine]
      rfl
    rw [before, grants_forget engine, ncard_cleared_forgetEntity, forget, engine]

end World

end WorldAccess
