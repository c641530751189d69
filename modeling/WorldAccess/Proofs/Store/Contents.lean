import WorldAccess.Proofs.Engine.Backing
import WorldAccess.Proofs.World.Steps

/-!
# What a container is said to contain

Containers are free: an entity may lie in an entity of another site, or in nothing. Asked what lies
in a container, the store looks through the container's own site only. So the answer is the part of
the full list that belongs to this site, and it is the full list exactly when nothing from elsewhere
lies in the container.

## Main definitions

* `Store.everythingIn` — all that lies in a container
* `Store.ListsContents` — what a list of contents has to be

## Main results

* `Store.listsContents_everythingIn` — what lies in a container can be listed
* `Store.contents_eq` — the answer is a part of this list
* `World.listsContents_iff` — when it is the whole
* `World.visitor_unlisted` — an entity in a container of another site is not listed
-/

namespace WorldAccess

open Std

namespace Store

variable {s : Store} {container : EntityId} {ids : List EntityId}

/-- What a list of contents has to be: the ids of all stored entities whose container it is, of
whatever site, in strictly increasing order. -/
structure ListsContents (s : Store) (container : EntityId) (ids : List EntityId) : Prop where
  increasing : ids.Pairwise (compare · · = .lt)
  mem_iff : ∀ id, id ∈ ids ↔ ∃ e, s.entity? id = some e ∧ e.container = container

/-- The ids of all that lies in a container, in their order. -/
def everythingIn (s : Store) (container : EntityId) : List EntityId :=
  (s.live.toList.filter fun c => c.2.entity.container == container).map Prod.fst

theorem listsContents_everythingIn (s : Store) (container : EntityId) :
    s.ListsContents container (s.everythingIn container) where
  increasing := List.pairwise_map.mpr (List.Pairwise.filter _ s.live.ordered_keys_toList)
  mem_iff id := by
    simp only [everythingIn, entity?, List.mem_map, List.mem_filter, Prod.exists,
      ExtTreeMap.mem_toList_iff_getElem?_eq_some, Option.map_eq_some_iff, beq_iff_eq]
    constructor
    · rintro ⟨id, c, ⟨live, lies⟩, rfl⟩
      exact ⟨c.entity, ⟨c, live, rfl⟩, lies⟩
    · rintro ⟨_, ⟨c, live, rfl⟩, lies⟩
      exact ⟨id, c, ⟨live, lies⟩, rfl⟩

/-- The answer is what of all contents belongs to the container's own site. -/
theorem contents_eq (wf : s.WellFormed) (container : EntityId) :
    s.contents container = (s.everythingIn container).filter (·.site == container.site) := by
  -- the ids are read off the entities, and each entity has the id that it is stored under
  have own : ∀ c ∈ s.live.toList, c.2.entity.id = c.1 := fun c among =>
    wf.own c.1 c.2 (ExtTreeMap.mem_toList_iff_getElem?_eq_some.mp among)
  let lies (c : EntityId × Stored) : Bool := c.2.entity.container == container
  let here (c : EntityId × Stored) : Bool := c.1.site == container.site
  calc s.contents container
    _ = ((s.live.toList.filter here).filter lies).map (fun c => c.2.entity.id) := by
      rw [contents, inSite, List.filter_map, List.map_map]
      rfl
    _ = ((s.live.toList.filter here).filter lies).map Prod.fst := by
      refine List.map_congr_left fun c among => own c ?_
      exact (List.mem_filter.mp (List.mem_filter.mp among).1).1
    _ = ((s.live.toList.filter lies).filter here).map Prod.fst := by
      simp only [List.filter_filter, Bool.and_comm]
    _ = (s.everythingIn container).filter (·.site == container.site) := by
      rw [everythingIn, List.filter_map]
      rfl

end Store

namespace World

variable {w : World}

/-- In every reachable world, what lies in a container can be listed in full. The answer of the
store is that list without the ids of other sites. So it is the full list exactly when nothing of
another site lies in the container. -/
theorem listsContents_iff (reachable : w.Reachable) (container : EntityId) :
    let all := w.store.everythingIn container
    w.store.ListsContents container all ∧
      w.store.contents container = all.filter (·.site == container.site) ∧
      (w.store.ListsContents container (w.store.contents container) ↔
        ∀ id ∈ all, id.site = container.site) := by
  intro all
  have full : w.store.ListsContents container all := w.store.listsContents_everythingIn container
  have answer : w.store.contents container = all.filter (·.site == container.site) :=
    Store.contents_eq reachable.wellFormed container
  refine ⟨full, answer, fun complete id among => ?_, fun native => ?_⟩
  · -- whatever is in the full list is in the answer, and so passes its filter
    have listed := (complete.mem_iff id).mpr ((full.mem_iff id).mp among)
    rw [answer, List.mem_filter, beq_iff_eq] at listed
    exact listed.2
  · rwa [answer, List.filter_eq_self.mpr fun id among => beq_iff_eq.mpr (native id among)]

/-- A run in which a rock and a lamp of another site come to lie in a hall, and a wick of that site
in the lamp. -/
def visitorRun : List Command :=
  [.registerSite 2 "main", .registerSite 3 "annex", .create .epoch 2 .room "hall" .none,
    .create .epoch 2 .thing "rock" .none, .create .epoch 3 .thing "lamp" .none,
    .create .epoch 3 .thing "wick" .none,
    .edit .epoch ⟨⟨2, 2⟩, 1⟩ [.edit (.setContainer ⟨2, 1⟩)],
    .edit .epoch ⟨⟨3, 1⟩, 2⟩ [.edit (.setContainer ⟨2, 1⟩)],
    .edit .epoch ⟨⟨3, 2⟩, 3⟩ [.edit (.setContainer ⟨3, 1⟩)]]

theorem listsContents_iff_visitorRun :
    let s := ((start true {} []).run visitorRun).store
    s.contents ⟨3, 1⟩ = [⟨3, 2⟩] ∧ s.ListsContents ⟨3, 1⟩ (s.contents ⟨3, 1⟩) := by
  have reachable : ((start true {} []).run visitorRun).Reachable := ⟨true, {}, [], visitorRun, rfl⟩
  exact ⟨by decide +kernel, (listsContents_iff reachable ⟨3, 1⟩).2.2.mpr (by decide +kernel)⟩

/-- The lamp lies in the hall, but the hall is not said to contain it. -/
theorem visitor_unlisted :
    let w := (start true {} []).run visitorRun
    w.Reachable ∧ (w.store.entity? ⟨3, 1⟩).map (·.container) = some ⟨2, 1⟩ ∧
      w.store.contents ⟨2, 1⟩ = [⟨2, 2⟩] ∧
      ¬ w.store.ListsContents ⟨2, 1⟩ (w.store.contents ⟨2, 1⟩) := by
  intro w
  have lies : (w.store.entity? ⟨3, 1⟩).map (·.container) = some ⟨2, 1⟩ := by decide +kernel
  have answer : w.store.contents ⟨2, 1⟩ = [⟨2, 2⟩] := by decide +kernel
  refine ⟨⟨true, {}, [], visitorRun, rfl⟩, lies, answer, fun complete => ?_⟩
  have listed := (complete.mem_iff ⟨3, 1⟩).mpr (Option.map_eq_some_iff.mp lies)
  rw [answer] at listed
  revert listed
  decide

end World

end WorldAccess
