import Mathlib.Data.List.Nodup
import Mathlib.Data.List.Perm.Subperm
import Mathlib.Data.Nat.Find
import Mathlib.Logic.Function.Iterate
import Mathlib.Logic.Relation
import WorldAccess.Engine.Locality

/-!
# Which regions enclose what

A region encloses whatever lies in it, directly or through other regions. The walk that decides so
goes up a bounded number of containers, because containers may form a ring. Here the walk is
compared with the chain of containers itself: it finds a region exactly when that is the container
of some order within the bound and all containers before it are regions. A chain that reaches a
region for the first time meets no region twice, so a bound that is not below the number of stored
regions loses nothing.

## Main definitions

* `Store.isRegion`, `Store.regions` — the regions that are stored
* `Store.Climbs` — the container of an order, reached through regions
* `Store.Rises` — one step up, from something stored to the region it lies in

## Main results

* `Store.walk_eq_true_iff` — the walk is a bounded climb
* `Store.transGen_rises_iff` — what can be reached step by step is what can be climbed to
* `Store.Climbs.length_le` — the first climb is no longer than the list of regions
* `Store.encloses_iff` — the bounded and the unbounded reading of the walk
-/

namespace WorldAccess.Store

open Std

variable {s : Store} {region start id : EntityId} {k depth : Nat}

/-- Whether a region is stored under an id. -/
def isRegion (s : Store) (id : EntityId) : Bool := (s.get? id).any (·.kind.isRegion)

/-- The ids under which regions are stored, in their order. -/
def regions (s : Store) : List EntityId := s.live.keys.filter s.isRegion

/-- The container of order `k` is the region: what the climb begins with is stored, and the
containers before the last one are regions. -/
structure Climbs (s : Store) (start : EntityId) (k : Nat) (region : EntityId) : Prop where
  arrives : s.containerOf^[k] start = region
  stored : (s.get? start).isSome = true
  through : ∀ i, 0 < i → i < k → s.isRegion (s.containerOf^[i] start) = true

/-- One step up: from something that is stored to its container, which is a region. -/
def Rises (s : Store) (id container : EntityId) : Prop :=
  (s.get? id).isSome = true ∧ s.containerOf id = container ∧ s.isRegion container = true

theorem isSome_of_isRegion (h : s.isRegion id = true) : (s.get? id).isSome = true := by
  obtain ⟨e, stored, _⟩ := (Option.any_eq_true _ _).mp h
  rw [stored]
  rfl

theorem isValid_of_isRegion (h : s.isRegion id = true) : id.isValid = true := by
  obtain ⟨e, stored, _⟩ := (Option.any_eq_true _ _).mp h
  by_contra invalid
  simp [get?, invalid] at stored

theorem mem_regions : id ∈ s.regions ↔ s.isRegion id = true := by
  refine List.mem_filter.trans ⟨And.right, fun h => ⟨?_, h⟩⟩
  have stored := isSome_of_isRegion h
  rw [get?, if_pos (isValid_of_isRegion h), entity?, Option.isSome_map] at stored
  rwa [ExtTreeMap.mem_keys, ← ExtTreeMap.isSome_getElem?_iff_mem]

/-! ### Climbing -/

theorem climbs_one_iff :
    s.Climbs start 1 region ↔
      (s.get? start).isSome = true ∧ s.containerOf start = region := by
  refine ⟨fun h => ⟨h.stored, h.arrives⟩, fun ⟨stored, arrives⟩ => ⟨arrives, stored, ?_⟩⟩
  intro i positive below
  omega

/-- A longer climb begins with one step up. -/
theorem climbs_succ_iff (positive : 0 < k) :
    s.Climbs start (k + 1) region ↔
      s.Rises start (s.containerOf start) ∧ s.Climbs (s.containerOf start) k region := by
  constructor
  · intro h
    have first := h.through 1 Nat.one_pos (by omega)
    refine ⟨⟨h.stored, rfl, first⟩, h.arrives, isSome_of_isRegion first, fun i _ below => ?_⟩
    exact h.through (i + 1) (Nat.succ_pos i) (Nat.succ_lt_succ below)
  · rintro ⟨⟨stored, _, first⟩, rest⟩
    refine ⟨rest.arrives, stored, fun i here below => ?_⟩
    obtain ⟨i, rfl⟩ := Nat.exists_eq_add_one.mpr here
    rcases Nat.eq_zero_or_pos i with rfl | later
    · exact first
    · exact rest.through i later (by omega)

/-- One more step of the walk. -/
theorem walk_succ (valid : region.isValid = true) :
    s.walk region (depth + 1) start = true ↔
      (s.get? start).isSome = true ∧ (s.containerOf start = region ∨
        s.isRegion (s.containerOf start) = true ∧
          s.walk region depth (s.containerOf start) = true) := by
  cases found : s.get? start with
  | none => simp [walk, found]
  | some e =>
    have container : s.containerOf start = e.container := by simp [containerOf, found]
    rw [container]
    by_cases here : e.container = region
    · simp [walk, found, here, valid]
    · by_cases inside : s.isRegion e.container = true
      · have named := isValid_of_isRegion inside
        obtain ⟨parent, stored, kind⟩ := (Option.any_eq_true _ _).mp inside
        simp [walk, found, here, inside, named, stored, kind]
      · have outside : (s.get? e.container).any (·.kind.isRegion) = false := by
          simpa [isRegion] using inside
        cases stored : s.get? e.container with
        | none => simp [walk, found, here, inside, stored]
        | some parent =>
          rw [stored, Option.any_some] at outside
          simp [walk, found, here, inside, stored, outside]

/-- The walk finds a region exactly when it is climbed to within the bound. -/
theorem walk_eq_true_iff (valid : region.isValid = true) :
    s.walk region depth start = true ↔ ∃ k, 1 ≤ k ∧ k ≤ depth ∧ s.Climbs start k region := by
  -- the walk and the climb both begin with a step up, from where the bound is one less
  induction depth generalizing start with
  | zero =>
    refine ⟨fun h => by simp [walk] at h, ?_⟩
    rintro ⟨k, positive, bounded, _⟩
    omega
  | succ depth ih =>
    rw [walk_succ valid, ih]
    constructor
    · rintro ⟨stored, here | ⟨inside, k, positive, bounded, rest⟩⟩
      · exact ⟨1, le_rfl, Nat.succ_pos depth, climbs_one_iff.mpr ⟨stored, here⟩⟩
      · refine ⟨k + 1, Nat.succ_pos k, Nat.succ_le_succ bounded, ?_⟩
        exact (climbs_succ_iff positive).mpr ⟨⟨stored, rfl, inside⟩, rest⟩
    · rintro ⟨k, positive, bounded, climbs⟩
      obtain ⟨k, rfl⟩ := Nat.exists_eq_add_one.mpr positive
      refine ⟨climbs.stored, ?_⟩
      rcases Nat.eq_zero_or_pos k with rfl | later
      · exact Or.inl (climbs_one_iff.mp climbs).2
      · obtain ⟨⟨_, _, inside⟩, rest⟩ := (climbs_succ_iff later).mp climbs
        exact Or.inr ⟨inside, k, later, Nat.succ_le_succ_iff.mp bounded, rest⟩

/-- What encloses is what is climbed to within the bound: the check of the first id is the walk's
own. -/
theorem encloses_eq_true_iff (valid : region.isValid = true) :
    s.encloses depth region start = true ↔
      ∃ k, 1 ≤ k ∧ k ≤ depth ∧ s.Climbs start k region := by
  rw [encloses, Bool.and_eq_true, walk_eq_true_iff valid]
  refine ⟨And.right, fun h => ⟨?_, h⟩⟩
  obtain ⟨_, _, _, climbs⟩ := h
  by_contra invalid
  simpa [get?, invalid] using climbs.stored

/-! ### Without a bound -/

/-- A region is reached step by step exactly when it is climbed to. -/
theorem transGen_rises_iff (isRegion : s.isRegion region = true) :
    Relation.TransGen s.Rises start region ↔ ∃ k, 1 ≤ k ∧ s.Climbs start k region := by
  -- both directions take the first step off, where the climb is one shorter
  constructor
  · intro reached
    induction reached using Relation.TransGen.head_induction_on with
    | single step =>
      obtain ⟨stored, arrives, _⟩ := step
      exact ⟨1, le_rfl, climbs_one_iff.mpr ⟨stored, arrives⟩⟩
    | head step _ ih =>
      obtain ⟨k, positive, climbs⟩ := ih
      obtain ⟨stored, rfl, inside⟩ := step
      have climbs := (climbs_succ_iff positive).mpr ⟨⟨stored, rfl, inside⟩, climbs⟩
      exact ⟨k + 1, Nat.succ_pos k, climbs⟩
  · rintro ⟨k, positive, climbs⟩
    induction k, positive using Nat.le_induction generalizing start with
    | base =>
      obtain ⟨stored, arrives⟩ := climbs_one_iff.mp climbs
      exact .single ⟨stored, arrives, isRegion⟩
    | succ k positive ih =>
      obtain ⟨step, rest⟩ := (climbs_succ_iff positive).mp climbs
      exact .head step (ih rest)

/-- A climb that comes by the same container twice can be made shorter. -/
theorem Climbs.shorten (h : s.Climbs start k region) {i j : Nat} (before : i < j) (within : j ≤ k)
    (same : s.containerOf^[i] start = s.containerOf^[j] start) :
    s.Climbs start (k - (j - i)) region := by
  refine ⟨?_, h.stored, fun n positive below => h.through n positive (by omega)⟩
  calc s.containerOf^[k - (j - i)] start
    _ = s.containerOf^[k - j] (s.containerOf^[i] start) := by
      rw [← Function.iterate_add_apply]
      congr 2
      omega
    _ = s.containerOf^[k - j] (s.containerOf^[j] start) := by rw [same]
    _ = region := by
      rw [← Function.iterate_add_apply, Nat.sub_add_cancel within]
      exact h.arrives

/-- The first climb to a region comes by each region at most once, so it is no longer than the list
of them. -/
theorem Climbs.length_le (h : s.Climbs start k region) (isRegion : s.isRegion region = true)
    (first : ∀ n, 1 ≤ n → n < k → ¬ s.Climbs start n region) : k ≤ s.regions.length := by
  -- the containers that are passed are distinct regions, so there are not more of them than regions
  let passed := (List.range k).map fun i => s.containerOf^[i + 1] start
  have distinct : passed.Nodup := by
    refine List.Nodup.map_on (fun i hi j hj same => ?_) List.nodup_range
    rw [List.mem_range] at hi hj
    by_contra different
    rcases Nat.lt_or_gt_of_ne different with before | before
    · exact first _ (by omega) (by omega) (h.shorten (Nat.succ_lt_succ before) hj same)
    · exact first _ (by omega) (by omega) (h.shorten (Nat.succ_lt_succ before) hi same.symm)
  have stored : passed ⊆ s.regions := by
    intro id among
    obtain ⟨i, hi, rfl⟩ := List.mem_map.mp among
    rw [List.mem_range] at hi
    rw [mem_regions]
    rcases Nat.lt_or_eq_of_le (Nat.succ_le_of_lt hi) with below | last
    · exact h.through (i + 1) (Nat.succ_pos i) below
    · subst last
      rw [h.arrives]
      exact isRegion
  calc k
    _ = passed.length := by simp [passed]
    _ ≤ s.regions.length := (distinct.subperm stored).length_le

/-- A stored region encloses something within a bound exactly when it is its container of some order
within the bound, and the containers before it are stored regions. So a greater bound loses nothing,
and a bound that is not below the number of stored regions is none: then the region encloses what it
can be reached from through regions, also where containers form a ring. -/
theorem encloses_iff (isRegion : s.isRegion region = true) :
    (∀ depth, s.encloses depth region start = true ↔
        ∃ k, 1 ≤ k ∧ k ≤ depth ∧ s.Climbs start k region) ∧
      (∀ depth more, depth ≤ more → s.encloses depth region start = true →
        s.encloses more region start = true) ∧
      (∀ depth, s.regions.length ≤ depth →
        (s.encloses depth region start = true ↔ Relation.TransGen s.Rises start region)) := by
  have bounded (depth : Nat) : s.encloses depth region start = true ↔
      ∃ k, 1 ≤ k ∧ k ≤ depth ∧ s.Climbs start k region :=
    encloses_eq_true_iff (isValid_of_isRegion isRegion)
  refine ⟨bounded, fun depth more deeper => ?_, fun depth enough => ?_⟩
  · rw [bounded, bounded]
    rintro ⟨k, positive, within, climbs⟩
    exact ⟨k, positive, Nat.le_trans within deeper, climbs⟩
  · rw [bounded, transGen_rises_iff isRegion]
    refine ⟨fun ⟨k, positive, _, climbs⟩ => ⟨k, positive, climbs⟩, fun reached => ?_⟩
    -- of all climbs the first is short enough
    classical
    obtain ⟨positive, climbs⟩ := Nat.find_spec reached
    have first : ∀ n, 1 ≤ n → n < Nat.find reached → ¬ s.Climbs start n region :=
      fun n here before climbs => Nat.find_min reached before ⟨here, climbs⟩
    exact ⟨_, positive, Nat.le_trans (climbs.length_le isRegion first) enough, climbs⟩

/-- A room in a region that forms a ring with another one, and a region by itself. -/
def ringStore : Store :=
  let placed (number : UInt64) (kind : Kind) (container : EntityId) : Entity :=
    { Entity.fresh .epoch ⟨2, number⟩ kind "place" .none with container }
  let s := (Store.empty.registerSite 2 "main").store
  let s := (s.insert (placed 1 .region ⟨2, 2⟩)).store
  let s := (s.insert (placed 2 .region ⟨2, 1⟩)).store
  let s := (s.insert (placed 3 .room ⟨2, 1⟩)).store
  (s.insert (placed 4 .region .none)).store

theorem encloses_iff_ringStore :
    ringStore.isRegion ⟨2, 2⟩ = true ∧ ringStore.isRegion ⟨2, 4⟩ = true ∧
      ringStore.encloses 1 ⟨2, 2⟩ ⟨2, 3⟩ = false ∧
      Relation.TransGen ringStore.Rises ⟨2, 3⟩ ⟨2, 2⟩ ∧
      ¬ Relation.TransGen ringStore.Rises ⟨2, 3⟩ ⟨2, 4⟩ := by
  have ring : ringStore.isRegion ⟨2, 2⟩ = true := by decide +kernel
  have alone : ringStore.isRegion ⟨2, 4⟩ = true := by decide +kernel
  have three : ringStore.regions.length ≤ 3 := by decide +kernel
  refine ⟨ring, alone, by decide +kernel, ?_, ?_⟩
  · exact ((encloses_iff ring).2.2 3 three).mp (by decide +kernel)
  · intro reached
    have found := ((encloses_iff alone).2.2 3 three).mpr reached
    revert found
    decide +kernel

end WorldAccess.Store
