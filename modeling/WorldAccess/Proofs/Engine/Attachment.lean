import WorldAccess.Proofs.Engine.Enclosure

/-!
# Where actions are local

An action has no place of its own. It is where the entity is that it is attached to, its *holder*.
Locality is decided for actions and for everything else by two functions, which look at containers
and ids in a different order. Here everything else comes first: there are five ways in which it can
be local to a source. Then an action is local exactly where its holder is, in whichever of the five
ways that may be. Only an action that is the source or its container is local by itself.

## Main definitions

* `Store.Nearby` — the five ways in which something is local

## Main results

* `Store.isThingLocal_iff`, `Store.isLocal_iff_nearby` — what is no action
* `Store.isActionLocal_eq` — the function for actions beside the one for everything else
* `Store.isLocal_action_eq` — an action and its holder
-/

namespace WorldAccess.Store

variable {s : Store} {depth : Nat} {id : EntityId} {source action holder e : Entity}
  {inventory : Bool}

/-- The ways in which an entity that is no action is local to a source: it is the source, or the
source's container, or in the same container, or carried by the source if that counts, or a region
that the source's container lies in, through no more regions than the bound allows. -/
inductive Nearby (s : Store) (depth : Nat) (source : Entity) (inventory : Bool) (e : Entity) :
    Prop where
  | itself (same : e.id = source.id)
  | room (same : e.id = source.container)
  | beside (valid : source.container.isValid = true) (same : e.container = source.container)
  | carried (counts : inventory = true) (same : e.container = source.id)
  | around (isRegion : e.kind.isRegion = true) (k : Nat) (positive : 1 ≤ k) (within : k ≤ depth)
      (climbs : s.Climbs source.container k e.id)

theorem isValid_of_get? (stored : s.get? id = some e) : id.isValid = true := by
  by_contra invalid
  simp [get?, invalid] at stored

/-- The ways in which something is local that is neither the source nor its container. -/
theorem isThingLocal_iff (valid : e.id.isValid = true) :
    s.isThingLocal depth source e inventory = true ↔
      (source.container.isValid = true ∧ e.container = source.container) ∨
        (inventory = true ∧ e.container = source.id) ∨
        e.kind.isRegion = true ∧
          ∃ k, 1 ≤ k ∧ k ≤ depth ∧ s.Climbs source.container k e.id := by
  simp only [isThingLocal, Bool.or_eq_true, Bool.and_eq_true, beq_iff_eq, or_assoc,
    encloses_eq_true_iff valid]

/-- What is no action is local if it is the source or its container, and otherwise as it is near. -/
theorem isLocal_of_plain (here : s.get? source.id = some source) (stored : s.get? e.id = some e)
    (plain : e.kind.isAction = false) :
    s.isLocal depth source.id e.id inventory =
      if e.id = source.container ∨ e.id = source.id then true
      else s.isThingLocal depth source e inventory := by
  have valid := isValid_of_get? stored
  simp only [isLocal, here, stored, plain]
  by_cases itself : e.id = source.id
  · simp [itself]
  by_cases room : e.id = source.container
  · -- a container counts only if its id is valid, which that of a stored entity is
    rw [room] at valid
    simp [room, valid]
  · simp [itself, room, Ne.symm itself]

/-- What is no action is local in one of the five ways. -/
theorem isLocal_iff_nearby (here : s.get? source.id = some source) (stored : s.get? e.id = some e)
    (plain : e.kind.isAction = false) :
    s.isLocal depth source.id e.id inventory = true ↔ s.Nearby depth source inventory e := by
  rw [isLocal_of_plain here stored plain, ite_eq_left_iff, not_or,
    isThingLocal_iff (isValid_of_get? stored)]
  constructor
  · -- the two answers that come before the others are ways of their own
    intro near
    by_cases room : e.id = source.container
    · exact .room room
    by_cases itself : e.id = source.id
    · exact .itself itself
    rcases near ⟨room, itself⟩ with
      ⟨valid, same⟩ | ⟨counts, same⟩ | ⟨isRegion, k, positive, within, climbs⟩
    · exact .beside valid same
    · exact .carried counts same
    · exact .around isRegion k positive within climbs
  · rintro near ⟨room, itself⟩
    cases near with
    | itself same => exact absurd same itself
    | room same => exact absurd same room
    | beside valid same => exact Or.inl ⟨valid, same⟩
    | carried counts same => exact Or.inr (Or.inl ⟨counts, same⟩)
    | around isRegion k positive within climbs =>
      exact Or.inr (Or.inr ⟨isRegion, k, positive, within, climbs⟩)

/-- An action is local if its holder is the source or its container, and otherwise as the holder is
near. -/
theorem isActionLocal_eq (held : s.get? holder.id = some holder)
    (attached : action.container = holder.id) :
    s.isActionLocal depth source action inventory =
      if holder.id = source.container ∨ holder.id = source.id then true
      else s.isThingLocal depth source holder inventory := by
  simp only [isActionLocal, attached, isValid_of_get? held, held, Bool.not_true,
    Bool.false_eq_true, if_false, Bool.or_eq_true, beq_iff_eq]
  rfl

/-- An action that is neither the source nor its container is local exactly where its holder is: in
the five ways in which the holder can be local, and in no other. -/
theorem isLocal_action_eq (here : s.get? source.id = some source)
    (acts : s.get? action.id = some action) (isAction : action.kind.isAction = true)
    (held : s.get? holder.id = some holder) (attached : action.container = holder.id)
    (plain : holder.kind.isAction = false) (other : action.id ≠ source.id)
    (apart : action.id ≠ source.container) (depth : Nat) (inventory : Bool) :
    s.isLocal depth source.id action.id inventory = s.isLocal depth source.id holder.id inventory ∧
      (s.isLocal depth source.id action.id inventory = true ↔
        s.Nearby depth source inventory holder) := by
  have same := calc s.isLocal depth source.id action.id inventory
    _ = s.isActionLocal depth source action inventory := by
      simp [isLocal, here, acts, isAction, Ne.symm other, apart]
    _ = s.isLocal depth source.id holder.id inventory :=
      (isActionLocal_eq held attached).trans (isLocal_of_plain here held plain).symm
  exact ⟨same, same ▸ isLocal_iff_nearby here held plain⟩

/-- An entity of a kind in a container. -/
def placed (number : UInt64) (kind : Kind) (container : EntityId) : Entity :=
  { Entity.fresh .epoch ⟨2, number⟩ kind "thing" .none with container }

/-- A player in a square with a bag, and actions on the bag and on the outer one of two regions
around the square. -/
def squareStore : Store :=
  let s := (Store.empty.registerSite 2 "main").store
  let s := (s.insert (placed 1 .region .none)).store
  let s := (s.insert (placed 2 .region ⟨2, 1⟩)).store
  let s := (s.insert (placed 3 .room ⟨2, 2⟩)).store
  let s := (s.insert (placed 4 .player ⟨2, 3⟩)).store
  let s := (s.insert (placed 5 .thing ⟨2, 4⟩)).store
  let s := (s.insert (placed 6 .action ⟨2, 5⟩)).store
  (s.insert (placed 7 .command ⟨2, 1⟩)).store

/-- The action on the bag is local where what is carried counts, and that on the region where the
bound allows for two regions. -/
theorem isLocal_action_eq_squareStore :
    (∀ inventory, squareStore.isLocal 8 ⟨2, 4⟩ ⟨2, 6⟩ inventory = inventory) ∧
      squareStore.isLocal 2 ⟨2, 4⟩ ⟨2, 7⟩ false = true ∧
      ¬ squareStore.Nearby 1 (placed 4 .player ⟨2, 3⟩) true (placed 1 .region .none) := by
  let player := placed 4 .player ⟨2, 3⟩
  let bag := placed 5 .thing ⟨2, 4⟩
  let opening := placed 6 .action bag.id
  let region := placed 1 .region .none
  let shouting := placed 7 .command region.id
  have here : squareStore.get? player.id = some player := rfl
  have bagHeld : squareStore.get? bag.id = some bag := rfl
  have bagActs : squareStore.get? opening.id = some opening := rfl
  have regionHeld : squareStore.get? region.id = some region := rfl
  have regionActs : squareStore.get? shouting.id = some shouting := rfl
  have onBag := isLocal_action_eq here bagActs rfl bagHeld rfl rfl (by decide) (by decide)
  have onRegion :=
    isLocal_action_eq here regionActs rfl regionHeld rfl rfl (by decide) (by decide)
  refine ⟨fun inventory => (onBag 8 inventory).1.trans ?_, (onRegion 2 false).1.trans ?_, ?_⟩
  · revert inventory
    decide +kernel
  · decide +kernel
  · rw [← (onRegion 1 true).2]
    decide +kernel

end WorldAccess.Store
