import WorldAccess.Proofs.Engine.Backing
import WorldAccess.Proofs.Text.Folding
import WorldAccess.Proofs.World.Steps

/-!
# Looking a name up in small letters

Names are compared in their folded form, so that the way they are written does not matter. Folding
composes a name first and lower-cases it then. But a capital and a mark that no single character
stands for may have a small letter that does compose with the mark: the folded name is not composed,
and the same name in small letters is folded to another text. A name is found by its small letters
exactly if its folded form is composed.

## Main definitions

* `World.namedRun` — two entities with a mark in their names

## Main results

* `World.mem_find_lower_iff` — when an entity is found by its name in small letters
* `World.macronBelow_unfound` — a name that is not found so
-/

namespace WorldAccess

namespace Store

variable {s : Store} {id : EntityId} {e : Entity}

/-- A search by name in an entity's own site finds it if the name hits. -/
theorem mem_find_of_entity? (wf : s.WellFormed) (stored : s.entity? id = some e)
    (current : e.deleted = false) {name : String} (named : Text.fold name ≠ []) (exact : Bool) :
    id ∈ s.find id.site none name exact ↔ nameHit (Text.fold name) exact e = true := by
  have visible : (Text.fold name).isEmpty = false := by simpa using named
  simp only [find, visible, Bool.false_eq_true, if_false, List.mem_map, List.mem_filter, mem_inSite,
    Option.all_none, Bool.true_and, Bool.and_eq_true, Bool.not_eq_true']
  constructor
  · rintro ⟨found, ⟨⟨other, held, _⟩, hit, _⟩, same⟩
    obtain rfl : other = id := (wf.id_of_entity? held).symm.trans same
    obtain rfl := Option.some_inj.mp (held.symm.trans stored)
    exact hit
  · intro hit
    exact ⟨e, ⟨⟨id, stored, rfl⟩, hit, current⟩, wf.id_of_entity? stored⟩

/-- A folded name is hit by its composed form just if the two are the same. -/
theorem nameHit_compose (e : Entity) (exact : Bool) :
    nameHit (Text.compose (Text.fold e.name)) exact e = true ↔
      Text.compose (Text.fold e.name) = Text.fold e.name := by
  rw [nameHit]
  cases exact with
  | true =>
    rw [if_pos rfl, beq_iff_eq]
    exact eq_comm
  | false =>
    rw [if_neg Bool.false_ne_true, List.isPrefixOf_iff_prefix]
    exact ⟨Text.compose_eq_of_isPrefix, fun same => ⟨[], by rw [same, List.append_nil]⟩⟩

end Store

namespace World

variable {w : World} {id : EntityId} {e : Entity}

/-- In small letters, the name of an entity is folded to the composed form of its folded name. The
entity is found so exactly if its folded name is composed. -/
theorem mem_find_lower_iff (reachable : w.Reachable) (stored : w.store.entity? id = some e)
    (current : e.deleted = false) (named : Text.trim e.name.toList ≠ []) (exact : Bool) :
    let lowered := String.ofList (Text.lower e.name.toList)
    Text.fold lowered = Text.compose (Text.fold e.name) ∧
      (id ∈ w.store.find id.site none lowered exact ↔
        Text.compose (Text.fold e.name) = Text.fold e.name) := by
  intro lowered
  have folded : Text.fold lowered = Text.compose (Text.fold e.name) := Text.fold_lower e.name
  have visible : Text.fold lowered ≠ [] := by
    rw [folded]
    exact fun empty => Text.fold_ne_nil named (Text.eq_nil_of_compose empty)
  refine ⟨folded, ?_⟩
  rw [Store.mem_find_of_entity? reachable.wellFormed stored current visible exact, folded]
  exact Store.nameHit_compose e exact

/-- A run that makes an entity with an accent in its name and one with a macron below it. -/
def namedRun : List Command :=
  [.registerSite 2 "main", .create .epoch 2 .thing " CAFE\u0301" .none,
    .create .epoch 2 .thing "H\u0331" .none]

theorem mem_find_lower_iff_namedRun :
    let w := (start true {} []).run namedRun
    ∃ e, w.store.entity? ⟨2, 1⟩ = some e ∧ e.name = " CAFE\u0301" ∧
      ⟨2, 1⟩ ∈ w.store.find 2 none (String.ofList (Text.lower e.name.toList)) true := by
  intro w
  have made : (w.store.entity? ⟨2, 1⟩).map (fun e => (e.name, e.deleted)) =
      some (" CAFE\u0301", false) := by decide +kernel
  obtain ⟨e, stored, seen⟩ := Option.map_eq_some_iff.mp made
  obtain ⟨name_eq, current⟩ := Prod.mk.inj seen
  have named : Text.trim e.name.toList ≠ [] := by
    rw [name_eq]
    decide
  have composed : Text.compose (Text.fold e.name) = Text.fold e.name := by
    rw [name_eq]
    decide +kernel
  have reachable : w.Reachable := ⟨true, {}, [], namedRun, rfl⟩
  have found := (mem_find_lower_iff reachable stored current named true).2.mpr composed
  exact ⟨e, stored, name_eq, found⟩

/-- The entity whose name is a capital with a macron below it is not found by its name in small
letters, neither as a whole nor as a beginning. -/
theorem macronBelow_unfound :
    let w := (start true {} []).run namedRun
    w.Reachable ∧ ∃ e, w.store.entity? ⟨2, 2⟩ = some e ∧ e.name = "H\u0331" ∧ e.deleted = false ∧
      Text.trim e.name.toList ≠ [] ∧
      Text.fold (String.ofList (Text.lower e.name.toList)) ≠ Text.fold e.name ∧
      ∀ exact, w.store.find 2 none (String.ofList (Text.lower e.name.toList)) exact = [] := by
  intro w
  have made : (w.store.entity? ⟨2, 2⟩).map (fun e => (e.name, e.deleted)) =
      some ("H\u0331", false) := by decide +kernel
  obtain ⟨e, stored, seen⟩ := Option.map_eq_some_iff.mp made
  obtain ⟨name_eq, current⟩ := Prod.mk.inj seen
  refine ⟨⟨true, {}, [], namedRun, rfl⟩, e, stored, name_eq, current, ?_⟩
  rw [name_eq]
  decide +kernel

end World

end WorldAccess
