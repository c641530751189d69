import WorldAccess.Entity.Draft

/-!
# What a draft remembers of its edits

An edit changes an entity in one field and writes that field down. So a draft whose changes have not
been taken away still agrees with the entity it was opened on in every field that is not written
down. The version and the time of the last edit move along with every edit and are left aside. What
an entity is (its id, its kind and the moment of its creation) no edit changes at all, whatever is
taken away in between.

## Main definitions

* `Entity.identity` — the part of an entity that no edit changes
* `Entity.AgreesIn` — two entities agree in a field
* `Field.writtenAs` — the field under which a change is written down
* `Draft.Follows` — one draft comes from another by edits that were all written down

## Main results

* `Draft.identity_run` — no step changes what the entity is
* `Draft.apply_follows`, `Draft.run_follows` — one edit, and steps that take nothing away
-/

namespace WorldAccess

open Std

/-- What no edit changes: the id, the kind and the moment of creation. -/
def Entity.identity (e : Entity) : EntityId × Kind × Timestamp := (e.id, e.kind, e.created)

/-- Whether two entities agree in what a field stands for. The container goes under one field for
actions and under another for everything else; a password is kept nowhere. -/
def Entity.AgreesIn (a b : Entity) : Field → Prop
  | .id => a.id = b.id
  | .type => a.kind = b.kind
  | .version => a.version = b.version
  | .name => a.name = b.name
  | .note => a.note = b.note
  | .security => a.permissions = b.permissions
  | .owner => a.owner = b.owner
  | .flags => a.flags = b.flags
  | .deleted => a.deleted = b.deleted
  | .createdTimestamp => a.created = b.created
  | .updatedTimestamp => a.updated = b.updated
  | .applicationProperties => a.applications = b.applications
  | .containedBy => a.kind.isAction = false → a.container = b.container
  | .home => a.home = b.home
  | .actionContainedBy => a.kind.isAction = true → a.container = b.container
  | .actionTargets => a.action.map (·.targets) = b.action.map (·.targets)
  | .actionLock => a.action.map (·.lock) = b.action.map (·.lock)
  | .actionCommands => a.action.map (·.commands) = b.action.map (·.commands)
  | .actionSuccessMessage => a.action.map (·.successMessage) = b.action.map (·.successMessage)
  | .actionFailMessage => a.action.map (·.failMessage) = b.action.map (·.failMessage)
  | .groupIds => a.group.map (·.members) = b.group.map (·.members)
  | .groupDisabledIds => a.group.map (·.disabled) = b.group.map (·.disabled)
  | .programSourceCode => a.program.map (·.source) = b.program.map (·.source)
  | .programLanguage => a.program.map (·.language) = b.program.map (·.language)
  | .playerDisplayName => a.displayName = b.displayName
  | .password => True

/-- The field under which a change is written down: a program's language goes with its source. -/
def Field.writtenAs : Field → Field
  | .programLanguage => .programSourceCode
  | f => f

/-- Whether a field moves with every edit. -/
def Field.isStamp : Field → Bool
  | .version | .updatedTimestamp => true
  | _ => false

namespace Entity

variable {a b c : Entity} {f : Field}

theorem AgreesIn.refl (a : Entity) (f : Field) : a.AgreesIn a f := by
  cases f <;> simp [AgreesIn]

theorem AgreesIn.trans (kinds : a.kind = b.kind) (h : a.AgreesIn b f) (h' : b.AgreesIn c f) :
    a.AgreesIn c f := by
  cases f
  case containedBy => exact fun k => (h k).trans (h' (kinds ▸ k))
  case actionContainedBy => exact fun k => (h k).trans (h' (kinds ▸ k))
  case password => trivial
  all_goals exact Eq.trans h h'

/-- The members and the disabled ids are the whole of a group's roster. -/
theorem group_eq_of_agreesIn (members : a.AgreesIn b .groupIds)
    (disabled : a.AgreesIn b .groupDisabledIds) : a.group = b.group := by
  simp only [AgreesIn] at members disabled
  cases ha : a.group with
  | none => rw [ha] at members; exact (Option.map_eq_none_iff.mp members.symm).symm
  | some r =>
    cases hb : b.group with
    | none => simp [ha, hb] at members
    | some r' =>
      obtain ⟨m, d⟩ := r
      obtain ⟨m', d'⟩ := r'
      simp_all

end Entity

namespace Draft

variable {d d' d'' : Draft} {now : Timestamp} {field : Field} {e : Entity}

/-! ### What an entity is -/

/-- No edit changes what an entity is. -/
theorem identity_apply (d : Draft) (now : Timestamp) (edit : Edit) :
    (d.apply now edit).1.entity.identity = d.entity.identity := by
  cases edit <;> simp only [apply, editPermissions, editRoster, editAction]
  case addFlag => split <;> rfl
  case removeFlag => split <;> rfl
  case changeApplication => split <;> rfl
  case setProperty => split <;> rfl
  case removeApplication => split <;> rfl
  case addMember => split <;> rfl
  case removeMember => split <;> rfl
  case setMemberDisabled => split <;> rfl
  case setLock => split <;> rfl
  case setTargets => split <;> rfl
  case setCommands => split <;> rfl
  case setScript => split <;> rfl
  all_goals rfl

theorem identity_step (d : Draft) (now : Timestamp) (s : Step) :
    (d.step now s).1.entity.identity = d.entity.identity := by
  cases s with
  | edit edit => exact identity_apply d now edit
  | hasChanges => rfl
  | takeChanges => rfl
  | version => rfl

/-- No step changes what an entity is. -/
theorem identity_run (d : Draft) (now : Timestamp) (steps : List Step) :
    (d.run now steps).1.entity.identity = d.entity.identity := by
  induction steps generalizing d with
  | nil => rfl
  | cons s rest ih => exact (ih (d.step now s).1).trans (identity_step d now s)

/-! ### What is written down -/

/-- The second draft comes from the first by edits that were all written down: nothing written down
is lost, and what is not written down is as it was. -/
structure Follows (d d' : Draft) : Prop where
  identity : d'.entity.identity = d.entity.identity
  changes : ∀ f ∈ d.changes, f ∈ d'.changes
  agrees : ∀ f : Field, f.isStamp = false → f.writtenAs ∉ d'.changes → d.entity.AgreesIn d'.entity f

theorem Follows.refl (d : Draft) : d.Follows d :=
  ⟨rfl, fun _ h => h, fun f _ _ => .refl d.entity f⟩

theorem Follows.trans (h : d.Follows d') (h' : d'.Follows d'') : d.Follows d'' where
  identity := h'.identity.trans h.identity
  changes f hf := h'.changes f (h.changes f hf)
  agrees f stamp hf := by
    have kinds : d.entity.kind = d'.entity.kind := congrArg (·.2.1) h.identity.symm
    have before : f.writtenAs ∉ d'.changes := fun m => hf (h'.changes _ m)
    exact (h.agrees f stamp before).trans kinds (h'.agrees f stamp hf)

/-- Writing a field follows, if nothing changes that goes under another field. -/
theorem follows_touch (identity : e.identity = d.entity.identity)
    (same : ∀ f : Field, f.writtenAs ≠ field → d.entity.AgreesIn e f) :
    d.Follows (d.touch now field e) where
  identity := identity
  changes f hf := by simp [touch, hf]
  agrees f stamp hf := by
    have other : f.writtenAs ≠ field := fun h => hf (by simp [touch, h])
    have agree := same f other
    -- the stamps are the only fields in which the touched entity differs from `e`
    cases f <;> first | exact agree | cases stamp

/-- An edit of a roster follows, if it leaves alone what goes under another field. -/
theorem follows_editRoster {edit : Roster → Option Roster}
    (members : ∀ r r', edit r = some r' → field ≠ .groupIds → r'.members = r.members)
    (disabled : ∀ r r', edit r = some r' → field ≠ .groupDisabledIds → r'.disabled = r.disabled) :
    d.Follows (d.editRoster now field edit).1 := by
  unfold editRoster
  split
  next r hr =>
    obtain ⟨old, hold, hnew⟩ := Option.bind_eq_some_iff.mp hr
    refine follows_touch rfl fun f hf => ?_
    cases f
    case groupIds => simp [Entity.AgreesIn, hold, members old r hnew (Ne.symm hf)]
    case groupDisabledIds => simp [Entity.AgreesIn, hold, disabled old r hnew (Ne.symm hf)]
    all_goals first | exact rfl | exact fun _ => rfl | trivial
  next => exact .refl d

/-- An edit of an action's data follows, if it leaves alone what goes under another field. -/
theorem follows_editAction {edit : Action → Action}
    (targets : ∀ a, field ≠ .actionTargets → (edit a).targets = a.targets)
    (lock : ∀ a, field ≠ .actionLock → (edit a).lock = a.lock)
    (commands : ∀ a, field ≠ .actionCommands → (edit a).commands = a.commands)
    (success : ∀ a, (edit a).successMessage = a.successMessage)
    (fail : ∀ a, (edit a).failMessage = a.failMessage) :
    d.Follows (d.editAction now field edit).1 := by
  unfold editAction
  split
  next a ha =>
    refine follows_touch rfl fun f hf => ?_
    cases f
    case actionTargets => simp [Entity.AgreesIn, ha, targets a (Ne.symm hf)]
    case actionLock => simp [Entity.AgreesIn, ha, lock a (Ne.symm hf)]
    case actionCommands => simp [Entity.AgreesIn, ha, commands a (Ne.symm hf)]
    case actionSuccessMessage => simp [Entity.AgreesIn, ha, success a]
    case actionFailMessage => simp [Entity.AgreesIn, ha, fail a]
    all_goals first | exact rfl | exact fun _ => rfl | trivial
  next => exact .refl d

/-- The container is written under the field that stands for it by the entity's kind. -/
theorem follows_setContainer (d : Draft) (now : Timestamp) (container : EntityId) :
    d.Follows (d.apply now (.setContainer container)).1 := by
  refine follows_touch rfl fun f hf => ?_
  cases f
  case containedBy =>
    intro plain
    exact absurd (by simp [containerField, plain, Field.writtenAs]) hf
  case actionContainedBy =>
    intro action
    exact absurd (by simp [containerField, action, Field.writtenAs]) hf
  all_goals first | exact rfl | trivial

/-- One edit: whatever it changes is written down. -/
theorem apply_follows (d : Draft) (now : Timestamp) (edit : Edit) :
    d.Follows (d.apply now edit).1 := by
  cases edit <;> simp only [apply]
  -- edits of a part that only some kinds have, and of that part alone
  case addMember member =>
    refine follows_editRoster (fun r r' h other => absurd rfl other) fun r r' h _ => ?_
    split at h <;> simp at h
    rw [← h]
  case removeMember member =>
    refine follows_editRoster (fun r r' h other => absurd rfl other) fun r r' h _ => ?_
    split at h <;> simp at h
    rw [← h]
  case setMemberDisabled member disabled =>
    refine follows_editRoster (fun r r' h _ => ?_) fun r r' h other => absurd rfl other
    split at h <;> simp at h
    rw [← h]
  case setLock lock =>
    exact follows_editAction (fun _ _ => rfl) (fun _ other => absurd rfl other) (fun _ _ => rfl)
      (fun _ => rfl) fun _ => rfl
  case setTargets targets =>
    exact follows_editAction (fun _ other => absurd rfl other) (fun _ _ => rfl) (fun _ _ => rfl)
      (fun _ => rfl) fun _ => rfl
  case setCommands commands =>
    exact follows_editAction (fun _ _ => rfl) (fun _ _ => rfl) (fun _ other => absurd rfl other)
      (fun _ => rfl) fun _ => rfl
  case setContainer container => exact follows_setContainer d now container
  -- edits that may find nothing to do
  case' addFlag => split; exact .refl d
  case' removeFlag => split; rotate_left; exact .refl d
  case' changeApplication => split; exact .refl d
  case' setProperty => split; exact .refl d
  case' removeApplication => split; exact .refl d
  case' setScript => split; exact .refl d
  -- what is left writes one field and changes what stands under it
  all_goals
    refine follows_touch rfl fun f hf => ?_
    -- the written field is excluded, and the entity is the same under every other
    cases f <;> first | exact rfl | exact fun _ => rfl | exact absurd rfl hf | trivial

/-- A step that takes nothing away. -/
theorem step_follows (d : Draft) (now : Timestamp) {s : Step} (keeps : s ≠ .takeChanges) :
    d.Follows (d.step now s).1 := by
  cases s with
  | edit edit => exact apply_follows d now edit
  | hasChanges => exact .refl d
  | takeChanges => exact absurd rfl keeps
  | version => exact .refl d

/-- Steps in sequence, none of which takes the changes away. -/
theorem run_follows (d : Draft) (now : Timestamp) {steps : List Step}
    (keep : .takeChanges ∉ steps) : d.Follows (d.run now steps).1 := by
  induction steps generalizing d with
  | nil => exact .refl d
  | cons s rest ih =>
    have head : s ≠ .takeChanges := fun h => keep (h ▸ List.mem_cons_self)
    have tail : .takeChanges ∉ rest := fun h => keep (List.mem_cons_of_mem _ h)
    exact (step_follows d now head).trans (ih (d.step now s).1 tail)

end Draft

end WorldAccess
