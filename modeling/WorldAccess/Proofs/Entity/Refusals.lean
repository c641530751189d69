import WorldAccess.Proofs.Entity.Tracking

/-!
# Edits that take effect and edits that are refused

An edit of a draft is refused or takes effect, and its reply says which. What is refused leaves no
trace at all. What takes effect writes down one field and counts the version up by one, whether or
not it has changed anything. So after any number of edits the version has gone up by the number of
those that took effect, and what is written down are their fields.

Some edits work on something that the entity lends out: its permission record, or one of its
applications. To lend is to write, so these take effect even if the record then declines; they are
refused only if there is nothing to lend. Whatever else is made of what is lent out comes to the
same as setting it whole.

## Main definitions

* `Edit.isLent`, `Edit.isRefused` — how a reply is to be read
* `Edit.field` — the field that an edit writes down
* `Draft.afterEdits`, `Draft.effective` — edits in sequence, and those of them that take effect
* `Draft.Loan`, `Draft.lend` — what is lent out, to be used in any way

## Main results

* `Draft.apply_cases` — what one edit does
* `Draft.version_afterEdits`, `Draft.mem_changes_afterEdits` — what edits in sequence do
* `Draft.exists_edit_of_lend` — what is lent out and changed might as well be set
-/

namespace WorldAccess

open Std

namespace Edit

/-- Whether an edit works on something that the entity lends out. The reply is then that of the
thing that was lent. -/
def isLent : Edit → Bool
  | setListRights _ | setOtherRights _ | addAdmin _ | addToList _ | removeAdmin _
  | removeFromList _ | changeApplication .. | setProperty .. => true
  | _ => false

/-- Whether an edit with a reply was refused: the entity said no, or had nothing to lend or to
remove. -/
def isRefused (edit : Edit) : Reply → Bool
  | .whether yes => !yes && !edit.isLent
  | .noApplication => true
  | .removed application => application.isNone
  | .done | .previous _ => false

/-- The field under which an edit of an entity of some kind is written down. -/
def field (kind : Kind) : Edit → Field
  | setName _ => .name
  | setNote _ => .note
  | setOwner _ => .owner
  | setPermissions _ | setListRights _ | setOtherRights _ | addAdmin _ | addToList _
  | removeAdmin _ | removeFromList _ => .security
  | setDeleted _ => .deleted
  | setHome _ => .home
  | setDisplayName _ => .playerDisplayName
  | setContainer _ => Draft.containerField kind
  | addFlag _ | removeFlag _ => .flags
  | setApplication .. | changeApplication .. | setProperty .. | removeApplication _ =>
    .applicationProperties
  | addMember _ | removeMember _ => .groupIds
  | setMemberDisabled .. => .groupDisabledIds
  | setLock _ => .actionLock
  | setTargets _ => .actionTargets
  | setCommands _ => .actionCommands
  | setScript .. => .programSourceCode

/-- No edit is written down under a program's language. -/
theorem field_ne_programLanguage (edit : Edit) (kind : Kind) :
    edit.field kind ≠ .programLanguage := by
  cases edit
  case setContainer => cases kind <;> simp [field, Draft.containerField, Kind.isAction]
  all_goals simp [field]

end Edit

theorem Field.writtenAs_of_ne {f : Field} (other : f ≠ .programLanguage) : f.writtenAs = f := by
  cases f
  case programLanguage => exact absurd rfl other
  all_goals rfl

namespace Draft

variable {d : Draft} {now : Timestamp} {edit : Edit} {edits : List Edit} {f : Field}

/-! ### One edit -/

/-- What an edit of a roster does: nothing, or it writes down its field. -/
theorem editRoster_cases (d : Draft) (now : Timestamp) (field : Field)
    (edit : Roster → Option Roster) :
    d.editRoster now field edit = (d, .whether false) ∨
      ∃ e, d.editRoster now field edit = (d.touch now field e, .whether true) ∧
        e.version = d.entity.version := by
  unfold editRoster
  split
  · exact Or.inr ⟨_, rfl, rfl⟩
  · exact Or.inl rfl

/-- What an edit of an action's data does: nothing, or it writes down its field. -/
theorem editAction_cases (d : Draft) (now : Timestamp) (field : Field) (edit : Action → Action) :
    d.editAction now field edit = (d, .whether false) ∨
      ∃ e, d.editAction now field edit = (d.touch now field e, .whether true) ∧
        e.version = d.entity.version := by
  unfold editAction
  split
  · exact Or.inr ⟨_, rfl, rfl⟩
  · exact Or.inl rfl

/-- An edit is refused and leaves the draft alone, or it takes effect and writes down its field. -/
theorem apply_cases (d : Draft) (now : Timestamp) (edit : Edit) :
    (edit.isRefused (d.apply now edit).2 = true ∧ (d.apply now edit).1 = d) ∨
      (edit.isRefused (d.apply now edit).2 = false ∧
        ∃ e, (d.apply now edit).1 = d.touch now (edit.field d.entity.kind) e ∧
          e.version = d.entity.version) := by
  cases edit <;> simp only [apply]
  -- edits of a part that only some kinds have
  case addMember | removeMember | setMemberDisabled =>
    rcases editRoster_cases d now _ _ with refused | ⟨e, written, version⟩
    · rw [refused]
      exact Or.inl ⟨rfl, rfl⟩
    · rw [written]
      exact Or.inr ⟨rfl, e, rfl, version⟩
  case setLock | setTargets | setCommands =>
    rcases editAction_cases d now _ _ with refused | ⟨e, written, version⟩
    · rw [refused]
      exact Or.inl ⟨rfl, rfl⟩
    · rw [written]
      exact Or.inr ⟨rfl, e, rfl, version⟩
  -- the permission record is always there to be lent, and what it answers does not count
  case addAdmin | addToList | removeAdmin | removeFromList =>
    exact Or.inr ⟨Bool.and_false _, _, rfl, rfl⟩
  -- edits that may find nothing to do, or nothing to lend or to remove
  case addFlag | changeApplication | setProperty | removeApplication | setScript =>
    split
    · exact Or.inl ⟨rfl, rfl⟩
    · exact Or.inr ⟨by simp [Edit.isRefused, Edit.isLent], _, rfl, rfl⟩
  case removeFlag =>
    split
    · exact Or.inr ⟨rfl, _, rfl, rfl⟩
    · exact Or.inl ⟨rfl, rfl⟩
  -- the others always take effect
  all_goals exact Or.inr ⟨rfl, _, rfl, rfl⟩

/-- What is refused leaves no trace. -/
theorem apply_of_isRefused (refused : edit.isRefused (d.apply now edit).2 = true) :
    (d.apply now edit).1 = d := by
  rcases apply_cases d now edit with ⟨_, same⟩ | ⟨taken, _⟩
  · exact same
  · rw [refused] at taken
    cases taken

/-- What takes effect writes down its field and counts the version up. -/
theorem apply_of_not_isRefused (taken : edit.isRefused (d.apply now edit).2 = false) :
    (d.apply now edit).1.changes = d.changes.insert (edit.field d.entity.kind) ∧
      (d.apply now edit).1.entity.version = d.entity.version + 1 := by
  rcases apply_cases d now edit with ⟨refused, _⟩ | ⟨_, e, written, version⟩
  · rw [taken] at refused
    cases refused
  · rw [written, touch, version]
    exact ⟨rfl, rfl⟩

theorem kind_apply (d : Draft) (now : Timestamp) (edit : Edit) :
    (d.apply now edit).1.entity.kind = d.entity.kind :=
  congrArg (·.2.1) (identity_apply d now edit)

/-! ### Edits in sequence -/

/-- The draft after edits in sequence. -/
def afterEdits (d : Draft) (now : Timestamp) (edits : List Edit) : Draft :=
  (d.run now (edits.map .edit)).1

/-- Those of the edits in a sequence that take effect. -/
def effective (d : Draft) (now : Timestamp) : List Edit → List Edit
  | [] => []
  | edit :: rest =>
    let (d', reply) := d.apply now edit
    if edit.isRefused reply then d'.effective now rest else edit :: d'.effective now rest

@[simp] theorem afterEdits_nil (d : Draft) (now : Timestamp) : d.afterEdits now [] = d := rfl

@[simp] theorem afterEdits_cons (d : Draft) (now : Timestamp) (edit : Edit) (rest : List Edit) :
    d.afterEdits now (edit :: rest) = (d.apply now edit).1.afterEdits now rest := rfl

theorem effective_cons_of_isRefused {rest : List Edit}
    (refused : edit.isRefused (d.apply now edit).2 = true) :
    d.effective now (edit :: rest) = d.effective now rest := by
  rw [effective]
  dsimp only
  rw [if_pos refused, apply_of_isRefused refused]

theorem effective_cons_of_not_isRefused {rest : List Edit}
    (taken : edit.isRefused (d.apply now edit).2 = false) :
    d.effective now (edit :: rest) = edit :: (d.apply now edit).1.effective now rest := by
  rw [effective]
  dsimp only
  rw [taken, if_neg Bool.false_ne_true]

/-- The version goes up by the number of edits that take effect, as far as the counter reaches. -/
theorem version_afterEdits (d : Draft) (now : Timestamp) (edits : List Edit) :
    (d.afterEdits now edits).entity.version.toNat =
      (d.entity.version.toNat + (d.effective now edits).length) % UInt32.size := by
  induction edits generalizing d with
  | nil => exact (Nat.mod_eq_of_lt d.entity.version.toNat_lt).symm
  | cons edit rest ih =>
    rw [afterEdits_cons]
    cases refused : edit.isRefused (d.apply now edit).2 with
    | true => rw [effective_cons_of_isRefused refused, apply_of_isRefused refused, ih]
    | false =>
      rw [effective_cons_of_not_isRefused refused, ih, (apply_of_not_isRefused refused).2,
        UInt32.toNat_add, List.length_cons]
      -- the counter may start over on the way, and one remainder at the end comes to the same
      simp only [UInt32.reduceToNat, UInt32.size]
      omega

/-- What is written down are the fields of the edits that take effect. -/
theorem mem_changes_afterEdits (d : Draft) (now : Timestamp) (edits : List Edit) :
    f ∈ (d.afterEdits now edits).changes ↔
      f ∈ d.changes ∨ ∃ edit ∈ d.effective now edits, edit.field d.entity.kind = f := by
  induction edits generalizing d with
  | nil => simp [effective]
  | cons edit rest ih =>
    rw [afterEdits_cons]
    cases refused : edit.isRefused (d.apply now edit).2 with
    | true => rw [effective_cons_of_isRefused refused, apply_of_isRefused refused, ih]
    | false =>
      -- the field of an edit depends on the kind, which the edits before it have not changed
      rw [effective_cons_of_not_isRefused refused, ih, (apply_of_not_isRefused refused).1,
        kind_apply, ExtTreeSet.mem_insert, Std.compare_eq_iff_eq]
      simp only [List.mem_cons, exists_eq_or_imp, or_assoc, or_left_comm]

/-- Nothing is written down if and only if no edit takes effect. -/
theorem changes_afterEdits_isEmpty_iff (e : Entity) (now : Timestamp) (edits : List Edit) :
    ((ofEntity e).afterEdits now edits).changes.isEmpty = true ↔
      (ofEntity e).effective now edits = [] := by
  rw [ExtTreeSet.isEmpty_iff, ExtTreeSet.eq_empty_iff_forall_not_mem,
    List.eq_nil_iff_forall_not_mem]
  constructor
  · intro none edit taken
    exact none _ ((mem_changes_afterEdits _ now edits).mpr (Or.inr ⟨edit, taken, rfl⟩))
  · intro none f written
    rcases (mem_changes_afterEdits _ now edits).mp written with before | ⟨edit, taken, _⟩
    · exact ExtTreeSet.not_mem_empty before
    · exact none edit taken

/-! ### What is lent out -/

/-- Something that an entity lends out, to be used in any way: its permission record, or one of its
applications. -/
inductive Loan where
  | permissions (use : Permissions → Permissions)
  | application (name : String) (use : Application → Application)

/-- The draft after something has been lent out and used. To lend is to write, whatever comes of it.
An application that is not there cannot be lent. -/
def lend (d : Draft) (now : Timestamp) : Loan → Option Draft
  | .permissions use =>
    some (d.touch now .security { d.entity with permissions := use d.entity.permissions })
  | .application name use => d.entity.applications[name]?.map fun application =>
    let applications := d.entity.applications.insert name (use application)
    d.touch now .applicationProperties { d.entity with applications }

/-- Whatever is made of what is lent out, some edit does the same, and is refused if and only if
there is nothing to lend. -/
theorem exists_edit_of_lend (d : Draft) (now : Timestamp) (loan : Loan) :
    ∃ edit : Edit, (d.apply now edit).1 = (d.lend now loan).getD d ∧
      edit.isRefused (d.apply now edit).2 = (d.lend now loan).isNone := by
  cases loan with
  | permissions use => exact ⟨.setPermissions (use d.entity.permissions), rfl, rfl⟩
  | application name use =>
    cases there : d.entity.applications[name]? with
    | none =>
      refine ⟨.removeApplication name, ?_⟩
      simp [apply, lend, there, Edit.isRefused]
    | some application =>
      refine ⟨.setApplication name (use application), ?_⟩
      simp [apply, lend, there, Edit.isRefused]

end Draft

end WorldAccess
