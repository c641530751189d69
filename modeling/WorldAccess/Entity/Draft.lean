import WorldAccess.Entity.Basic

/-!
# Editing an entity

An entity is edited as a *draft*, which also holds the fields written so far. An edit that takes
effect writes one field, counts the version up and stamps the draft; an edit that is refused leaves
no trace. The fields are announced when the draft is put back.

## Main definitions

* `Draft`, `Draft.touch`
* `Edit` — one edit; `Draft.apply` — the draft after it, and its reply
* `Draft.Step`, `Draft.run` — edits and questions in sequence
-/

namespace WorldAccess

/-- An entity under edit with the fields written since it was opened. -/
structure Draft where
  entity : Entity
  changes : FieldSet := ∅

/-- One edit of an entity. -/
inductive Edit where
  | setName (name : String)
  | setNote (note : String)
  | setOwner (owner : EntityId)
  | setPermissions (permissions : Permissions)
  | setListRights (rights : Rights)
  | setOtherRights (rights : Rights)
  | addAdmin (id : EntityId)
  | addToList (id : EntityId)
  | removeAdmin (id : EntityId)
  | removeFromList (id : EntityId)
  | setDeleted (deleted : Bool)
  | setHome (home : EntityId)
  | setDisplayName (name : Option String)
  | setContainer (container : EntityId)
  | addFlag (flag : String)
  | removeFlag (flag : String)
  | setApplication (name : String) (application : Application)
  | changeApplication (name : String) (change : Permissions.Change)
  | setProperty (application path : String) (value : Property)
  | removeApplication (name : String)
  | addMember (member : EntityId)
  | removeMember (member : EntityId)
  | setMemberDisabled (member : EntityId) (disabled : Bool)
  | setLock (lock : Lock)
  | setTargets (targets : List EntityId)
  | setCommands (commands : List String)
  | setScript (language source : String)

/-- What an edit answers. -/
inductive Edit.Reply where
  | done
  | whether (yes : Bool)
  | previous (value : Option Property)
  | noApplication
  | removed (application : Option Application)

namespace Draft

/-- Opens an entity for editing. -/
def ofEntity (e : Entity) : Draft := { entity := e }

/-- Puts in `e` as the outcome of writing `field` at the moment `now`. -/
def touch (d : Draft) (now : Timestamp) (field : Field) (e : Entity) : Draft where
  entity := { e with version := e.version + 1, updated := now }
  changes := d.changes.insert field

/-- The field that stands for an entity's container. -/
def containerField (kind : Kind) : Field :=
  if kind.isAction then .actionContainedBy else .containedBy

/-- Edits the permission record. It counts as written even when the record refuses. -/
def editPermissions (d : Draft) (now : Timestamp) (edit : Permissions → Permissions × Bool) :
    Draft × Edit.Reply :=
  let (p, done) := edit d.entity.permissions
  (d.touch now .security { d.entity with permissions := p }, .whether done)

/-- Edits the roster where there is one, unless `edit` finds nothing to do. -/
def editRoster (d : Draft) (now : Timestamp) (field : Field) (edit : Roster → Option Roster) :
    Draft × Edit.Reply :=
  match d.entity.group.bind edit with
  | some r => (d.touch now field { d.entity with group := some r }, .whether true)
  | none => (d, .whether false)

/-- Edits the action data where there are any. -/
def editAction (d : Draft) (now : Timestamp) (field : Field) (edit : Action → Action) :
    Draft × Edit.Reply :=
  match d.entity.action with
  | some a => (d.touch now field { d.entity with action := some (edit a) }, .whether true)
  | none => (d, .whether false)

/-- The draft after one edit at the moment `now`, and the reply. -/
def apply (d : Draft) (now : Timestamp) : Edit → Draft × Edit.Reply
  | .setName name => (d.touch now .name { d.entity with name }, .done)
  | .setNote note => (d.touch now .note { d.entity with note }, .done)
  | .setOwner owner => (d.touch now .owner { d.entity with owner }, .done)
  | .setPermissions permissions => (d.touch now .security { d.entity with permissions }, .done)
  | .setListRights rights =>
    let permissions := { d.entity.permissions with listRights := rights }
    (d.touch now .security { d.entity with permissions }, .done)
  | .setOtherRights rights =>
    let permissions := { d.entity.permissions with otherRights := rights }
    (d.touch now .security { d.entity with permissions }, .done)
  | .addAdmin id => d.editPermissions now (·.addAdmin id)
  | .addToList id => d.editPermissions now (·.addToList id)
  | .removeAdmin id => d.editPermissions now (·.removeAdmin id)
  | .removeFromList id => d.editPermissions now (·.removeFromList id)
  | .setDeleted deleted => (d.touch now .deleted { d.entity with deleted }, .done)
  | .setHome home => (d.touch now .home { d.entity with home }, .done)
  | .setDisplayName displayName =>
    (d.touch now .playerDisplayName { d.entity with displayName }, .done)
  | .setContainer container =>
    (d.touch now (containerField d.entity.kind) { d.entity with container }, .done)
  | .addFlag flag =>
    if d.entity.flags.contains flag then (d, .whether false)
    else (d.touch now .flags { d.entity with flags := d.entity.flags.insert flag }, .whether true)
  | .removeFlag flag =>
    if d.entity.flags.contains flag then
      (d.touch now .flags { d.entity with flags := d.entity.flags.erase flag }, .whether true)
    else (d, .whether false)
  | .setApplication name application =>
    let applications := d.entity.applications.insert name application
    (d.touch now .applicationProperties { d.entity with applications }, .done)
  | .changeApplication name change =>
    match d.entity.applications[name]? with
    | none => (d, .noApplication)
    | some application =>
      let (permissions, done) := application.permissions.change change
      let applications := d.entity.applications.insert name { application with permissions }
      (d.touch now .applicationProperties { d.entity with applications }, .whether done)
  | .setProperty name path value =>
    match d.entity.applications[name]? with
    | none => (d, .noApplication)
    | some application =>
      let properties := application.properties.insert path value
      let applications := d.entity.applications.insert name { application with properties }
      (d.touch now .applicationProperties { d.entity with applications },
        .previous application.properties[path]?)
  | .removeApplication name =>
    match d.entity.applications[name]? with
    | none => (d, .removed none)
    | some application =>
      let applications := d.entity.applications.erase name
      (d.touch now .applicationProperties { d.entity with applications },
        .removed (some application))
  | .addMember member =>
    d.editRoster now .groupIds fun r =>
      if r.members.contains member then none
      else some { r with members := r.members.insert member }
  | .removeMember member =>
    d.editRoster now .groupIds fun r =>
      if r.members.contains member then some { r with members := r.members.erase member }
      else none
  | .setMemberDisabled member disabled =>
    d.editRoster now .groupDisabledIds fun r =>
      if r.disabled.contains member = disabled then none
      else some { r with
        disabled := if disabled then r.disabled.insert member else r.disabled.erase member }
  | .setLock lock => d.editAction now .actionLock ({ · with lock })
  | .setTargets targets => d.editAction now .actionTargets ({ · with targets })
  | .setCommands commands => d.editAction now .actionCommands ({ · with commands })
  | .setScript language source =>
    match d.entity.program with
    | none => (d, .whether false)
    | some _ =>
      (d.touch now .programSourceCode
        { d.entity with program := some { language, source } }, .whether true)

/-- An edit, or a question about the draft. Taking the changes also forgets them. -/
inductive Step where
  | edit (edit : Edit)
  | hasChanges
  | takeChanges
  | version

/-- What a step answers. -/
inductive Answer where
  | reply (reply : Edit.Reply)
  | hasChanges (yes : Bool)
  | changes (fields : FieldSet)
  | version (number : UInt32)

/-- The draft after one step, and the answer. -/
def step (d : Draft) (now : Timestamp) : Step → Draft × Answer
  | .edit e =>
    let (d, reply) := d.apply now e
    (d, .reply reply)
  | .hasChanges => (d, .hasChanges (!d.changes.isEmpty))
  | .takeChanges => ({ d with changes := ∅ }, .changes d.changes)
  | .version => (d, .version d.entity.version)

/-- The draft after steps in sequence, and their answers. -/
def run (d : Draft) (now : Timestamp) : List Step → Draft × List Answer
  | [] => (d, [])
  | s :: rest =>
    let (d, answer) := d.step now s
    let (d, answers) := d.run now rest
    (d, answer :: answers)

end Draft

end WorldAccess
