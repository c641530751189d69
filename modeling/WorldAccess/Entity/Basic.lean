import WorldAccess.Entity.Kind
import WorldAccess.Entity.Property
import WorldAccess.Time.Timestamp

/-!
# Entities

An entity is a record of what every entity has and, by its kind, of what only some have: actions
can be used, groups have members, programs have a source. Its *container* is where it is; for an
action it is what the action is attached to.

## Main definitions

* `Action`, `Roster`, `Script` — what an action, a group and a program have
* `Entity`, `Entity.fresh` — a new entity of a kind
* `Roster.enabled` — the members that count
* `Lock.opensFor` — whether a user passes a lock
-/

namespace WorldAccess

open Std

/-- What an action has. -/
structure Action where
  targets : List EntityId := []
  lock : Lock := .unlocked
  commands : List String := []
  successMessage : String := ""
  failMessage : String := ""
deriving DecidableEq

/-- The members of a group or a capability. Disabled ids are listed apart and hold nothing. -/
structure Roster where
  members : IdSet := ∅
  disabled : IdSet := ∅
deriving DecidableEq

namespace Roster

/-- Whether an id is a member that is not disabled. -/
def hasMember (r : Roster) (id : EntityId) : Bool :=
  r.members.contains id && !r.disabled.contains id

/-- The members that are not disabled, in the order of ids. -/
def enabled (r : Roster) : List EntityId :=
  r.members.toList.filter fun id => !r.disabled.contains id

end Roster

/-- What a program has. -/
structure Script where
  language : String := ""
  source : String := ""
deriving DecidableEq

/-- An entity of the world. -/
structure Entity where
  id : EntityId
  kind : Kind
  name : String
  note : String := ""
  owner : EntityId
  permissions : Permissions := {}
  flags : TextSet := ∅
  deleted : Bool := false
  version : UInt32 := 0
  created : Timestamp
  updated : Timestamp
  applications : ExtTreeMap String Application := ∅
  container : EntityId := .none
  home : EntityId := .none
  displayName : Option String := none
  action : Option Action := none
  group : Option Roster := none
  program : Option Script := none
deriving DecidableEq

namespace Entity

/-- A new entity at the moment `now`, with what its kind calls for. -/
def fresh (now : Timestamp) (id : EntityId) (kind : Kind) (name : String) (owner : EntityId) :
    Entity where
  id := id
  kind := kind
  name := name
  owner := owner
  version := 1
  created := now
  updated := now
  action := if kind.isAction then some {} else none
  group := if kind.isGroup then some {} else none
  program := if kind = .program then some {} else none

/-- Whether `member` is an enabled member of this entity. -/
def hasMember (e : Entity) (member : EntityId) : Bool := e.group.any (·.hasMember member)

/-- The lock of an action; nothing is locked otherwise. -/
def lock (e : Entity) : Lock := (e.action.map (·.lock)).getD .unlocked

/-- The value under a path of one of the entity's applications, slashes around the path dropped. -/
def property? (e : Entity) (application path : String) : Option Property :=
  e.applications[application]?.bind fun app =>
    app.properties[String.ofList (Text.stripBoth '/' path.toList)]?

end Entity

/-- Whether `user` passes the lock. `isMember group member` tells direct membership; it is asked
only of a lock by group. -/
def Lock.opensFor (lock : Lock) (user : Entity) (isMember : EntityId → EntityId → Bool) : Bool :=
  match lock with
  | .unlocked => true
  | .byId id negate => (user.id == id) != negate
  | .byProperty application path value negate =>
    (user.property? application path).any (·.same value) != negate
  | .byGroup group negate => isMember group user.id != negate

end WorldAccess
