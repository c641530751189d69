import WorldAccess.Decimal.Shortest
import WorldAccess.Entity.Id
import WorldAccess.Entity.Permissions

/-!
# Application properties and locks

An application keeps typed values on an entity under an owner and a permission record of its own.
A property is addressed by a path whose first segment is the application's name.

A lock decides who may use an action: everybody, one entity, the bearers of a property value, or the
members of a group. Every lock but the first can be turned around.

## Main definitions

* `Property` with `Property.same` (numbers as they compare) and `Property.display`
* `Application`
* `Lock` with `Lock.isLocked` and `Lock.group?`
* `Path.application?`, `Path.inside` — the two parts of a property path
-/

namespace WorldAccess

open Std

/-- A property value. -/
inductive Property where
  | text (value : String)
  | integer (value : Int64)
  | float (value : Float)
  | boolean (value : Bool)
  | id (value : EntityId)
deriving DecidableEq

namespace Property

/-- Whether two values are of one type and equal; floats are equal as numbers, so that the two zeros
are one. -/
def same : Property → Property → Bool
  | text a, text b => a == b
  | integer a, integer b => a == b
  | float a, float b => a == b
  | boolean a, boolean b => a == b
  | id a, id b => a == b
  | _, _ => false

/-- The text of a value as it is shown to people. -/
def display : Property → String
  | text s => s
  | integer i => toString i.toInt
  | float x => Decimal.displayed x
  | boolean b => if b then "true" else "false"
  | id i => i.render

end Property

/-- One application's properties on an entity. -/
structure Application where
  owner : EntityId
  permissions : Permissions := {}
  properties : ExtTreeMap String Property := ∅
deriving DecidableEq

/-- The lock of an action. `negate` turns the answer around. -/
inductive Lock where
  | unlocked
  | byId (id : EntityId) (negate : Bool)
  | byProperty (application path : String) (value : Property) (negate : Bool)
  | byGroup (group : EntityId) (negate : Bool)
deriving DecidableEq

namespace Lock

/-- Whether the lock keeps anybody out. -/
def isLocked : Lock → Bool
  | unlocked => false
  | _ => true

/-- The group whose membership the lock asks for. -/
def group? : Lock → Option EntityId
  | byGroup group _ => some group
  | _ => none

end Lock

namespace Path

/-- The path without the blanks around it and the slashes in front. -/
def body (path : String) : List Char := (Text.trim path.toList).dropWhile (· == '/')

/-- The application a path belongs to: its first segment without the blanks around it, if anything
is left. -/
def application? (path : String) : Option String :=
  let segment := Text.trim ((body path).takeWhile (· != '/'))
  if segment.isEmpty then none else some (String.ofList segment)

/-- What follows the first segment and its slash. -/
def inside (path : String) : String :=
  String.ofList (((body path).dropWhile (· != '/')).drop 1)

end Path

end WorldAccess
