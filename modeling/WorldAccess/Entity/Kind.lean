import Std.Data.ExtTreeSet
import WorldAccess.Text.Blank

/-!
# Kinds and fields of entities

Every entity has one of fourteen kinds, which decides what it can hold and where it can be. Its
fields have names of their own: permission is asked for one field at a time, and a change is
announced by the set of fields it wrote.

## Main definitions

* `Kind` with its predicates (`isAction`, `isRoomLike`, `isGroup`, ...)
* `Field`, ordered as declared, and `FieldSet`
-/

namespace WorldAccess

open Std

/-- The kind of an entity. -/
inductive Kind where
  | entity
  | region
  | room
  | player
  | guest
  | thing
  | puppet
  | vehicle
  | group
  | capability
  | program
  | action
  | exit
  | command
deriving DecidableEq

namespace Kind

/-- Every kind, as declared. -/
def all : List Kind :=
  [entity, region, room, player, guest, thing, puppet, vehicle, group, capability, program,
    action, exit, command]

/-- The word for a kind. -/
def word : Kind → String
  | entity => "entity"
  | region => "region"
  | room => "room"
  | player => "player"
  | guest => "guest"
  | thing => "thing"
  | puppet => "puppet"
  | vehicle => "vehicle"
  | group => "group"
  | capability => "capability"
  | program => "program"
  | action => "action"
  | exit => "exit"
  | command => "command"

/-- The kinds that can be used: they have targets, commands and a lock. -/
def isAction : Kind → Bool
  | action | exit | command => true
  | _ => false

/-- The kinds one can stand in. -/
def isRoomLike : Kind → Bool
  | room | region => true
  | _ => false

/-- Whether the kind is a region, which may enclose rooms and other regions. -/
def isRegion : Kind → Bool
  | region => true
  | _ => false

/-- The kinds that can lie in a room or be carried. -/
def isContainable : Kind → Bool
  | player | guest | thing | puppet | vehicle | program => true
  | _ => false

/-- The kinds that can hold other entities. -/
def isContainer : Kind → Bool
  | region | room | player | guest | thing | puppet | vehicle => true
  | _ => false

/-- The kinds that act in the world. -/
def isCharacter : Kind → Bool
  | player | guest | puppet => true
  | _ => false

/-- The kinds with members. -/
def isGroup : Kind → Bool
  | group | capability => true
  | _ => false

/-- The kinds that carry application properties. -/
def hasProperties : Kind → Bool
  | entity | group | capability => false
  | _ => true

theorem mem_all (k : Kind) : k ∈ all := by cases k <;> decide

/-- Reads the word for a kind; the error repeats the whole text. -/
def parse (text : String) : Except String Kind :=
  match Text.readWord? all word text with
  | some k => .ok k
  | none => .error ("unknown entity type '" ++ text ++ "'")

end Kind

/-- A field of an entity. -/
inductive Field where
  | id
  | type
  | version
  | name
  | note
  | security
  | owner
  | flags
  | deleted
  | createdTimestamp
  | updatedTimestamp
  | applicationProperties
  | containedBy
  | home
  | actionContainedBy
  | actionTargets
  | actionLock
  | actionCommands
  | actionSuccessMessage
  | actionFailMessage
  | groupIds
  | groupDisabledIds
  | programSourceCode
  | programLanguage
  | playerDisplayName
  | password
deriving DecidableEq

namespace Field

/-- Every field, as declared. -/
def all : List Field :=
  [id, type, version, name, note, security, owner, flags, deleted, createdTimestamp,
    updatedTimestamp, applicationProperties, containedBy, home, actionContainedBy, actionTargets,
    actionLock, actionCommands, actionSuccessMessage, actionFailMessage, groupIds,
    groupDisabledIds, programSourceCode, programLanguage, playerDisplayName, password]

/-- The word for a field. -/
def word : Field → String
  | id => "id"
  | type => "type"
  | version => "version"
  | name => "name"
  | note => "note"
  | security => "security"
  | owner => "owner"
  | flags => "flags"
  | deleted => "deleted"
  | createdTimestamp => "created_timestamp"
  | updatedTimestamp => "updated_timestamp"
  | applicationProperties => "application_properties"
  | containedBy => "contained_by"
  | home => "home"
  | actionContainedBy => "action_contained_by"
  | actionTargets => "action_targets"
  | actionLock => "action_lock"
  | actionCommands => "action_commands"
  | actionSuccessMessage => "action_success_message"
  | actionFailMessage => "action_fail_message"
  | groupIds => "group_ids"
  | groupDisabledIds => "group_disabled_ids"
  | programSourceCode => "program_source_code"
  | programLanguage => "program_language"
  | playerDisplayName => "player_display_name"
  | password => "password"

theorem mem_all (f : Field) : f ∈ all := by cases f <;> decide

/-- Reads the word for a field; the error repeats the whole text. -/
def parse (text : String) : Except String Field :=
  match Text.readWord? all word text with
  | some f => .ok f
  | none => .error ("unknown entity field '" ++ text ++ "'")

/-- Fields are ordered as declared. -/
instance : Ord Field := ⟨compareOn Field.ctorIdx⟩

instance : TransOrd Field := inferInstanceAs (TransCmp (compareOn Field.ctorIdx))

instance : LawfulEqOrd Field where
  eq_of_compare {a b} h := by
    have same : a.ctorIdx = b.ctorIdx := LawfulEqOrd.eq_of_compare h
    have hb := Field.ofNat_ctorIdx b
    rwa [← same, Field.ofNat_ctorIdx a] at hb

end Field

/-- A set of fields, listed as declared. -/
abbrev FieldSet := ExtTreeSet Field

end WorldAccess
