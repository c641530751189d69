import WorldAccess.Entity.Basic
import WorldAccess.Json.Writer
import WorldAccess.Wire.Basic

/-!
# The saved form of entities

How ids, rights, permission records, properties, locks and entities are written as JSON and read
back. Kinds, fields and other vocabulary are words; sets and maps are written in their order.

## Main definitions

* `EntityId.toJson`, `EntityId.ofJson?`, and likewise for `Rights`, `Permissions`, `Property`,
  `Application`, `Lock`, `Action`, `Roster`, `Script` and `Entity`
-/

namespace WorldAccess

open Std Wire

/-! ### Ids and words -/

/-- An id as an object. -/
def EntityId.toJson (id : EntityId) : Json :=
  .record [("site_id", .nat id.site.toNat), ("entity_id", .nat id.number.toNat)]

/-- A number of thirty-two bits. -/
def Wire.uint32? : Decoder UInt32 := fun r j => (nat? Text.max32 r j).map Nat.toUInt32

/-- A number of sixty-four bits. -/
def Wire.uint64? : Decoder UInt64 := fun r j => (nat? Text.max64 r j).map Nat.toUInt64

/-- Reads an id. -/
def EntityId.ofJson? : Decoder EntityId := fun r j => do
  let [site, number] ← record? ["site_id", "entity_id"] j | none
  return ⟨← required? uint32? r.inside site, ← required? uint64? r.inside number⟩

/-- A list of ids. -/
def Wire.ids (ids : List EntityId) : Json := .list EntityId.toJson ids

/-- Reads a kind. -/
def Kind.ofJson? : Decoder Kind := word? Kind.all Kind.word

/-- Reads a field. -/
def Field.ofJson? : Decoder Field := word? Field.all Field.word

/-! ### Permissions -/

/-- Rights as their written names. -/
def Rights.toJson (r : Rights) : Json := .text r.render

/-- Reads rights. -/
def Rights.ofJson? : Decoder Rights := fun r j => (text? r j).bind Rights.parse?

/-- A permission record as an object. -/
def Permissions.toJson (p : Permissions) : Json :=
  .record [("list_flags", p.listRights.toJson), ("other_flags", p.otherRights.toJson),
    ("admin_ids", ids p.admins), ("list_ids", ids p.listed)]

/-- Reads a permission record. Its lists are taken as they are given. -/
def Permissions.ofJson? : Decoder Permissions := fun r j => do
  let [listRights, otherRights, admins, listed] ←
    record? ["list_flags", "other_flags", "admin_ids", "list_ids"] j | none
  return {
    listRights := ← optional? Rights.ofJson? .empty r.inside listRights
    otherRights := ← optional? Rights.ofJson? .empty r.inside otherRights
    admins := ← optional? (list? EntityId.ofJson?) [] r.inside admins
    listed := ← optional? (list? EntityId.ofJson?) [] r.inside listed }

/-! ### Properties -/

/-- The type of a property value. -/
inductive PropertyKind where
  | string
  | integer
  | float
  | boolean
  | id

/-- Every type of property values, as declared. -/
def PropertyKind.all : List PropertyKind := [.string, .integer, .float, .boolean, .id]

/-- The word for a type of property values. -/
def PropertyKind.word : PropertyKind → String
  | .string => "string"
  | .integer => "integer"
  | .float => "float"
  | .boolean => "boolean"
  | .id => "id"

/-- A property value with its type beside it. -/
def Property.toJson (p : Property) : Json :=
  let form (kind : PropertyKind) (value : Json) : Json :=
    .record [("kind", .text kind.word), ("value", value)]
  match p with
  | .text s => form .string (.text s)
  | .integer i => form .integer (.number (.ofInt i.toInt))
  | .float x => form .float (.number (.ofFloat x))
  | .boolean b => form .boolean (.bool b)
  | .id i => form .id i.toJson

/-- Reads the value of a property of the given type. -/
def Property.valueOf? (kind : PropertyKind) (r : Reading) (j : Json) : Option Property :=
  match kind, j with
  | .string, j => (text? r j).map .text
  | .integer, .number n => n.integer?.map .integer
  | .float, .number n => n.float?.map .float
  | .boolean, .bool b => some (.boolean b)
  | .id, j => (EntityId.ofJson? r j).map .id
  | _, _ => none

/-- Reads a property value. A value that comes before its type is read as a whole. -/
def Property.ofJson? : Decoder Property := fun r j => do
  let [kind, value] ← record? ["kind", "value"] j | none
  let readKind := match j with
    | .array _ => leadingWord? PropertyKind.all PropertyKind.word
    | _ => word? PropertyKind.all PropertyKind.word
  let kind ← required? readKind r.inside kind
  let value ← value
  let first : Bool := match j with
    | .object members => (members.find? fun m => m.1 == some "kind" || m.1 == some "value").any
        fun m => m.1 == some "value"
    | _ => false
  let r ← if first then whole? r.inside value else some r.inside
  Property.valueOf? kind r value

/-- An application as an object. -/
def Application.toJson (a : Application) : Json :=
  .record [("owner", a.owner.toJson), ("security", a.permissions.toJson),
    ("properties", .record (a.properties.toList.map fun p => (p.1, p.2.toJson)))]

/-- Reads an application. -/
def Application.ofJson? : Decoder Application := fun r j => do
  let [owner, permissions, properties] ← record? ["owner", "security", "properties"] j | none
  return {
    owner := ← required? EntityId.ofJson? r.inside owner
    permissions := ← optional? Permissions.ofJson? {} r.inside permissions
    properties := ← optional? (map? Property.ofJson?) ∅ r.inside properties }

/-! ### What some kinds have -/

/-- A lock with its kind among its members. -/
def Lock.toJson : Lock → Json
  | .unlocked => .record [("kind", .text "unlocked")]
  | .byId id negate =>
    .record [("kind", .text "by_id"), ("id", id.toJson), ("negate", .bool negate)]
  | .byProperty application path value negate =>
    .record [("kind", .text "by_property"), ("application", .text application),
      ("path", .text path), ("value", value.toJson), ("negate", .bool negate)]
  | .byGroup group negate =>
    .record [("kind", .text "by_group"), ("group", group.toJson), ("negate", .bool negate)]

/-- Reads a lock. -/
def Lock.ofJson? : Decoder Lock := fun r j => do
  let (r, kind, rest) ← tagged? "kind" r j
  match kind, rest with
  | "unlocked", .array [] | "unlocked", .object _ => some .unlocked
  | "by_id", rest =>
    let [id, negate] ← record? ["id", "negate"] rest | none
    return .byId (← required? EntityId.ofJson? r id) (← optional? bool? false r negate)
  | "by_property", rest =>
    let [application, path, value, negate] ←
      record? ["application", "path", "value", "negate"] rest | none
    return .byProperty (← required? text? r application) (← required? text? r path)
      (← required? Property.ofJson? r value) (← optional? bool? false r negate)
  | "by_group", rest =>
    let [group, negate] ← record? ["group", "negate"] rest | none
    return .byGroup (← required? EntityId.ofJson? r group) (← optional? bool? false r negate)
  | _, _ => none

/-- The data of an action as an object. -/
def Action.toJson (a : Action) : Json :=
  .record [("targets", ids a.targets), ("lock", a.lock.toJson),
    ("commands", .list .text a.commands), ("success_message", .text a.successMessage),
    ("fail_message", .text a.failMessage)]

/-- Reads the data of an action. -/
def Action.ofJson? : Decoder Action := fun r j => do
  let [targets, lock, commands, success, fail] ←
    record? ["targets", "lock", "commands", "success_message", "fail_message"] j | none
  return {
    targets := ← optional? (list? EntityId.ofJson?) [] r.inside targets
    lock := ← optional? Lock.ofJson? .unlocked r.inside lock
    commands := ← optional? (list? text?) [] r.inside commands
    successMessage := ← optional? text? "" r.inside success
    failMessage := ← optional? text? "" r.inside fail }

/-- The members of a group as an object. -/
def Roster.toJson (g : Roster) : Json :=
  .record [("members", ids g.members.toList), ("disabled", ids g.disabled.toList)]

/-- Reads the members of a group. -/
def Roster.ofJson? : Decoder Roster := fun r j => do
  let [members, disabled] ← record? ["members", "disabled"] j | none
  return {
    members := ← optional? (set? EntityId.ofJson?) ∅ r.inside members
    disabled := ← optional? (set? EntityId.ofJson?) ∅ r.inside disabled }

/-- A program's source as an object. -/
def Script.toJson (s : Script) : Json :=
  .record [("language", .text s.language), ("source", .text s.source)]

/-- Reads a program's source. -/
def Script.ofJson? : Decoder Script := fun r j => do
  let [language, source] ← record? ["language", "source"] j | none
  return {
    language := ← optional? text? "" r.inside language
    source := ← optional? text? "" r.inside source }

/-! ### Entities -/

/-- The names of an entity's members, in order. -/
def Entity.memberNames : List String :=
  ["id", "entity_type", "name", "note", "owner", "security", "flags", "deleted", "version",
    "created", "updated", "applications", "contained_by", "home", "display_name", "action", "group",
    "program"]

/-- An entity as an object. -/
def Entity.toJson (e : Entity) : Json :=
  .record [("id", e.id.toJson), ("entity_type", .text e.kind.word), ("name", .text e.name),
    ("note", .text e.note), ("owner", e.owner.toJson), ("security", e.permissions.toJson),
    ("flags", .list .text e.flags.toList), ("deleted", .bool e.deleted),
    ("version", .nat e.version.toNat), ("created", .text e.created.render),
    ("updated", .text e.updated.render),
    ("applications", .record (e.applications.toList.map fun a => (a.1, a.2.toJson))),
    ("contained_by", e.container.toJson), ("home", e.home.toJson),
    ("display_name", .option .text e.displayName), ("action", .option Action.toJson e.action),
    ("group", .option Roster.toJson e.group), ("program", .option Script.toJson e.program)]

/-- Reads an entity. One without timestamps gets the moment of reading. -/
def Entity.ofJson? : Decoder Entity := fun r j => do
  let [id, kind, name, note, owner, permissions, flags, deleted, version, created, updated,
    applications, container, home, displayName, action, group, program] ←
    record? Entity.memberNames j | none
  let r := r.inside
  return {
    id := ← required? EntityId.ofJson? r id
    kind := ← required? Kind.ofJson? r kind
    name := ← required? text? r name
    note := ← optional? text? "" r note
    owner := ← required? EntityId.ofJson? r owner
    permissions := ← optional? Permissions.ofJson? {} r permissions
    flags := ← optional? (set? text?) ∅ r flags
    deleted := ← optional? bool? false r deleted
    version := ← optional? uint32? 0 r version
    created := ← optional? timestamp? r.now r created
    updated := ← optional? timestamp? r.now r updated
    applications := ← optional? (map? Application.ofJson?) ∅ r applications
    container := ← optional? EntityId.ofJson? .none r container
    home := ← optional? EntityId.ofJson? .none r home
    displayName := ← optional? (nullable? text?) none r displayName
    action := ← optional? (nullable? Action.ofJson?) none r action
    group := ← optional? (nullable? Roster.ofJson?) none r group
    program := ← optional? (nullable? Script.ofJson?) none r program }

end WorldAccess
