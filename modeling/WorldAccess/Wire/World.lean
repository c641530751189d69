import WorldAccess.Engine.Config
import WorldAccess.Engine.Refusal
import WorldAccess.Store.Snapshot
import WorldAccess.Wire.Entity

/-!
# The saved form of snapshots, events, settings and errors

## Main definitions

* `Snapshot.toJson`, `Snapshot.ofJson?`, and likewise for `Event`, `Config` and `Failure`
* `Refusal.toJson`
* `Capability.ofJson?`, `Vote.ofJson?`
-/

namespace WorldAccess

open Std Wire

/-! ### Snapshots -/

/-- A site as an object. -/
def SiteRecord.toJson (s : SiteRecord) : Json :=
  .record [("id", .nat s.id.toNat), ("name", .text s.name),
    ("next_entity", .nat s.nextNumber.toNat)]

/-- Reads a site. -/
def SiteRecord.ofJson? : Decoder SiteRecord := fun r j => do
  let [id, name, next] ← record? ["id", "name", "next_entity"] j | none
  return {
    id := ← required? uint32? r.inside id
    name := ← required? text? r.inside name
    nextNumber := ← optional? uint64? 0 r.inside next }

/-- A snapshot as an object. -/
def Snapshot.toJson (s : Snapshot) : Json :=
  .record [("sites", .list SiteRecord.toJson s.sites), ("entities", .list Entity.toJson s.entities)]

/-- Reads a snapshot. -/
def Snapshot.ofJson? : Decoder Snapshot := fun r j => do
  let [sites, entities] ← record? ["sites", "entities"] j | none
  return {
    sites := ← optional? (list? SiteRecord.ofJson?) [] r.inside sites
    entities := ← optional? (list? Entity.ofJson?) [] r.inside entities }

/-! ### Events -/

/-- An event with its kind among its members. -/
def Event.toJson : Event → Json
  | .entityChanged c =>
    .record [("event", .text "entity_changed"), ("entity_id", c.id.toJson),
      ("entity_type", .text c.kind.word), ("action", .text c.action.word),
      ("fields", .list (fun f => .text f.word) c.fields.toList)]
  | .siteDeleted site => .record [("event", .text "site_deleted"), ("site_id", .nat site.toNat)]

/-- Reads an event. -/
def Event.ofJson? : Decoder Event := fun r j => do
  let (r, event, rest) ← tagged? "event" r j
  match event with
  | "entity_changed" =>
    let [id, kind, action, fields] ←
      record? ["entity_id", "entity_type", "action", "fields"] rest | none
    return .entityChanged {
      id := ← required? EntityId.ofJson? r id
      kind := ← required? Kind.ofJson? r kind
      action := ← required? (word? ChangeAction.all ChangeAction.word) r action
      fields := ← optional? (set? Field.ofJson?) ∅ r fields }
  | "site_deleted" =>
    let [site] ← record? ["site_id"] rest | none
    return .siteDeleted (← required? uint32? r site)
  | _ => none

/-! ### Settings -/

/-- A configuration as an object. -/
def Config.toJson (c : Config) : Json :=
  .record [("global_site_id", .nat c.globalSite.toNat),
    ("implicit_admin_ids", ids c.implicitAdmins), ("max_container_depth", .nat c.maxDepth),
    ("extra_checkers", .record (c.extraCheckers.toList.map fun e => (e.1, .list .text e.2)))]

/-- Reads a configuration. Settings that are not given have their defaults. -/
def Config.ofJson? : Decoder Config := fun r j => do
  let [site, admins, depth, extra] ← record?
    ["global_site_id", "implicit_admin_ids", "max_container_depth", "extra_checkers"] j | none
  let defaults : Config := {}
  return {
    globalSite := ← optional? uint32? defaults.globalSite r.inside site
    implicitAdmins := ← optional? (list? EntityId.ofJson?) defaults.implicitAdmins r.inside admins
    maxDepth := ← optional? (nat? Text.max64) defaults.maxDepth r.inside depth
    extraCheckers := ← optional? (map? (list? text?)) ∅ r.inside extra }

/-! ### Refusals and failures -/

/-- A refusal as an object; the parts that are not there are null. -/
def Refusal.toJson (r : Refusal) : Json :=
  .record [("operation", .text r.operation.word), ("requester", r.requester.toJson),
    ("program", r.program.toJson), ("target", .option EntityId.toJson r.target),
    ("moved", .option EntityId.toJson r.moved), ("application", .option .text r.application),
    ("field", .option (fun f => .text f.word) r.field),
    ("entity_type", .option (fun k => .text k.word) r.kind)]

/-- A failure with its kind among its members. -/
def Failure.toJson (f : Failure) : Json :=
  .record [("type", .text f.kind.word), ("code", .text f.code), ("message", .text f.message)]

/-- Reads a failure. -/
def Failure.ofJson? : Decoder Failure := fun r j => do
  let (r, kind, rest) ← tagged? "type" r j
  let kind ← Text.exactWord? FailureKind.all FailureKind.word kind
  let [code, message] ← record? ["code", "message"] rest | none
  return ⟨kind, ← required? text? r code, ← required? text? r message⟩

/-- Reads a capability. -/
def Capability.ofJson? : Decoder Capability := word? Capability.all Capability.word

/-- Reads a vote. -/
def Vote.ofJson? : Decoder Vote := word? Vote.all Vote.word

end WorldAccess
