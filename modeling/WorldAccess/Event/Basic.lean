import WorldAccess.Entity.Kind
import WorldAccess.Entity.Id

/-!
# Events and interests

The store announces what happens in it: an entity was created, updated or deleted, or a site was
deleted as a whole. A subscriber states its *interest* in some of these.

## Main definitions

* `Event`, `EntityChange`
* `Interest`, `Interest.covers`
* `Interest.scopedSite?` — the site whose deletion ends a subscription
-/

namespace WorldAccess

/-- What happened to an entity. -/
inductive ChangeAction where
  | created
  | updated
  | deleted
deriving DecidableEq

/-- Every action, as declared. -/
def ChangeAction.all : List ChangeAction := [.created, .updated, .deleted]

/-- The word for an action. -/
def ChangeAction.word : ChangeAction → String
  | .created => "created"
  | .updated => "updated"
  | .deleted => "deleted"

/-- A change of one entity. Only an update has fields. -/
structure EntityChange where
  id : EntityId
  kind : Kind
  action : ChangeAction
  fields : FieldSet := ∅
deriving DecidableEq

/-- Something that happened in the store. -/
inductive Event where
  | entityChanged (change : EntityChange)
  | siteDeleted (site : SiteId)
deriving DecidableEq

namespace Event

/-- The event of a stored entity's creation. -/
def created (id : EntityId) (kind : Kind) : Event := .entityChanged ⟨id, kind, .created, ∅⟩

/-- The event of a stored entity's deletion. -/
def deleted (id : EntityId) (kind : Kind) : Event := .entityChanged ⟨id, kind, .deleted, ∅⟩

/-- The event of an edit that wrote the given fields. -/
def updated (id : EntityId) (kind : Kind) (fields : FieldSet) : Event :=
  .entityChanged ⟨id, kind, .updated, fields⟩

/-- The site an event belongs to. -/
def site : Event → SiteId
  | entityChanged c => c.id.site
  | siteDeleted s => s

end Event

/-- What a subscriber wants to hear. Empty lists stand for everything. -/
inductive Interest where
  | entityChanged (kinds : List Kind) (fields : List Field) (site : Option SiteId)
  | siteDeleted
deriving DecidableEq

namespace Interest

/-- Whether an event is one of those asked for. The fields only narrow updates: creation and
deletion touch every field. -/
def covers : Interest → Event → Bool
  | entityChanged kinds fields site, .entityChanged c =>
    site.all (· == c.id.site) && (kinds.isEmpty || kinds.contains c.kind)
      && (c.action != .updated || fields.isEmpty || fields.any c.fields.contains)
  | siteDeleted, .siteDeleted _ => true
  | _, _ => false

/-- The site an interest is limited to. -/
def scopedSite? : Interest → Option SiteId
  | entityChanged _ _ site => site
  | siteDeleted => none

end Interest

end WorldAccess
