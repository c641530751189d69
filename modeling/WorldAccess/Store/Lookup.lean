import WorldAccess.Store.Basic
import WorldAccess.Text.Composition

/-!
# Looking entities up

By id, where an id that names nothing finds nothing; by name, within one site and without regard to
case and to the form in which accents are written; and by container. Lists are in the order of ids.

## Main definitions

* `Store.get?`, `Store.containerOf`, `Store.isGroup`, `Store.isMember`
* `Store.find` — the entities of a site with a name, or whose name begins with a text
* `Store.contents` — the entities in a container
-/

namespace WorldAccess.Store

/-- The entity stored under an id, if the id is valid. -/
def get? (s : Store) (id : EntityId) : Option Entity := if id.isValid then s.entity? id else none

/-- The container of the entity stored under an id; none of an unknown entity. -/
def containerOf (s : Store) (id : EntityId) : EntityId :=
  ((s.get? id).map (·.container)).getD .none

/-- Whether a group or a capability is stored under an id. -/
def isGroup (s : Store) (id : EntityId) : Bool := (s.get? id).any (·.kind.isGroup)

/-- Whether `member` is an enabled member of the entity stored under `group`. -/
def isMember (s : Store) (group member : EntityId) : Bool := (s.get? group).any (·.hasMember member)

/-- The entities of a site in the order of their ids. -/
def inSite (s : Store) (site : SiteId) : List Entity :=
  (s.live.toList.filter fun c => c.1.site == site).map fun c => c.2.entity

/-- Whether an entity's name is found by the folded text `wanted`, as a whole or by its beginning.
-/
def nameHit (wanted : List Char) (exact : Bool) (e : Entity) : Bool :=
  let name := Text.fold e.name
  if exact then name == wanted else wanted.isPrefixOf name

/-- The entities of a site that are not marked deleted and have the name, or with `exact` off a name
that begins with it. A blank name finds nothing. -/
def find (s : Store) (site : SiteId) (kind : Option Kind) (name : String) (exact : Bool) :
    List EntityId :=
  let wanted := Text.fold name
  if wanted.isEmpty then []
  else ((s.inSite site).filter fun e =>
    kind.all (· == e.kind) && nameHit wanted exact e && !e.deleted).map (·.id)

/-- The entities of the container's own site that lie in it. -/
def contents (s : Store) (container : EntityId) : List EntityId :=
  ((s.inSite container.site).filter fun e => e.container == container).map (·.id)

end WorldAccess.Store
