import WorldAccess.Entity.Draft
import WorldAccess.Event.Basic
import WorldAccess.Failure

/-!
# The store

The store keeps the entities of registered sites under their ids. A *handle* names one stored
entity, not an id: it goes on reading and writing its entity after the entity has been deleted,
even when another one is stored under the same id. For this every entity gets a serial number when
it is stored, and deleted entities are kept as *retired*.

Every operation that changes the store tells what it announces.

## Main definitions

* `Store`, `Handle`, `Store.handle?`, `Store.read?`
* `Store.createSite`, `Store.registerSite`, `Store.deleteSite`
* `Store.insert`, `Store.create`, `Store.delete`
* `Store.edit` — the steps of a draft on the entity of a handle
-/

namespace WorldAccess

open Std

/-- A registered site. Entities created in it are numbered from `nextNumber`. -/
structure Site where
  name : String
  nextNumber : UInt64 := 1
deriving DecidableEq

/-- An entity and the serial number it was stored under. -/
structure Stored where
  serial : Nat
  entity : Entity

/-- Names one stored entity. -/
structure Handle where
  id : EntityId
  serial : Nat
deriving DecidableEq

/-- The sites and entities of a world. -/
structure Store where
  sites : ExtTreeMap SiteId Site := ∅
  live : ExtTreeMap EntityId Stored := ∅
  retired : List Stored := []
  nextSerial : Nat := 0

/-- What an operation on the store leaves behind, announces and answers. -/
structure Outcome (α : Type) where
  store : Store
  events : List Event := []
  result : α

namespace Store

/-- A store without sites. -/
def empty : Store := {}

/-! ### Reading -/

/-- The entity stored under an id. -/
def entity? (s : Store) (id : EntityId) : Option Entity := s.live[id]?.map (·.entity)

/-- The kind of the entity stored under an id. -/
def kind? (s : Store) (id : EntityId) : Option Kind := (s.entity? id).map (·.kind)

/-- A handle of the entity stored under an id. -/
def handle? (s : Store) (id : EntityId) : Option Handle :=
  if id.isValid then s.live[id]?.map fun c => ⟨id, c.serial⟩ else none

/-- The retired entity of a serial number. -/
def retired? (s : Store) (serial : Nat) : Option Entity :=
  (s.retired.find? fun c => c.serial == serial).map (·.entity)

/-- The entity of a handle, stored or retired. -/
def read? (s : Store) (h : Handle) : Option Entity :=
  match s.live[h.id]? with
  | some c => if c.serial = h.serial then some c.entity else s.retired? h.serial
  | none => s.retired? h.serial

/-- Whether a site is registered. -/
def hasSite (s : Store) (site : SiteId) : Bool := s.sites.contains site

/-- The registered sites in order. -/
def siteIds (s : Store) : List SiteId := s.sites.keys

/-- The number of stored entities. -/
def size (s : Store) : Nat := s.live.size

/-! ### Sites -/

/-- Registers a site under the number after the highest. -/
def createSite (s : Store) (name : String) : Outcome SiteId :=
  let id := s.sites.maxKey?.getD 0 + 1
  { store := { s with sites := s.sites.insert id { name } }, result := id }

/-- Registers a site under a given number, unless that is zero or taken. -/
def registerSite (s : Store) (id : SiteId) (name : String) : Outcome Bool :=
  if id = 0 ∨ s.hasSite id then { store := s, result := false }
  else { store := { s with sites := s.sites.insert id { name } }, result := true }

/-- Drops a site with every entity in it. Only the site's deletion is announced. -/
def deleteSite (s : Store) (site : SiteId) : Outcome Bool :=
  if s.hasSite site then
    let dropped := (s.live.toList.filter fun c => c.1.site == site).map Prod.snd
    { store := { s with
        sites := s.sites.erase site
        live := s.live.filter fun id _ => id.site != site
        retired := s.retired ++ dropped }
      events := [.siteDeleted site]
      result := true }
  else { store := s, result := false }

/-! ### Entities -/

/-- The failure of an operation on a site that is not registered. -/
def siteNotFound (site : SiteId) : Failure :=
  ⟨.notFound, "site_not_found",
    "site " ++ String.ofList (Text.decimal site.toNat) ++ " does not exist"⟩

/-- The failure of storing an entity under an id that names nothing. -/
def invalidId (id : EntityId) : Failure :=
  ⟨.userInput, "invalid_entity_id", "cannot store entity with id " ++ id.render⟩

/-- The failure of storing an entity under an id that is taken. -/
def idTaken (id : EntityId) : Failure :=
  ⟨.conflict, "entity_exists", "entity " ++ id.render ++ " already exists"⟩

/-- Moves a site's next number past `number`. -/
def Site.reserve (site : Site) (number : UInt64) : Site :=
  if site.nextNumber ≤ number then { site with nextNumber := number + 1 } else site

/-- Stores an entity under its own id. Its site must be registered and the id free. The number is
reserved in the site before the id is found to be taken. -/
def insert (s : Store) (e : Entity) : Outcome (Except Failure Handle) :=
  if !e.id.isValid then { store := s, result := .error (invalidId e.id) }
  else match s.sites[e.id.site]? with
  | none => { store := s, result := .error (siteNotFound e.id.site) }
  | some site =>
    let s := { s with sites := s.sites.insert e.id.site (Site.reserve site e.id.number) }
    if s.live.contains e.id then { store := s, result := .error (idTaken e.id) }
    else
      { store := { s with
          live := s.live.insert e.id ⟨s.nextSerial, e⟩
          nextSerial := s.nextSerial + 1 }
        events := [.created e.id e.kind]
        result := .ok ⟨e.id, s.nextSerial⟩ }

/-- Stores a new entity under the next number of its site. -/
def create (s : Store) (now : Timestamp) (siteId : SiteId) (kind : Kind) (name : String)
    (owner : EntityId) : Outcome (Except Failure Handle) :=
  match s.sites[siteId]? with
  | none => { store := s, result := .error (siteNotFound siteId) }
  | some site =>
    let number := max site.nextNumber 1
    let sites := s.sites.insert siteId { site with nextNumber := number + 1 }
    { s with sites }.insert (Entity.fresh now ⟨siteId, number⟩ kind name owner)

/-- Deletes the entity stored under an id; tells whether there was one. -/
def delete (s : Store) (id : EntityId) : Outcome Bool :=
  match s.live[id]? with
  | none => { store := s, result := false }
  | some c =>
    { store := { s with live := s.live.erase id, retired := s.retired ++ [c] }
      events := [.deleted id c.entity.kind]
      result := true }

/-- Puts an entity in the place of the one a handle names. -/
def write (s : Store) (h : Handle) (e : Entity) : Store :=
  if s.live[h.id]?.any (·.serial == h.serial) then
    { s with live := s.live.insert h.id ⟨h.serial, e⟩ }
  else
    { s with retired := s.retired.map fun c => if c.serial = h.serial then ⟨h.serial, e⟩ else c }

/-- Runs the steps of a draft on the entity of a handle at the moment `now` and puts it back. The
fields that were written and not taken are announced together. Nothing for a handle of no entity. -/
def edit (s : Store) (now : Timestamp) (h : Handle) (steps : List Draft.Step) :
    Outcome (Option (List Draft.Answer)) :=
  match s.read? h with
  | none => { store := s, result := none }
  | some e =>
    let (d, answers) := (Draft.ofEntity e).run now steps
    { store := s.write h d.entity
      events := if d.changes.isEmpty then [] else [.updated h.id e.kind d.changes]
      result := some answers }

end Store

end WorldAccess
