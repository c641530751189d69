import WorldAccess.Engine.Operation
import WorldAccess.Event.Bus
import WorldAccess.Store.Lookup

/-!
# Grant lists and their watch

In each site a capability is backed by the one capability entity of its name. Whoever is an enabled
member of that entity, or of a group that is, holds the capability. The *grant list* of a site and a
capability is the backing entity followed by those of its enabled members that are groups. Lists are
filled when they are asked for and kept until they are cleared; an empty list stands for one that is
not filled.

The *watch* keeps the lists true to the store: it hears of changes to capability entities and of
deleted sites and clears what they concern. A subscription that the bus takes from it is replaced.

## Main definitions

* `GrantLists`, `GrantLists.resolve`, `GrantLists.groupsFor`
* `GrantLists.forgetEntity`, `GrantLists.forgetSite`
* `Watch`, `Watch.register`, `Watch.unregister`, `Watch.onRemoved`, `GrantLists.onEvent`
-/

namespace WorldAccess

open Std

/-- The lists of one site, one for each capability. -/
abbrev SiteGrants := Vector (List EntityId) Capability.count

/-- The grant lists of the sites that have been asked for. -/
structure GrantLists where
  sites : ExtTreeMap SiteId SiteGrants := ∅

namespace GrantLists

/-- The list kept for a site and a capability; empty when none is. -/
def kept (g : GrantLists) (site : SiteId) (c : Capability) : List EntityId :=
  match g.sites[site]? with
  | some lists => lists[c.index]
  | none => []

/-- Whether a site has been asked for. -/
def hasSite (g : GrantLists) (site : SiteId) : Bool := g.sites.contains site

/-- The grant list that the store calls for. It is empty unless exactly one capability entity of the
site has the capability's name. -/
def resolve (store : Store) (site : SiteId) (c : Capability) : List EntityId :=
  match store.find site (some .capability) c.entityName true with
  | [backing] =>
    match store.get? backing with
    | none => []
    | some e => backing :: ((e.group.map (·.enabled)).getD []).filter store.isGroup
  | _ => []

/-- The grant list of a site and a capability, filled if it is empty. -/
def groupsFor (g : GrantLists) (store : Store) (site : SiteId) (c : Capability) :
    GrantLists × List EntityId :=
  let lists := g.sites[site]?.getD (Vector.replicate Capability.count [])
  let list := lists[c.index]
  if list.isEmpty then
    let found := resolve store site c
    (⟨g.sites.insert site (lists.set c.index found)⟩, found)
  else (g, list)

/-- Whether an id heads a list. -/
def heads (id : EntityId) (list : List EntityId) : Bool := list.head? == some id

/-- Clears the lists of the id's site that it heads, and counts them. -/
def forgetEntity (g : GrantLists) (id : EntityId) : GrantLists × Nat :=
  match g.sites[id.site]? with
  | none => (g, 0)
  | some lists =>
    (⟨g.sites.insert id.site (lists.map fun list => if heads id list then [] else list)⟩,
      lists.toList.countP (heads id))

/-- Drops the lists of a site; tells whether there were any. -/
def forgetSite (g : GrantLists) (site : SiteId) : GrantLists × Bool :=
  (⟨g.sites.erase site⟩, g.hasSite site)

/-- What an event clears. -/
def onEvent (g : GrantLists) : Event → GrantLists
  | .entityChanged c => if c.kind = .capability then (g.forgetEntity c.id).1 else g
  | .siteDeleted site => (g.forgetSite site).1

end GrantLists

/-- The subscriptions by which the grant lists are kept true, with the interest of each. -/
structure Watch where
  entries : ExtTreeMap SubscriptionId Interest := ∅

namespace Watch

variable {L : Type}

/-- Changes of capability entities that bear on a grant list. -/
def membership : Interest :=
  .entityChanged [.capability] [.groupIds, .groupDisabledIds, .name] none

/-- Takes up a subscription for the listener `me`. -/
def subscribe (w : Watch) (bus : Bus L) (me : L) (interest : Interest) : Watch × Bus L :=
  let (bus, id) := bus.subscribe interest me
  (⟨w.entries.insert id interest⟩, bus)

/-- A watch over capability entities and over the deletion of sites. -/
def register (bus : Bus L) (me : L) : Watch × Bus L :=
  let (w, bus) := ({} : Watch).subscribe bus me membership
  w.subscribe bus me .siteDeleted

/-- The subscriptions of the watch, lowest first. -/
def ids (w : Watch) : List SubscriptionId := w.entries.keys

/-- Gives every subscription up. -/
def unregister (w : Watch) (bus : Bus L) : Watch × Bus L :=
  ({}, w.ids.foldl (fun bus id => (bus.unsubscribe id).1) bus)

/-- Replaces a subscription of the watch that the bus has removed. -/
def onRemoved (w : Watch) (bus : Bus L) (me : L) (id : SubscriptionId) : Watch × Bus L :=
  match w.entries[id]? with
  | none => (w, bus)
  | some interest => (⟨w.entries.erase id⟩ : Watch).subscribe bus me interest

end Watch

end WorldAccess
