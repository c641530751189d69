import WorldAccess.Store.Lookup

/-!
# Locality

An entity is *local* to another when that one would notice it: it is the same, or its container, or
in the same container, or carried, or a region around the container. An action is local where the
entity it is attached to is. Where things are is read from the store by id.

## Main definitions

* `Store.encloses` — the bounded walk from a container through regions
* `Store.isLocal` — whether one entity is local to another
* `Store.isLocalThroughContainer` — itself or through the container it lies in
-/

namespace WorldAccess.Store

/-- Walks up from `current` through regions for at most `depth` containers, looking for `region`. -/
def walk (s : Store) (region : EntityId) : Nat → EntityId → Bool
  | 0, _ => false
  | depth + 1, current =>
    match s.get? current with
    | none => false
    | some e =>
      if !e.container.isValid then false
      else if e.container == region then true
      else match s.get? e.container with
        | none => false
        | some parent => if parent.kind.isRegion then s.walk region depth e.container else false

/-- Whether `region` is met on the way up from `start` through regions. -/
def encloses (s : Store) (depth : Nat) (region start : EntityId) : Bool :=
  start.isValid && s.walk region depth start

/-- Whether an action is local to `source`: attached to its container or to itself, to something in
its container or carried by it, or to a region around its container. -/
def isActionLocal (s : Store) (depth : Nat) (source action : Entity) (inventory : Bool) : Bool :=
  let room := source.container
  let attached := action.container
  if !attached.isValid then false
  else if attached == room || attached == source.id then true
  else match s.get? attached with
    | none => false
    | some holder =>
      (room.isValid && holder.container == room)
        || (inventory && holder.container == source.id)
        || (holder.kind.isRegion && s.encloses depth holder.id room)

/-- Whether something other than an action is local to `source`: in the same container, carried by
it when `inventory` counts, or a region around its container. -/
def isThingLocal (s : Store) (depth : Nat) (source target : Entity) (inventory : Bool) : Bool :=
  let room := source.container
  (room.isValid && target.container == room)
    || (inventory && target.container == source.id)
    || (target.kind.isRegion && s.encloses depth target.id room)

/-- Whether the entity under `target` is local to the one under `source`. -/
def isLocal (s : Store) (depth : Nat) (source target : EntityId) (inventory : Bool) : Bool :=
  match s.get? source, s.get? target with
  | some src, some tgt =>
    if src.id == tgt.id then true
    else if src.container.isValid && tgt.id == src.container then true
    else if tgt.kind.isAction then s.isActionLocal depth src tgt inventory
    else s.isThingLocal depth src tgt inventory
  | _, _ => false

/-- Whether the entity under `target` is local, or lies in a container that is. Only entities with
properties count through their container, and only through the nearest. -/
def isLocalThroughContainer (s : Store) (depth : Nat) (source target : EntityId)
    (inventory : Bool) : Bool :=
  s.isLocal depth source target inventory ||
    match s.get? target with
    | none => false
    | some tgt =>
      !tgt.kind.isAction && tgt.kind.hasProperties && tgt.container.isValid
        && s.isLocal depth source tgt.container inventory

end WorldAccess.Store
