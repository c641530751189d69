import WorldAccess.Store.Basic

/-!
# Snapshots

A snapshot is a whole world as plain data: its sites and its entities in order. Loading one into a
store registers the sites that are new and stores the entities of registered sites one by one, until
one of them cannot be stored.

## Main definitions

* `Snapshot`, `Store.snapshot`
* `Store.load` — the number of entities stored, or the first failure
-/

namespace WorldAccess

/-- A site as it is saved. -/
structure SiteRecord where
  id : SiteId
  name : String
  nextNumber : UInt64 := 0
deriving DecidableEq

/-- The sites and entities of a world as plain data. -/
structure Snapshot where
  sites : List SiteRecord := []
  entities : List Entity := []
deriving DecidableEq

namespace Store

/-- The store as plain data, in the order of ids. -/
def snapshot (s : Store) : Snapshot where
  sites := s.sites.toList.map fun (id, site) => ⟨id, site.name, site.nextNumber⟩
  entities := s.live.toList.map fun c => c.2.entity

/-- Registers the sites of a snapshot that are not yet there. -/
def loadSites (s : Store) (records : List SiteRecord) : Store :=
  records.foldl (fun s r => (s.registerSite r.id r.name).store) s

/-- Stores entities in sequence and counts them, passing over those of unknown sites, until one
cannot be stored. -/
def loadEntities (s : Store) : List Entity → Outcome (Except Failure Nat)
  | [] => { store := s, result := .ok 0 }
  | e :: rest =>
    if s.hasSite e.id.site then
      let first := s.insert e
      match first.result with
      | .error f => { store := first.store, events := first.events, result := .error f }
      | .ok _ =>
        let others := first.store.loadEntities rest
        { store := others.store
          events := first.events ++ others.events
          result := others.result.map (· + 1) }
    else s.loadEntities rest

/-- Loads a snapshot. What was stored before a failure stays. -/
def load (s : Store) (snapshot : Snapshot) : Outcome (Except Failure Nat) :=
  (s.loadSites snapshot.sites).loadEntities snapshot.entities

end Store

end WorldAccess
