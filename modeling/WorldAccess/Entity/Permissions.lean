import WorldAccess.Entity.Id
import WorldAccess.Entity.Rights

/-!
# Permission records

A permission record names *admins*, who have full standing, and *listed* ids, who have the list
rights; everybody else has the other rights. No id is in both lists, and each list holds at most
twenty ids. The owner stands outside the record and counts as an admin.

## Main definitions

* `Permissions`, `Permissions.make`
* `addAdmin`, `addToList`, `removeAdmin`, `removeFromList` — each with whether it was done
* `Permissions.change` — any of these, or a change of the rights
* `Permissions.allows`, `Permissions.isAdmin` — the record's own answer, groups left aside
-/

namespace WorldAccess

/-- Who may do what to one entity or application. -/
structure Permissions where
  listRights : Rights := .empty
  otherRights : Rights := .empty
  admins : List EntityId := []
  listed : List EntityId := []
deriving DecidableEq

namespace Permissions

/-- The most ids either list may hold. -/
def capacity : Nat := 20

/-- A record with the given rights and nobody in its lists. -/
def make (listRights otherRights : Rights) : Permissions := { listRights, otherRights }

instance : Inhabited Permissions := ⟨{}⟩

/-- Makes `id` an admin and takes it off the list. Refused for an invalid id, and when the admins
are complete and `id` is not one of them. -/
def addAdmin (p : Permissions) (id : EntityId) : Permissions × Bool :=
  if !id.isValid then (p, false)
  else if id ∈ p.admins then (p, true)
  else if capacity ≤ p.admins.length then (p, false)
  else ({ p with admins := p.admins ++ [id], listed := p.listed.filter (· ≠ id) }, true)

/-- Puts `id` on the list and takes it from the admins. Refused for an invalid id, and when the
list is complete and `id` is not on it. -/
def addToList (p : Permissions) (id : EntityId) : Permissions × Bool :=
  if !id.isValid then (p, false)
  else if id ∈ p.listed then (p, true)
  else if capacity ≤ p.listed.length then (p, false)
  else ({ p with admins := p.admins.filter (· ≠ id), listed := p.listed ++ [id] }, true)

/-- Takes `id` from the admins; not done when it is none. -/
def removeAdmin (p : Permissions) (id : EntityId) : Permissions × Bool :=
  ({ p with admins := p.admins.filter (· ≠ id) }, decide (id ∈ p.admins))

/-- Takes `id` off the list; not done when it is not on it. -/
def removeFromList (p : Permissions) (id : EntityId) : Permissions × Bool :=
  ({ p with listed := p.listed.filter (· ≠ id) }, decide (id ∈ p.listed))

/-- One change of a record: of the rights, or of who is in the lists. -/
inductive Change where
  | setListRights (rights : Rights)
  | setOtherRights (rights : Rights)
  | addAdmin (id : EntityId)
  | addToList (id : EntityId)
  | removeAdmin (id : EntityId)
  | removeFromList (id : EntityId)

/-- The record after a change, and whether it was done. -/
def change (p : Permissions) : Change → Permissions × Bool
  | .setListRights listRights => ({ p with listRights }, true)
  | .setOtherRights otherRights => ({ p with otherRights }, true)
  | .addAdmin id => p.addAdmin id
  | .addToList id => p.addToList id
  | .removeAdmin id => p.removeAdmin id
  | .removeFromList id => p.removeFromList id

theorem mem_admins_addAdmin {p : Permissions} {id : EntityId} (h : (p.addAdmin id).2 = true) :
    id ∈ (p.addAdmin id).1.admins := by
  grind [addAdmin]

theorem notMem_admins_removeAdmin (p : Permissions) (id : EntityId) :
    id ∉ (p.removeAdmin id).1.admins := by
  simp [removeAdmin]

/-- Whether one candidate has the wanted right by name: as owner, as admin, or on the list. -/
def names (p : Permissions) (owner : EntityId) (wanted : Rights) (rule : BasicRule)
    (candidate : EntityId) : Bool :=
  candidate.isValid &&
    (candidate == owner || p.admins.contains candidate
      || (p.listed.contains candidate && p.listRights.grant wanted rule))

/-- Whether the candidates have the wanted right: one of them by name, or as anybody has it. -/
def allows (p : Permissions) (owner : EntityId) (wanted : Rights) (first : EntityId)
    (second : Option EntityId) (rule : BasicRule) : Bool :=
  (first :: second.toList).any (p.names owner wanted rule) || p.otherRights.grant wanted rule

/-- Whether a candidate is the owner or an admin, whatever the rights. -/
def isAdmin (p : Permissions) (owner : EntityId) (first : EntityId)
    (second : Option EntityId) : Bool :=
  (first :: second.toList).any fun c => c.isValid && (c == owner || p.admins.contains c)

end Permissions

end WorldAccess
