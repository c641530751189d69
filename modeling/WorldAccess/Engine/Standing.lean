import WorldAccess.Store.Lookup

/-!
# Standing by permission record

A permission record may list groups, which stand for their enabled members. One such step counts:
groups in listed groups do not.

## Main definitions

* `Store.covers` — whether a list covers a candidate
* `Store.permits` — whether the candidates have a right by a record
* `Store.administers` — whether one of them is the owner or an admin
-/

namespace WorldAccess.Store

/-- Whether a list covers a candidate: by its id, or by a listed group it is a member of. -/
def covers (s : Store) (ids : List EntityId) (candidate : EntityId) : Bool :=
  ids.contains candidate ||
    ids.any fun id => s.isGroup id && id != candidate && s.isMember id candidate

/-- Whether one candidate has the wanted right by name or through a listed group. -/
def entitles (s : Store) (owner : EntityId) (p : Permissions) (wanted : Rights)
    (rule : BasicRule) (candidate : EntityId) : Bool :=
  candidate.isValid &&
    (candidate == owner || s.covers p.admins candidate
      || (p.listRights.grant wanted rule && s.covers p.listed candidate))

/-- Whether the candidates have the wanted right: one of them is entitled, or anybody is. -/
def permits (s : Store) (owner : EntityId) (p : Permissions) (wanted : Rights)
    (first : EntityId) (second : Option EntityId) (rule : BasicRule) : Bool :=
  (first :: second.toList).any (s.entitles owner p wanted rule) || p.otherRights.grant wanted rule

/-- Whether a candidate is the owner or an admin, itself or through a listed group. -/
def administers (s : Store) (owner : EntityId) (p : Permissions) (first : EntityId)
    (second : Option EntityId) : Bool :=
  (first :: second.toList).any fun c => c.isValid && (c == owner || s.covers p.admins c)

end WorldAccess.Store
