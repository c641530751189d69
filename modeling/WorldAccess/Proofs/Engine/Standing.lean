import WorldAccess.Engine.Standing

/-!
# Groups in permission records

A permission record may list groups, and then it is read together with the store. It says the same
as a longer record that is read alone: the record *spelled out*, in which every listed group is
followed by its enabled members. A group among those members stands in the longer record like any
other id and is not spelled out in turn. So what the record grants hangs on the rosters of the ids
that it lists itself, and on no other entity.

## Main definitions

* `Store.enrolled` — the enabled members of a stored entity
* `Store.spelledOut`, `Permissions.spelledOut` — a list and a record with their groups spelled out
* `Store.StandsFor` — an id in a list stands for itself and for the enabled members of a group

## Main results

* `Store.covers_iff` — what a list covers stands in the list spelled out
* `Store.entitles_iff`, `Store.administers_iff` — who has a right by name, and who is an admin
* `Store.permits_eq_allows` — a record read with the store is the longer record read alone
-/

namespace WorldAccess

/-- The enabled members of a roster are those that it counts. -/
theorem Roster.mem_enabled {r : Roster} {id : EntityId} :
    id ∈ r.enabled ↔ r.hasMember id = true := by
  simp [enabled, hasMember]

namespace Store

variable {s s' : Store} {ids : List EntityId} {id group candidate : EntityId}

/-- The enabled members of the entity stored under an id; none of one without a roster. -/
def enrolled (s : Store) (group : EntityId) : List EntityId :=
  (((s.get? group).bind (·.group)).map (·.enabled)).getD []

/-- A list of ids, followed by the enabled members of those among them that are stored groups or
capabilities. -/
def spelledOut (s : Store) (ids : List EntityId) : List EntityId :=
  ids ++ (ids.filter s.isGroup).flatMap s.enrolled

theorem mem_enrolled : candidate ∈ s.enrolled group ↔ s.isMember group candidate = true := by
  unfold enrolled isMember
  cases s.get? group with
  | none => simp
  | some e =>
    rw [Option.bind_some, Option.any_some, Entity.hasMember]
    cases e.group with
    | none => simp
    | some r => exact Roster.mem_enabled

theorem mem_spelledOut :
    candidate ∈ s.spelledOut ids ↔
      candidate ∈ ids ∨
        ∃ group ∈ ids, s.isGroup group = true ∧ s.isMember group candidate = true := by
  simp only [spelledOut, List.mem_append, List.mem_flatMap, List.mem_filter, mem_enrolled,
    and_assoc]

/-- What a list covers stands in the list spelled out. -/
theorem covers_iff : s.covers ids candidate = true ↔ candidate ∈ s.spelledOut ids := by
  rw [mem_spelledOut, covers, Bool.or_eq_true, List.contains_iff_mem, List.any_eq_true]
  constructor
  · intro covered
    rcases covered with listed | ⟨group, listed, through⟩
    · exact Or.inl listed
    · rw [Bool.and_eq_true, Bool.and_eq_true] at through
      exact Or.inr ⟨group, listed, through.1.1, through.2⟩
  · intro spelled
    rcases spelled with listed | ⟨group, listed, isGroup, member⟩
    · exact Or.inl listed
    · by_cases own : group = candidate
      · -- a group that is a member of itself is passed over, but then it is listed by its id
        exact Or.inl (own ▸ listed)
      · exact Or.inr ⟨group, listed, by simp [isGroup, own, member]⟩

theorem covers_eq (s : Store) (ids : List EntityId) (candidate : EntityId) :
    s.covers ids candidate = (s.spelledOut ids).contains candidate := by
  rw [Bool.eq_iff_iff, List.contains_iff_mem]
  exact covers_iff

/-- Whether an id in a list stands for a candidate: it is the candidate, or it is a stored group or
capability that the candidate is an enabled member of. -/
def StandsFor (s : Store) (id candidate : EntityId) : Prop :=
  candidate = id ∨ s.isGroup id = true ∧ s.isMember id candidate = true

theorem covers_iff_standsFor :
    s.covers ids candidate = true ↔ ∃ id ∈ ids, s.StandsFor id candidate := by
  rw [covers_iff, mem_spelledOut]
  constructor
  · rintro (listed | ⟨group, listed, through⟩)
    · exact ⟨candidate, listed, Or.inl rfl⟩
    · exact ⟨group, listed, Or.inr through⟩
  · rintro ⟨id, listed, rfl | through⟩
    · exact Or.inl listed
    · exact Or.inr ⟨id, listed, through⟩

/-- What a list covers hangs on the entities that it lists. -/
theorem covers_congr (same : ∀ id ∈ ids, s'.get? id = s.get? id) (candidate : EntityId) :
    s'.covers ids candidate = s.covers ids candidate := by
  rw [Bool.eq_iff_iff, covers_iff, covers_iff, mem_spelledOut, mem_spelledOut]
  apply or_congr Iff.rfl
  apply exists_congr
  intro group
  apply and_congr_right
  intro listed
  rw [isGroup, isGroup, isMember, isMember, same group listed]

end Store

/-- A permission record with the groups in both of its lists spelled out. -/
def Permissions.spelledOut (p : Permissions) (s : Store) : Permissions :=
  { p with admins := s.spelledOut p.admins, listed := s.spelledOut p.listed }

namespace Store

variable {s s' : Store} {p : Permissions} {candidate : EntityId}

/-- A candidate has the wanted right by name as the owner, through the admins, or through the list
if the list rights grant it. -/
theorem entitles_iff {owner : EntityId} {wanted : Rights} {rule : BasicRule} :
    s.entitles owner p wanted rule candidate = true ↔
      candidate.isValid = true ∧
        (candidate = owner ∨ (∃ id ∈ p.admins, s.StandsFor id candidate) ∨
          p.listRights.grant wanted rule = true ∧ ∃ id ∈ p.listed, s.StandsFor id candidate) := by
  simp only [entitles, Bool.and_eq_true, Bool.or_eq_true, beq_iff_eq, covers_iff_standsFor,
    or_assoc]

theorem administers_iff {owner first : EntityId} {second : Option EntityId} :
    s.administers owner p first second = true ↔
      ∃ c ∈ first :: second.toList,
        c.isValid = true ∧ (c = owner ∨ ∃ id ∈ p.admins, s.StandsFor id c) := by
  simp only [administers, List.any_eq_true, Bool.and_eq_true, Bool.or_eq_true, beq_iff_eq,
    covers_iff_standsFor]

theorem entitles_eq (s : Store) (owner : EntityId) (p : Permissions) (wanted : Rights)
    (rule : BasicRule) (candidate : EntityId) :
    s.entitles owner p wanted rule candidate =
      (p.spelledOut s).names owner wanted rule candidate := by
  rw [entitles, Permissions.names, covers_eq, covers_eq]
  congr 2
  exact Bool.and_comm _ _

/-- Reading a permission record with the store is reading the record alone in which the enabled
members of every listed group stand beside the group. An id that names nothing has no standing by
name. And a store in which the listed ids are what they are, whatever has become of the groups among
the members of listed groups, gives the same answers. -/
theorem permits_eq_allows (s : Store) (owner : EntityId) (p : Permissions) (wanted : Rights)
    (first : EntityId) (second : Option EntityId) (rule : BasicRule) :
    s.permits owner p wanted first second rule =
        (p.spelledOut s).allows owner wanted first second rule ∧
      s.administers owner p first second = (p.spelledOut s).isAdmin owner first second ∧
      (∀ candidate : EntityId, candidate.isValid = false →
        s.entitles owner p wanted rule candidate = false ∧
          s.administers owner p candidate none = false) ∧
      ∀ s' : Store, (∀ id ∈ p.admins ++ p.listed, s'.get? id = s.get? id) →
        s'.permits owner p wanted first second rule = s.permits owner p wanted first second rule ∧
          s'.administers owner p first second = s.administers owner p first second := by
  refine ⟨?_, ?_, ?_, ?_⟩
  · have candidates : s.entitles owner p wanted rule =
        (p.spelledOut s).names owner wanted rule := funext (s.entitles_eq owner p wanted rule)
    rw [permits, candidates]
    rfl
  · rw [administers, Permissions.isAdmin]
    congr 1
    funext candidate
    rw [covers_eq]
    rfl
  · intro candidate invalid
    constructor
    · rw [entitles, invalid, Bool.false_and]
    · simp [administers, invalid]
  · intro s' same
    -- a list covers by what the store has under the listed ids
    have admins : s'.covers p.admins = s.covers p.admins := by
      funext candidate
      apply covers_congr
      intro id listed
      exact same id (List.mem_append_left _ listed)
    have listed : s'.covers p.listed = s.covers p.listed := by
      funext candidate
      apply covers_congr
      intro id listed
      exact same id (List.mem_append_right _ listed)
    constructor
    · have entitled : s'.entitles owner p wanted rule = s.entitles owner p wanted rule := by
        funext candidate
        rw [entitles, entitles, admins, listed]
      rw [permits, permits, entitled]
    · rw [administers, administers, admins]

/-- A store with a player who belongs to an inner group, which belongs to an outer group. -/
def nestedStore : Store :=
  let s := (Store.empty.registerSite 2 "main").store
  let s := (s.create .epoch 2 .player "smith" .none).store
  let s := (s.create .epoch 2 .group "inner" .none).store
  let s := (s.create .epoch 2 .group "outer" .none).store
  let s := (s.edit .epoch ⟨⟨2, 2⟩, 1⟩ [.edit (.addMember ⟨2, 1⟩)]).store
  (s.edit .epoch ⟨⟨2, 3⟩, 2⟩ [.edit (.addMember ⟨2, 2⟩), .edit (.addMember ⟨2, 3⟩)]).store

/-- The same store after the player has left the inner group. -/
def leftStore : Store :=
  (nestedStore.edit .epoch ⟨⟨2, 2⟩, 1⟩ [.edit (.removeMember ⟨2, 1⟩)]).store

/-- A record that lists the outer group among the admins. -/
def outerAdmins : Permissions := { admins := [⟨2, 3⟩] }

theorem permits_eq_allows_nested :
    nestedStore.spelledOut outerAdmins.admins = [⟨2, 3⟩, ⟨2, 2⟩, ⟨2, 3⟩] ∧
      nestedStore.permits .none outerAdmins .write ⟨2, 1⟩ (some ⟨2, 2⟩) .ignored =
        (outerAdmins.spelledOut nestedStore).allows .none .write ⟨2, 1⟩ (some ⟨2, 2⟩) .ignored ∧
      nestedStore.administers .none outerAdmins .none none = false ∧
      leftStore.permits .none outerAdmins .write ⟨2, 1⟩ none .ignored =
        nestedStore.permits .none outerAdmins .write ⟨2, 1⟩ none .ignored := by
  have outer : ∀ id ∈ outerAdmins.admins ++ outerAdmins.listed,
      leftStore.get? id = nestedStore.get? id := by
    intro id listed
    obtain rfl : id = ⟨2, 3⟩ := by simpa [outerAdmins] using listed
    decide +kernel
  refine ⟨by decide +kernel, ?_, ?_, ?_⟩
  · exact (permits_eq_allows nestedStore .none outerAdmins .write ⟨2, 1⟩ (some ⟨2, 2⟩) .ignored).1
  · exact ((permits_eq_allows nestedStore .none outerAdmins .write .none none .ignored).2.2.1 .none
      (by decide)).2
  · exact ((permits_eq_allows nestedStore .none outerAdmins .write ⟨2, 1⟩ none .ignored).2.2.2
      leftStore outer).1

end Store

end WorldAccess
