import WorldAccess.Proofs.Engine.Concealment

/-!
# Where placement counts

Where things are decides who sees them and who may carry them, and nothing else. A checker looks
around the requester for what shows a thing: its contents, its name and the fields that anybody near
may see, the properties of its applications. It looks around for moving something into a room or out
of one, and for talking to a room. No other verdict hangs on a container, of whatever entity and
however containers lie in each other: not whether a thing may be changed, given away or deleted, and
not who holds a capability.

## Main definitions

* `Entity.unplaced` — an entity taken out of its container
* `Operation.looksAround` — where placement may matter

## Main results

* `Operation.vote_unplaced` — what a vote hangs on that is cast without looking around
* `Operation.overlooks_unplaced` — what does not look around is blind to containers
* `Engine.answer_of_placement` — stores that differ in containers
-/

namespace WorldAccess

/-- An entity that is nowhere. -/
def Entity.unplaced (e : Entity) : Entity := { e with container := .none }

theorem Entity.spares_unplaced : Spares unplaced :=
  ⟨fun _ => rfl, fun _ => rfl, fun _ => rfl, fun _ => rfl, fun _ => rfl⟩

namespace Operation

/-- Whether a request is one for which a checker looks around. -/
def looksAround : Operation → Request → Bool
  | getContains, .target _ | convertIdToName, .target _ | sendTextRoom, .target _ => true
  | getEntityField, .field _ f => f == .name || f.isBase
  | getApplicationProperty, .application _ _ => true
  | transferEntity, .transfer target source => target.kind.isRoomLike != source.kind.isRoomLike
  | _, _ => false

theorem looksAround_conceal (op : Operation) (r : Request) :
    op.looksAround (r.conceal .unplaced) = op.looksAround r := by
  cases op
  all_goals cases r <;> rfl

end Operation

namespace Checker

variable {w : Surroundings} {s : Session}

/-- Fields that are shown to nobody for being near hang on rights alone. -/
theorem mayReadField_eq {e : Entity} {f : Field} (afar : (f == .name || f.isBase) = false) :
    mayReadField w s e f = (f == .id || (f != .password && w.mayUse s e .read .ignored)) := by
  cases f
  all_goals first
    | rfl
    | cases afar

end Checker

namespace Operation

/-- What is decided without looking around, and is no use of an action, hangs on the standing of the
candidates and on the capabilities that are held. It does not matter where the entities of the
request are. -/
theorem vote_unplaced {op : Operation} {w w' : Surroundings} {s s' : Session} {r : Request}
    (permits : w'.sessionPermits s' = w.sessionPermits s)
    (administers : w'.sessionAdministers s' = w.sessionAdministers s) (has : s'.has = s.has)
    (afar : op.looksAround r = false) (unused : op ≠ .useAction) :
    ∀ c ∈ op.builtin, c.vote w' s' (r.conceal .unplaced) = c.vote w s r := by
  have mayUse : w'.mayUse s' = w.mayUse s := by
    funext e wanted rule
    rw [Surroundings.mayUse, Surroundings.mayUse, permits]
  have mayAdminister : w'.mayAdminister s' = w.mayAdminister s := by
    funext e
    rw [Surroundings.mayAdminister, Surroundings.mayAdminister, administers]
  cases op
  all_goals refine List.forall_mem_singleton.mpr ?_
  case useAction => exact absurd rfl unused
  -- these look around whenever they have an opinion
  case getContains | convertIdToName | sendTextRoom =>
    cases r with
    | target e => cases afar
    | _ => rfl
  case getApplicationProperty =>
    cases r with
    | application e name => cases afar
    | _ => rfl
  case getEntityField =>
    cases r with
    | field e f =>
      simp only [Request.conceal, Checker.vote, Checker.mayReadField_eq afar, mayUse]
      rfl
    | _ => rfl
  case setEntityField =>
    cases r with
    | field e f =>
      simp only [Request.conceal, Checker.vote, Checker.mayWriteField, mayUse, mayAdminister]
      rfl
    | _ => rfl
  case setApplicationProperty | createApplication | getApplicationSecurity
      | setApplicationSecurity | deleteApplication =>
    cases r with
    | application e name =>
      simp only [Request.conceal, Checker.vote, Surroundings.mayAdministerApplication, permits,
        mayUse, administers, mayAdminister]
      rfl
    | _ => rfl
  case deleteEntity =>
    cases r with
    | target e =>
      simp only [Request.conceal, Checker.vote, has, mayAdminister]
      rfl
    | _ => rfl
  case transferEntity =>
    cases r with
    | transfer target source =>
      -- within rooms, or within what is none, it does not count that both are near
      have within : (target.kind.isRoomLike != source.kind.isRoomLike) = false := afar
      simp only [Request.conceal, Checker.vote, Checker.transferVote, Entity.unplaced, within,
        Bool.false_and, Bool.false_or, mayAdminister]
      rfl
    | _ => rfl
  case createEntity =>
    cases r with
    | kind k => simp only [Request.conceal, Checker.vote, Checker.createEntityVote, has]
    | _ => rfl
  case findByNameRelative => cases r <;> rfl
  -- the others look for one capability
  all_goals
    cases r with
    | global | target => exact congrArg Vote.ofBool (congrFun has _)
    | _ => rfl

/-- What does not look around is blind to containers. -/
theorem overlooks_unplaced {op : Operation} {w : Surroundings} {s : Session} {r : Request}
    (afar : op.looksAround r = false) : op.Overlooks .unplaced w s r := by
  have groups : w.store.SameGroups (w.conceal .unplaced).store :=
    Store.sameGroups_conceal Entity.spares_unplaced w.store
  by_cases used : op = .useAction
  · -- the requester is looked up, but only for who they are and for their properties
    subst used
    refine List.forall_mem_singleton.mpr ?_
    cases r with
    | target e => exact Checker.useActionVote_conceal Entity.spares_unplaced rfl (fun _ => rfl) rfl
    | _ => rfl
  · exact vote_unplaced groups.sessionPermits groups.sessionAdministers rfl afar used

end Operation

namespace Engine

variable {e : Engine} {a b : Store} {r r' : Option Request}

/-- An engine with default chains answers alike over two stores that differ in the containers of
entities, unless what is asked is one of the few things for which a checker looks around. -/
theorem answer_of_placement (plain : e.AppendsNothing) (same : SameBut .unplaced a b r r')
    {op : Operation} (afar : ∀ x ∈ r, op.looksAround x = false) (s : Session) (raising : Bool) :
    e.answer b s op r' raising = e.answer a s op r raising := by
  have afar' : ∀ x ∈ r', op.looksAround x = false :=
    same.forall_mem op.looksAround_conceal afar
  exact same.answer plain Entity.spares_unplaced
    (fun x among _ _ => Operation.overlooks_unplaced (afar x among))
    (fun x among _ _ => Operation.overlooks_unplaced (afar' x among)) raising

/-- A crate that lies somewhere. -/
def crate (place : EntityId) : Entity :=
  { Entity.fresh .epoch ⟨2, 2⟩ .entity "crate" ⟨2, 1⟩ with container := place }

/-- A store with two players, one of whom has the crate. -/
def crateStore (place : EntityId) : Store :=
  let s := (Store.empty.registerSite 2 "main").store
  let s := (s.create .epoch 2 .player "porter" .none).store
  let s := (s.insert (crate place)).store
  (s.create .epoch 2 .player "idler" .none).store

/-- A new session of the player who has the crate. -/
def porter : Session := .forRequester ⟨2, 1⟩

/-- A new session of the other player. -/
def idler : Session := .forRequester ⟨2, 3⟩

theorem answer_of_placement_crate :
    (answer {} (crateStore ⟨2, 2⟩) porter .setEntityField (some (.field (crate ⟨2, 2⟩) .owner))
        true).2.2 = .ok true ∧
      (answer {} (crateStore ⟨2, 3⟩) idler .setEntityField (some (.field (crate ⟨2, 3⟩) .note))
        true).2.2 ≠ .ok true ∧
      (evaluate {} (crateStore ⟨2, 3⟩) idler .getContains (.target (crate ⟨2, 3⟩))).2.2 ≠
        (evaluate {} (crateStore ⟨7, 1⟩) idler .getContains (.target (crate ⟨7, 1⟩))).2.2 := by
  have plain : ({} : Engine).AppendsNothing := appendsNothing_of_empty rfl rfl
  -- the crate lies in itself or nowhere, and with the other player or in another site
  have own : SameBut .unplaced (crateStore .none) (crateStore ⟨2, 2⟩)
      (some (.field (crate .none) .owner)) (some (.field (crate ⟨2, 2⟩) .owner)) :=
    ⟨.of_records (by decide +kernel) (by decide +kernel), rfl⟩
  have carried : SameBut .unplaced (crateStore ⟨7, 1⟩) (crateStore ⟨2, 3⟩)
      (some (.field (crate ⟨7, 1⟩) .note)) (some (.field (crate ⟨2, 3⟩) .note)) :=
    ⟨.of_records (by decide +kernel) (by decide +kernel), rfl⟩
  refine ⟨?_, ?_, ?_⟩
  · rw [answer_of_placement plain own (by simp [Operation.looksAround]), answer_eq_ok_true_iff]
    decide +kernel
  · rw [answer_of_placement plain carried (by simp [Operation.looksAround]), Ne,
      answer_eq_ok_true_iff]
    decide +kernel
  · -- the other player looks into what they carry
    decide +kernel

end Engine

end WorldAccess
