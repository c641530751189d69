import WorldAccess.Proofs.Engine.Concealment

/-!
# Which rights verdicts hang on

A checker reads the rights of a permission record to look for one right, seeing or changing, and
BASIC besides where that may stand in for seeing. So no verdict hangs on CHOWN, nor on a bit that
has no name. BASIC matters for using an action, and near the requester for the fields that anybody
may see there and for the properties of applications. Where an operation goes by standing, as giving
an entity away and deleting it do, no bit matters at all.

## Main definitions

* `Entity.withoutRights` — some bits taken out of every record of an entity
* `Operation.rightAsked?` — what an operation looks for among the rights
* `Operation.heedsBasic`, `Operation.goesByStanding` — where BASIC may matter, and where no bit does

## Main results

* `Rights.grant_without` — bits that are not looked for can be taken out
* `Operation.overlooks_withoutRights` — an operation is blind to rights that it does not look for
* `Engine.answer_of_rights` — stores that differ in rights, by what they differ in
-/

namespace WorldAccess

open Std

variable {bits wanted : Rights} {rule : BasicRule}

/-! ### Taking bits out -/

namespace Rights

/-- Every bit. -/
def full : Rights := ⟨0xFF⟩

/-- The bits that nothing looks for: CHOWN, and those without a name. -/
def idle : Rights := full.without (read.union (write.union basic))

/-- Whether looking for a right, by a rule for BASIC, passes over some bits. -/
structure PassesOver (bits wanted : Rights) (rule : BasicRule) : Prop where
  wanted : wanted.without bits = wanted
  basic : rule = .counts → basic.without bits = basic

theorem includes_without (apart : wanted.without bits = wanted) (granted : Rights) :
    (granted.without bits).includes wanted = granted.includes wanted := by
  -- what is wanted lies outside the bits that are taken out
  have disjoint : ~~~bits.bits &&& wanted.bits = wanted.bits := by
    rw [UInt8.and_comm]
    exact congrArg Rights.bits apart
  rw [includes, without, includes, UInt8.and_assoc, disjoint]

theorem grant_without (passes : PassesOver bits wanted rule) (granted : Rights) :
    (granted.without bits).grant wanted rule = granted.grant wanted rule := by
  rw [grant, grant, includes_without passes.wanted]
  cases rule with
  | counts => rw [includes_without (passes.basic rfl)]
  | ignored => rfl

end Rights

/-- A permission record with some bits taken out of both its sets of rights. -/
def Permissions.without (bits : Rights) (p : Permissions) : Permissions :=
  { p with
    listRights := p.listRights.without bits
    otherRights := p.otherRights.without bits }

/-- An application with some bits taken out of its record. -/
def Application.withoutRights (bits : Rights) (app : Application) : Application :=
  { app with permissions := app.permissions.without bits }

/-- An entity with some bits taken out of its record and of those of its applications. -/
def Entity.withoutRights (bits : Rights) (e : Entity) : Entity :=
  { e with
    permissions := e.permissions.without bits
    applications := e.applications.map fun _ app => app.withoutRights bits }

theorem Entity.spares_withoutRights (bits : Rights) : Spares (withoutRights bits) :=
  ⟨fun _ => rfl, fun _ => rfl, fun _ => rfl, fun _ => rfl, fun _ => rfl⟩

theorem Entity.getElem?_withoutRights (bits : Rights) (e : Entity) (name : String) :
    (e.withoutRights bits).applications[name]? =
      e.applications[name]?.map (Application.withoutRights bits) :=
  ExtTreeMap.getElem?_map

theorem Entity.property?_withoutRights (bits : Rights) (e : Entity) :
    (e.withoutRights bits).property? = e.property? := by
  funext application path
  rw [property?, getElem?_withoutRights, Option.bind_map]
  rfl

/-! ### What is looked for -/

namespace Operation

/-- What an operation looks for among the rights of a record, and what BASIC counts for there.
Nothing is looked for where standing decides, or a capability. -/
def rightAsked? (w : Surroundings) (s : Session) : Operation → Request → Option (Rights × BasicRule)
  | getContains, .target _ | convertIdToName, .target _ => some (.read, .ignored)
  | getEntityField, .field e f =>
    some (.read, if f.isBase then w.basicNear s e.id else .ignored)
  | setEntityField, .field _ f =>
    if f = .owner ∨ f = .security then none else some (.write, .ignored)
  | getApplicationProperty, .application e _ => some (.read, w.basicNear s e.id)
  | setApplicationProperty, .application _ _ | createApplication, .application _ _ =>
    some (.write, .ignored)
  | useAction, .target _ => some (.read, .counts)
  | _, _ => none

/-- Whether BASIC may matter for a request, where some things are near the requester: for using an
action, and near them for a base field and for a property of an application. -/
def heedsBasic (near : EntityId → Bool) : Operation → Request → Bool
  | useAction, .target _ => true
  | getEntityField, .field e f => f.isBase && near e.id
  | getApplicationProperty, .application e _ => near e.id
  | _, _ => false

/-- Whether a request is decided by standing, whatever rights anybody has. -/
def goesByStanding : Operation → Request → Bool
  | setEntityField, .field _ f => f == .owner || f == .security
  | getApplicationSecurity, _ | setApplicationSecurity, _ | deleteApplication, _
  | deleteEntity, _ | transferEntity, _ => true
  | _, _ => false

variable {op : Operation} {w : Surroundings} {s : Session} {r : Request}

/-- What is looked for is seeing or changing. -/
theorem eq_read_or_eq_write_of_rightAsked? (h : op.rightAsked? w s r = some (wanted, rule)) :
    wanted = .read ∨ wanted = .write := by
  unfold rightAsked? at h
  split at h
  all_goals grind

/-- BASIC counts for nothing where a request does not heed it. -/
theorem eq_ignored_of_rightAsked? (h : op.rightAsked? w s r = some (wanted, rule))
    (unheeded : op.heedsBasic (w.isNear s) r = false) : rule = .ignored := by
  unfold rightAsked? at h
  split at h
  all_goals grind [heedsBasic, Surroundings.basicNear]

theorem rightAsked?_of_goesByStanding (h : op.goesByStanding r = true) :
    op.rightAsked? w s r = none := by
  unfold goesByStanding at h
  split at h
  all_goals grind [rightAsked?]

end Operation

/-! ### Blindness -/

theorem Store.permits_without (passes : Rights.PassesOver bits wanted rule) (s : Store)
    (owner : EntityId) (p : Permissions) (first : EntityId) (second : Option EntityId) :
    s.permits owner (p.without bits) wanted first second rule =
      s.permits owner p wanted first second rule := by
  have entitled : s.entitles owner (p.without bits) wanted rule =
      s.entitles owner p wanted rule := by
    funext candidate
    simp only [entitles, Permissions.without, Rights.grant_without passes]
  rw [permits, permits, entitled]
  simp only [Permissions.without, Rights.grant_without passes]

namespace Surroundings

variable (w : Surroundings) (s : Session) (bits : Rights)

theorem sameGroups_withoutRights :
    w.store.SameGroups (w.conceal (.withoutRights bits)).store :=
  Store.sameGroups_conceal (Entity.spares_withoutRights bits) w.store

theorem sessionPermits_without (passes : Rights.PassesOver bits wanted rule) (owner : EntityId)
    (p : Permissions) :
    (w.conceal (.withoutRights bits)).sessionPermits s owner (p.without bits) wanted rule =
      w.sessionPermits s owner p wanted rule := by
  rw [(w.sameGroups_withoutRights bits).sessionPermits]
  exact Store.permits_without passes w.store owner p _ _

theorem mayUse_withoutRights (passes : Rights.PassesOver bits wanted rule) (e : Entity) :
    (w.conceal (.withoutRights bits)).mayUse s (e.withoutRights bits) wanted rule =
      w.mayUse s e wanted rule :=
  w.sessionPermits_without s bits passes e.owner e.permissions

theorem mayAdminister_withoutRights (e : Entity) :
    (w.conceal (.withoutRights bits)).mayAdminister s (e.withoutRights bits) =
      w.mayAdminister s e := by
  rw [(w.sameGroups_withoutRights bits).mayAdminister]
  rfl

theorem mayAdministerApplication_withoutRights (e : Entity) (name : String) :
    (w.conceal (.withoutRights bits)).mayAdministerApplication s (e.withoutRights bits) name =
      w.mayAdministerApplication s e name := by
  rw [(w.sameGroups_withoutRights bits).mayAdministerApplication, mayAdministerApplication,
    mayAdministerApplication, Entity.getElem?_withoutRights, Option.any_map]
  rfl

theorem isNear_withoutRights :
    (w.conceal (.withoutRights bits)).isNear s = w.isNear s :=
  isNear_conceal (Entity.spares_withoutRights bits) (fun _ => rfl) w s

theorem basicNear_withoutRights :
    (w.conceal (.withoutRights bits)).basicNear s = w.basicNear s := by
  funext target
  rw [basicNear, basicNear, w.isNear_withoutRights s bits]

/-- A right on an application that an entity has. -/
theorem any_permits_withoutRights (passes : Rights.PassesOver bits wanted rule) (e : Entity)
    (name : String) :
    ((e.withoutRights bits).applications[name]?.any fun app =>
        (w.conceal (.withoutRights bits)).sessionPermits s app.owner app.permissions wanted rule) =
      e.applications[name]?.any fun app =>
        w.sessionPermits s app.owner app.permissions wanted rule := by
  rw [Entity.getElem?_withoutRights, Option.any_map]
  refine congrArg (Option.any · _) (funext fun app => ?_)
  exact w.sessionPermits_without s bits passes app.owner app.permissions

theorem maySeeName_withoutRights (passes : Rights.PassesOver bits .read .ignored) (e : Entity) :
    (w.conceal (.withoutRights bits)).maySeeName s (e.withoutRights bits) = w.maySeeName s e := by
  rw [maySeeName, maySeeName, (w.sameGroups_withoutRights bits).administers,
    w.isNear_withoutRights s bits, w.mayUse_withoutRights s bits passes]
  rfl

end Surroundings

namespace Checker

variable (w : Surroundings) (s : Session) (bits : Rights)

theorem mayReadField_withoutRights {e : Entity} {f : Field}
    (passes : Rights.PassesOver bits .read (if f.isBase then w.basicNear s e.id else .ignored)) :
    mayReadField (w.conceal (.withoutRights bits)) s (e.withoutRights bits) f =
      mayReadField w s e f := by
  cases f
  case id | password => rfl
  case name => exact w.maySeeName_withoutRights s bits passes e
  all_goals
    simp only [mayReadField, w.basicNear_withoutRights s bits]
    exact w.mayUse_withoutRights s bits passes e

theorem mayWriteField_withoutRights {e : Entity} {f : Field}
    (passes : f ≠ .owner → f ≠ .security → Rights.PassesOver bits .write .ignored) :
    mayWriteField (w.conceal (.withoutRights bits)) s (e.withoutRights bits) f =
      mayWriteField w s e f := by
  cases f
  case owner | security => exact w.mayAdminister_withoutRights s bits e
  case id | type | version | createdTimestamp | updatedTimestamp => rfl
  all_goals exact w.mayUse_withoutRights s bits (passes (by decide) (by decide)) e

end Checker

/-- An operation is blind to the rights that it does not look for. -/
theorem Operation.overlooks_withoutRights {op : Operation} {w : Surroundings} {s : Session}
    {r : Request} (passes : ∀ wanted rule, op.rightAsked? w s r = some (wanted, rule) →
      bits.PassesOver wanted rule) :
    op.Overlooks (.withoutRights bits) w s r := by
  cases op
  all_goals refine List.forall_mem_singleton.mpr ?_
  case getContains =>
    cases r with
    | target e =>
      have near : (w.conceal (.withoutRights bits)).isNear s (e.withoutRights bits).id =
        w.isNear s e.id := congrFun (w.isNear_withoutRights s bits) e.id
      simp only [Request.conceal, Checker.vote, near,
        w.mayUse_withoutRights s bits (passes _ _ rfl)]
    | _ => rfl
  case convertIdToName =>
    cases r with
    | target e => exact congrArg Vote.ofBool (w.maySeeName_withoutRights s bits (passes _ _ rfl) e)
    | _ => rfl
  case getEntityField =>
    cases r with
    | field e f =>
      exact congrArg Vote.ofBool (Checker.mayReadField_withoutRights w s bits (passes _ _ rfl))
    | _ => rfl
  case setEntityField =>
    cases r with
    | field e f =>
      refine congrArg Vote.ofBool (Checker.mayWriteField_withoutRights w s bits ?_)
      intro owner security
      exact passes _ _ (if_neg (not_or.mpr ⟨owner, security⟩))
    | _ => rfl
  case getApplicationProperty =>
    cases r with
    | application e name =>
      simp only [Request.conceal, Checker.vote, w.basicNear_withoutRights s bits]
      exact congrArg Vote.ofBool (w.any_permits_withoutRights s bits (passes _ _ rfl) e name)
    | _ => rfl
  case setApplicationProperty =>
    cases r with
    | application e name =>
      exact congrArg Vote.ofBool (w.any_permits_withoutRights s bits (passes _ _ rfl) e name)
    | _ => rfl
  case createApplication =>
    cases r with
    | application e name =>
      exact congrArg Vote.ofBool (w.mayUse_withoutRights s bits (passes _ _ rfl) e)
    | _ => rfl
  -- from here on no right is looked for, but for the use of actions
  case getApplicationSecurity | setApplicationSecurity | deleteApplication =>
    cases r with
    | application e name =>
      exact congrArg Vote.ofBool (w.mayAdministerApplication_withoutRights s bits e name)
    | _ => rfl
  case deleteEntity =>
    cases r with
    | target e =>
      exact congrArg (fun may => Vote.ofBool (s.has .builder && may))
        (w.mayAdminister_withoutRights s bits e)
    | _ => rfl
  case transferEntity =>
    cases r with
    | transfer target source =>
      have near := Store.isLocal_conceal (Entity.spares_withoutRights bits) (fun _ => rfl) w.store
      simp only [Request.conceal, Checker.vote, Checker.transferVote,
        w.mayAdminister_withoutRights s bits]
      rw [Surroundings.conceal, near]
      rfl
    | _ => rfl
  case useAction =>
    cases r with
    | target e =>
      exact Checker.useActionVote_conceal (Entity.spares_withoutRights bits) rfl
        (Entity.property?_withoutRights bits)
        (Store.permits_without (passes _ _ rfl) w.store e.owner e.permissions _ _)
    | _ => rfl
  case sendTextRoom =>
    cases r with
    | target e =>
      have place := Store.containerOf_conceal (.withoutRights bits) (fun _ => rfl) w.store
      simp only [Request.conceal, Checker.vote, Checker.sendTextRoomVote, Surroundings.conceal,
        place]
      rfl
    | _ => rfl
  -- the others do not look at entities
  all_goals cases r <;> rfl

namespace Operation

variable {op : Operation} {w : Surroundings} {s : Session} {r : Request}

/-- No operation looks for CHOWN or for a bit without a name. -/
theorem overlooks_idle : op.Overlooks (.withoutRights .idle) w s r := by
  apply overlooks_withoutRights
  intro wanted rule asked
  rcases eq_read_or_eq_write_of_rightAsked? asked with rfl | rfl
  all_goals exact ⟨by decide, fun _ => by decide⟩

/-- Nor for BASIC where a request does not heed it, also once the capabilities are resolved. -/
theorem overlooks_basic {s' : Session} (resolved : s.Resolved s')
    (unheeded : op.heedsBasic (w.isNear s) r = false) :
    op.Overlooks (.withoutRights .basic) w s' r := by
  have near : w.isNear s' = w.isNear s := by
    funext target
    rw [Surroundings.isNear, Surroundings.isNear, resolved.requester]
  apply overlooks_withoutRights
  intro wanted rule asked
  obtain rfl := eq_ignored_of_rightAsked? asked (near ▸ unheeded)
  rcases eq_read_or_eq_write_of_rightAsked? asked with rfl | rfl
  all_goals exact ⟨by decide, fun counts => by cases counts⟩

theorem overlooks_of_goesByStanding (standing : op.goesByStanding r = true) :
    op.Overlooks (.withoutRights bits) w s r := by
  apply overlooks_withoutRights
  intro wanted rule asked
  rw [rightAsked?_of_goesByStanding standing] at asked
  cases asked

theorem heedsBasic_conceal (op : Operation) (bits : Rights) (near : EntityId → Bool) (r : Request) :
    op.heedsBasic near (r.conceal (.withoutRights bits)) = op.heedsBasic near r := by
  cases op
  all_goals cases r <;> rfl

theorem goesByStanding_conceal (op : Operation) (bits : Rights) (r : Request) :
    op.goesByStanding (r.conceal (.withoutRights bits)) = op.goesByStanding r := by
  cases op
  all_goals cases r <;> rfl

end Operation

/-! ### Two stores -/

namespace Engine

open Operation

variable {e : Engine} {a b : Store} {r r' : Option Request}

/-- An engine with default chains answers alike over two stores that differ in rights, and is the
same afterwards: whatever is asked, if only CHOWN and bits without a name differ; what does not heed
BASIC, if only BASIC differs; and what goes by standing, whichever bits differ. -/
theorem answer_of_rights (plain : e.AppendsNothing) (s : Session) (op : Operation)
    (raising : Bool) :
    (SameBut (.withoutRights .idle) a b r r' →
        e.answer b s op r' raising = e.answer a s op r raising) ∧
      (SameBut (.withoutRights .basic) a b r r' →
        (∀ x ∈ r, op.heedsBasic ((e.surroundings a).isNear s) x = false) →
        e.answer b s op r' raising = e.answer a s op r raising) ∧
      (SameBut (.withoutRights .full) a b r r' → (∀ x ∈ r, op.goesByStanding x = true) →
        e.answer b s op r' raising = e.answer a s op r raising) := by
  refine ⟨fun same => ?_, fun same unheeded => ?_, fun same standing => ?_⟩
  · exact same.answer plain (Entity.spares_withoutRights .idle) (fun _ _ _ _ => overlooks_idle)
      (fun _ _ _ _ => overlooks_idle) raising
  -- what heeds BASIC is said of the one store and has to be carried to the other
  · have spares := Entity.spares_withoutRights .basic
    have near : (e.surroundings b).isNear s = (e.surroundings a).isNear s :=
      same.isNear spares (fun _ => rfl) e
    have unheeded' : ∀ x ∈ r', op.heedsBasic ((e.surroundings b).isNear s) x = false := by
      rw [near]
      exact same.forall_mem (op.heedsBasic_conceal .basic _) unheeded
    exact same.answer plain spares
      (fun x among _ resolved => overlooks_basic resolved (unheeded x among))
      (fun x among _ resolved => overlooks_basic resolved (unheeded' x among)) raising
  · have standing' : ∀ x ∈ r', op.goesByStanding x = true :=
      same.forall_mem (op.goesByStanding_conceal .full) standing
    exact same.answer plain (Entity.spares_withoutRights .full)
      (fun x among _ _ => overlooks_of_goesByStanding (standing x among))
      (fun x among _ _ => overlooks_of_goesByStanding (standing' x among)) raising

/-- A command on which everybody has some rights. -/
def sign (rights : Rights) : Entity :=
  { Entity.fresh .epoch ⟨2, 2⟩ .command "sign" ⟨2, 3⟩ with permissions := .make .empty rights }

/-- A store with a player and the command. -/
def signStore (rights : Rights) : Store :=
  let s := (Store.empty.registerSite 2 "main").store
  let s := (s.create .epoch 2 .player "walker" .none).store
  (s.insert (sign rights)).store

/-- A new session of the player. -/
def walker : Session := .forRequester ⟨2, 1⟩

/-- A new session of the command's owner. -/
def signOwner : Session := .forRequester ⟨2, 3⟩

theorem answer_of_rights_sign :
    (answer {} (signStore ⟨0xF9⟩) walker .getEntityField (some (.field (sign ⟨0xF9⟩) .note))
        true).2.2 = .ok true ∧
      (answer {} (signStore ⟨0x05⟩) walker .getEntityField (some (.field (sign ⟨0x05⟩) .note))
        true).2.2 = .ok true ∧
      (answer {} (signStore ⟨0xFF⟩) signOwner .setEntityField (some (.field (sign ⟨0xFF⟩) .owner))
        true).2.2 = .ok true ∧
      (answer {} (signStore ⟨0xFF⟩) walker .setEntityField (some (.field (sign ⟨0xFF⟩) .owner))
        true).2.2 ≠ .ok true ∧
      (evaluate {} (signStore ⟨0x00⟩) walker .useAction (.target (sign ⟨0x00⟩))).2.2 ≠
        (evaluate {} (signStore ⟨0x04⟩) walker .useAction (.target (sign ⟨0x04⟩))).2.2 := by
  have plain : ({} : Engine).AppendsNothing := appendsNothing_of_empty rfl rfl
  have idle : SameBut (.withoutRights .idle) (signStore ⟨0x01⟩) (signStore ⟨0xF9⟩)
      (some (.field (sign ⟨0x01⟩) .note)) (some (.field (sign ⟨0xF9⟩) .note)) :=
    ⟨.of_records (by decide +kernel) (by decide +kernel), rfl⟩
  have basic : SameBut (.withoutRights .basic) (signStore ⟨0x01⟩) (signStore ⟨0x05⟩)
      (some (.field (sign ⟨0x01⟩) .note)) (some (.field (sign ⟨0x05⟩) .note)) :=
    ⟨.of_records (by decide +kernel) (by decide +kernel), rfl⟩
  have full : SameBut (.withoutRights .full) (signStore ⟨0x00⟩) (signStore ⟨0xFF⟩)
      (some (.field (sign ⟨0x00⟩) .owner)) (some (.field (sign ⟨0xFF⟩) .owner)) :=
    ⟨.of_records (by decide +kernel) (by decide +kernel), rfl⟩
  have unheeded : ∀ x ∈ some (Request.field (sign ⟨0x01⟩) .note),
      getEntityField.heedsBasic ((surroundings {} (signStore ⟨0x01⟩)).isNear walker) x = false := by
    simp [heedsBasic, Field.isBase]
  have standing : ∀ x ∈ some (Request.field (sign ⟨0x00⟩) .owner),
      setEntityField.goesByStanding x = true := by
    simp [goesByStanding]
  refine ⟨?_, ?_, ?_, ?_, ?_⟩
  · rw [(answer_of_rights plain walker .getEntityField true).1 idle, answer_eq_ok_true_iff]
    decide +kernel
  · rw [(answer_of_rights plain walker .getEntityField true).2.1 basic unheeded,
      answer_eq_ok_true_iff]
    decide +kernel
  · rw [(answer_of_rights plain signOwner .setEntityField true).2.2 full standing,
      answer_eq_ok_true_iff]
    decide +kernel
  · rw [(answer_of_rights plain walker .setEntityField true).2.2 full standing, Ne,
      answer_eq_ok_true_iff]
    decide +kernel
  · -- BASIC does matter where it is heeded
    decide +kernel

end Engine

end WorldAccess
