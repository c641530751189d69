import WorldAccess.Engine.Session
import WorldAccess.Engine.Locality
import WorldAccess.Engine.Standing

/-!
# Requests and checkers

A request is what an operation is asked on: nothing, a kind, an entity, one of its applications or
fields, or two entities. The entities are given as the asking handle reads them. Each checker has an
opinion on requests of some of these shapes and skips the others.

## Main definitions

* `Request`, `Request.scope`
* `Surroundings` — what checkers see
* `Checker`, `Checker.registered`, `Checker.ofName?`
* `Checker.vote` — the vote of a checker on a request
-/

namespace WorldAccess

/-- What an operation is asked on. -/
inductive Request where
  | global
  | kind (kind : Kind)
  | target (target : Entity)
  | application (target : Entity) (name : String)
  | field (target : Entity) (field : Field)
  | transfer (target source : Entity)

/-- What a checker that is asked directly gets to see in the place of an entity that is not there.
-/
def Entity.absent : Entity where
  id := .none
  kind := .entity
  name := ""
  owner := .none
  created := .epoch
  updated := .epoch

namespace Request

/-- The ids and names a request is about. -/
def scope : Request → Scope
  | global => .global
  | kind k => .kind k
  | target e => .target e.id
  | application e name => .application e.id name
  | field e f => .field e.id f
  | transfer e source => .transfer e.id source.id

/-- The entities of a request. -/
def entities : Request → List Entity
  | global | kind _ => []
  | target e | application e _ | field e _ => [e]
  | transfer e source => [e, source]

/-- Asks on the entity of a handle, if there is one. -/
def onTarget? (e : Option Entity) : Option Request := e.map target

/-- Asks on the application that a path names. -/
def onApplication? (e : Option Entity) (path : String) : Option Request := do
  let e ← e
  let name ← Path.application? path
  return .application e name

/-- Asks on a field of the entity of a handle. -/
def onField? (e : Option Entity) (f : Field) : Option Request := e.map (field · f)

/-- Asks on moving `source` into `target`. -/
def onTransfer? (target source : Option Entity) : Option Request := do
  let target ← target
  let source ← source
  return .transfer target source

end Request

/-- The store as the checkers see it, with the settings they need. -/
structure Surroundings where
  store : Store
  globalSite : SiteId
  maxDepth : Nat

/-- The checkers that votes come from. A `fixed` checker has one answer to everything and a place
among the checkers whose calls are counted; a `mute` one has no opinion at all; a `supplied` one
brings a name and an opinion of its own, which may look at anything a checker sees. -/
inductive Checker where
  | crossSite
  | admin
  | acceptAll
  | createEntity
  | deleteEntity
  | getContains
  | getEntityField
  | setEntityField
  | convertIdToName
  | getApplicationProperty
  | setApplicationProperty
  | applicationSecurity
  | createApplication
  | deleteApplication
  | transferEntity
  | useAction
  | sendTextRoom
  | sendTextRoomUnrestricted
  | sendTextEntity
  | characterOnline
  | findCharacterByName
  | runAsRequester
  | fixed (place : Nat) (vote : Vote)
  | mute
  | supplied (name : String) (opinion : Surroundings → Session → Request → Vote)

namespace Checker

/-- The checkers that have a name of their own. -/
def registered : List Checker :=
  [crossSite, admin, acceptAll, createEntity, deleteEntity, getContains, getEntityField,
    setEntityField, convertIdToName, getApplicationProperty, setApplicationProperty,
    applicationSecurity, createApplication, deleteApplication, transferEntity, useAction,
    sendTextRoom, sendTextRoomUnrestricted, sendTextEntity, characterOnline, findCharacterByName,
    runAsRequester]

/-- The name of a checker. -/
def name : Checker → String
  | crossSite => "cross_site"
  | admin => "admin"
  | acceptAll => "accept_all"
  | createEntity => "create_entity"
  | deleteEntity => "delete_entity"
  | getContains => "get_contains"
  | getEntityField => "get_entity_field"
  | setEntityField => "set_entity_field"
  | convertIdToName => "convert_id_to_name"
  | getApplicationProperty => "get_application_property"
  | setApplicationProperty => "set_application_property"
  | applicationSecurity => "get_set_application_security"
  | createApplication => "create_application"
  | deleteApplication => "delete_application"
  | transferEntity => "transfer_entity"
  | useAction => "use_action"
  | sendTextRoom => "send_text_room"
  | sendTextRoomUnrestricted => "send_text_room_unrestricted"
  | sendTextEntity => "send_text_entity"
  | characterOnline => "character_online"
  | findCharacterByName => "find_character_by_name"
  | runAsRequester => "run_as_requester"
  | fixed _ _ => "fixed"
  | mute => "mute"
  | supplied name _ => name

/-- The registered checker of a name. -/
def ofName? (name : String) : Option Checker := Text.exactWord? registered Checker.name name

/-- The capability that alone decides a checker's vote. -/
def capability? : Checker → Option Capability
  | sendTextRoomUnrestricted => some .sendTextRoomUnrestricted
  | sendTextEntity => some .sendTextEntity
  | characterOnline => some .characterOnline
  | findCharacterByName => some .findByNameAfar
  | runAsRequester => some .runAsUser
  | _ => none

/-- Whether two sites may deal with each other: they are one, or one of them is global. -/
def sitesMeet (globalSite a b : SiteId) : Bool := a == b || a == globalSite || b == globalSite

/-- The sites of those who act: the requester's, and the program's where there is one. -/
def actorSites (s : Session) : List SiteId :=
  s.requester.site :: if s.program.isValid then [s.program.site] else []

end Checker

/-! ### What a session may do to an entity -/

namespace Surroundings

/-- Whether the session's candidates have the wanted right by a permission record. -/
def sessionPermits (w : Surroundings) (s : Session) (owner : EntityId) (p : Permissions)
    (wanted : Rights) (rule : BasicRule) : Bool :=
  let (first, second) := s.candidates
  w.store.permits owner p wanted first second rule

/-- Whether one of the session's candidates is an admin by a permission record. -/
def sessionAdministers (w : Surroundings) (s : Session) (owner : EntityId) (p : Permissions) :
    Bool :=
  let (first, second) := s.candidates
  w.store.administers owner p first second

/-- Whether the session has the wanted right on an entity. -/
def mayUse (w : Surroundings) (s : Session) (e : Entity) (wanted : Rights) (rule : BasicRule) :
    Bool :=
  w.sessionPermits s e.owner e.permissions wanted rule

/-- Whether the session has admin standing on an entity. -/
def mayAdminister (w : Surroundings) (s : Session) (e : Entity) : Bool :=
  w.sessionAdministers s e.owner e.permissions

/-- Whether an entity is near the requester, also through its container. -/
def isNear (w : Surroundings) (s : Session) (target : EntityId) : Bool :=
  w.store.isLocalThroughContainer w.maxDepth s.requester target true

/-- BASIC counts for what is near the requester. -/
def basicNear (w : Surroundings) (s : Session) (target : EntityId) : BasicRule :=
  if w.isNear s target then .counts else .ignored

/-- Whether the session may learn an entity's name. -/
def maySeeName (w : Surroundings) (s : Session) (e : Entity) : Bool :=
  s.has .anyIdToName
    || (s.runsAsRequester && w.store.administers e.owner e.permissions s.requester none)
    || w.isNear s e.id
    || w.mayUse s e .read .ignored

/-- Whether the session has admin standing on an application, or on the entity that has it. -/
def mayAdministerApplication (w : Surroundings) (s : Session) (e : Entity) (name : String) : Bool :=
  e.applications[name]?.any (fun app => w.sessionAdministers s app.owner app.permissions)
    || w.mayAdminister s e

end Surroundings

/-- The fields that anybody near may see when BASIC is granted. -/
def Field.isBase : Field → Bool
  | .type | .owner | .flags | .deleted | .containedBy | .actionContainedBy | .actionTargets
  | .actionCommands | .playerDisplayName => true
  | _ => false

/-- The fields that are never written on request. -/
def Field.isFixed : Field → Bool
  | .id | .type | .version | .createdTimestamp | .updatedTimestamp => true
  | _ => false

namespace Checker

variable (w : Surroundings) (s : Session)

/-- Refuses for good what lies in a site the actors' sites may not deal with. An id that names
nothing lies in no site. -/
def crossSiteVote (r : Request) : Vote :=
  if r.entities.any fun e =>
    e.id.isValid && (actorSites s).any fun a => !sitesMeet w.globalSite a e.id.site
  then .denyAlways else .skip

/-- Accepts for good what an admin asks in the requester's own site. -/
def adminVote (r : Request) : Vote :=
  if s.isAdmin && r.entities.all fun e => e.id.site == s.requester.site then .acceptAlways
  else .skip

/-- Characters take one capability, programs and capabilities are left to admins, and everything
else takes another capability. -/
def createEntityVote : Kind → Vote
  | .player | .guest => .ofBool (s.has .createPlayer)
  | .capability | .program => .deny
  | _ => .ofBool (s.has .builder)

/-- Whether the session may read a field. -/
def mayReadField (e : Entity) (f : Field) : Bool :=
  match f with
  | .id => true
  | .name => w.maySeeName s e
  | .password => false
  | f => w.mayUse s e .read (if f.isBase then w.basicNear s e.id else .ignored)

/-- Whether the session may write a field. -/
def mayWriteField (e : Entity) (f : Field) : Bool :=
  if f.isFixed then false
  else match f with
    | .security | .owner => w.mayAdminister s e
    | _ => w.mayUse s e .write .ignored

/-- Between something room-like and something that is not, those who have both near them may move;
otherwise it takes admin standing on both. -/
def transferVote (target source : Entity) : Vote :=
  let near := w.store.isLocal w.maxDepth s.requester source.id true
    && w.store.isLocal w.maxDepth s.requester target.id true
  let crosses := target.kind.isRoomLike != source.kind.isRoomLike
  .ofBool ((crosses && near) || (w.mayAdminister s source && w.mayAdminister s target))

/-- An action is used by the requester alone, who needs to see it and to pass its lock. -/
def useActionVote (e : Entity) : Vote :=
  if !e.kind.isAction then .skip
  else if !w.store.permits e.owner e.permissions .read s.requester none .counts then .deny
  else if !e.lock.isLocked then .accept
  else match w.store.get? s.requester with
    | none => .deny
    | some user =>
      .ofBool (e.lock.opensFor user fun group member =>
        group != s.requester && w.store.isMember group member)

/-- One may talk to the room one is in, or to any with the capability. -/
def sendTextRoomVote (e : Entity) : Vote :=
  if !e.kind.isRoomLike then .skip
  else .ofBool (w.store.containerOf s.requester == e.id || s.has .sendTextRoomUnrestricted)

/-- The vote of a checker on a request. -/
def vote : Checker → Request → Vote
  | crossSite, r => crossSiteVote w s r
  | admin, r => adminVote s r
  | acceptAll, _ => .accept
  | createEntity, .kind k => createEntityVote s k
  | deleteEntity, .target e => .ofBool (s.has .builder && w.mayAdminister s e)
  | getContains, .target e => .ofBool (w.isNear s e.id || w.mayUse s e .read .ignored)
  | getEntityField, .field e f => .ofBool (mayReadField w s e f)
  | setEntityField, .field e f => .ofBool (mayWriteField w s e f)
  | convertIdToName, .target e => .ofBool (w.maySeeName s e)
  | getApplicationProperty, .application e name =>
    .ofBool (e.applications[name]?.any fun app =>
      w.sessionPermits s app.owner app.permissions .read (w.basicNear s e.id))
  | setApplicationProperty, .application e name =>
    .ofBool (e.applications[name]?.any fun app =>
      w.sessionPermits s app.owner app.permissions .write .ignored)
  | applicationSecurity, .application e name => .ofBool (w.mayAdministerApplication s e name)
  | createApplication, .application e _ => .ofBool (w.mayUse s e .write .ignored)
  | deleteApplication, .application e name => .ofBool (w.mayAdministerApplication s e name)
  | transferEntity, .transfer target source => transferVote w s target source
  | useAction, .target e => useActionVote w s e
  | sendTextRoom, .target e => sendTextRoomVote w s e
  | fixed _ v, _ => v
  | mute, _ => .skip
  | supplied _ opinion, r => opinion w s r
  | c, .global | c, .target _ =>
    match c.capability? with
    | some capability => .ofBool (s.has capability)
    | none => .skip
  | _, _ => .skip

end Checker

end WorldAccess
