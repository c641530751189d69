import WorldAccess.Engine.Chain
import WorldAccess.Engine.Grants
import WorldAccess.Engine.Refusal

/-!
# The engine

The engine answers requests. It first looks for a verdict that the session remembers; otherwise it
resolves the session's capabilities, lets the operation's chain vote, and has the session remember
the verdict. A request on something that is not there is refused at once and leaves no trace.

## Main definitions

* `Engine`, `Engine.start`
* `Engine.populate` — the capabilities of a session
* `Engine.evaluate` — the verdict on a request
* `Engine.answer` — permission, or a refusal that can be raised
-/

namespace WorldAccess

/-- An engine over a store: its settings, the checkers a caller appended, the grant lists with their
watch, and how often each fixed checker was called. -/
structure Engine where
  config : Config := {}
  extras : List (Operation × Checker) := []
  grants : GrantLists := {}
  watch : Option Watch := none
  calls : List Nat := []

namespace Engine

variable {L : Type}

/-- The number of fixed checkers among those appended. -/
def fixedCount (extras : List (Operation × Checker)) : Nat :=
  extras.countP fun extra => match extra.2 with
    | .fixed _ _ => true
    | _ => false

/-- A new engine; with a bus it watches over its grant lists as the listener `me`. -/
def start (config : Config) (extras : List (Operation × Checker)) (bus : Option (Bus L)) (me : L) :
    Engine × Option (Bus L) :=
  let e : Engine := { config, extras, calls := List.replicate (fixedCount extras) 0 }
  match bus with
  | none => (e, none)
  | some bus =>
    let (watch, bus) := Watch.register bus me
    ({ e with watch := some watch }, some bus)

/-- Stops watching. -/
def shutdown (e : Engine) (bus : Option (Bus L)) : Engine × Option (Bus L) :=
  match e.watch, bus with
  | some watch, some bus =>
    let (watch, bus) := watch.unregister bus
    ({ e with watch := some watch }, some bus)
  | _, bus => (e, bus)

/-- The chain of an operation. -/
def chain (e : Engine) (op : Operation) : List Checker := op.chain e.config e.extras

/-- A store as this engine's checkers see it. -/
def surroundings (e : Engine) (store : Store) : Surroundings :=
  ⟨store, e.config.globalSite, e.config.maxDepth⟩

/-! ### Capabilities -/

/-- Whether the requester, or the program where there is one, is a member of a group. -/
def isBackedBy (store : Store) (s : Session) (group : EntityId) : Bool :=
  store.isMember group s.requester
    || (s.program.isValid && store.isMember group s.program)

/-- Whether a capability is held in one of the sites. A site is asked only if those before it did
not do. -/
def heldIn (store : Store) (s : Session) (c : Capability) :
    List SiteId → GrantLists → GrantLists × Bool
  | [], g => (g, false)
  | site :: sites, g =>
    let (g, groups) := g.groupsFor store site c
    if groups.any (isBackedBy store s) then (g, true) else heldIn store s c sites g

/-- The sites in which a session's capabilities are looked for: the requester's and the global one.
-/
def grantSites (e : Engine) (s : Session) : List SiteId :=
  s.requester.site ::
    if e.config.globalSite = s.requester.site then [] else [e.config.globalSite]

/-- Whether the requester, or the program where there is one, is an admin by configuration. -/
def isImplicitAdmin (e : Engine) (s : Session) : Bool :=
  e.config.isImplicitAdmin s.requester
    || (s.program.isValid && e.config.isImplicitAdmin s.program)

/-- Adds to a session those of the capabilities that it holds. -/
def grantAll (store : Store) (sites : List SiteId) :
    List Capability → GrantLists → Session → GrantLists × Session
  | [], g, s => (g, s)
  | c :: cs, g, s =>
    if s.has c then grantAll store sites cs g s
    else
      let (g, held) := heldIn store s c sites g
      grantAll store sites cs g (if held then s.grant c else s)

/-- Resolves a session's capabilities, once. -/
def populate (e : Engine) (store : Store) (s : Session) : Engine × Session :=
  if s.populated then (e, s)
  else
    let s := if e.isImplicitAdmin s then s.grant .admin else s
    let (grants, s) := grantAll store (e.grantSites s) Capability.all e.grants s
    ({ e with grants }, { s with populated := true })

/-! ### Verdicts -/

/-- Counts the calls of the fixed checkers among those consulted. -/
def count (calls : List Nat) (consulted : List Checker) : List Nat :=
  consulted.foldl (fun calls c => match c with
    | .fixed place _ => calls.modify place (· + 1)
    | _ => calls) calls

/-- The votes of a chain on a request. -/
def votes (e : Engine) (store : Store) (s : Session) (op : Operation) (r : Request) : List Vote :=
  (e.chain op).map fun c => c.vote (e.surroundings store) s r

/-- The verdict on a request, remembered or found by vote. -/
def evaluate (e : Engine) (store : Store) (s : Session) (op : Operation) (r : Request) :
    Engine × Session × Vote :=
  let question : Question := ⟨op, r.scope⟩
  match s.decisions.lookup? question with
  | some verdict => (e, s, verdict)
  | none =>
    let (e, s) := e.populate store s
    let votes := e.votes store s op r
    let verdict := Vote.verdict votes
    ({ e with calls := count e.calls ((e.chain op).take (Vote.consulted votes)) },
      { s with decisions := s.decisions.store question verdict }, verdict)

/-- Whether a request is allowed. A request on something that is not there is refused without being
raised; any other refusal is raised if `raising`. -/
def answer (e : Engine) (store : Store) (s : Session) (op : Operation) (r : Option Request)
    (raising : Bool) : Engine × Session × Except Refusal Bool :=
  match r with
  | none => (e, s, .ok false)
  | some r =>
    let (e, s, verdict) := e.evaluate store s op r
    (e, s,
      if verdict = .accept then .ok true
      else if raising then .error (.ofQuestion s ⟨op, r.scope⟩)
      else .ok false)

end Engine

end WorldAccess
