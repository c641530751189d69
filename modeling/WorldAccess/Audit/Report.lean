import WorldAccess.Audit.Arguments
import WorldAccess.Wire.Text
import WorldAccess.World.Basic

/-!
# The audit

The audit answers one question against a saved world: it loads the world, starts an engine over it
and reports the verdict. It ends with status 0 when the request is allowed and with 4 when it is
denied; what else can go wrong ends with the status of the failure, and no verdict is reported.

## Main definitions

* `Audit.Verdict`, `Audit.judge` — the verdict on a question
* `Audit.Report`, `Audit.report` — what the audit prints and the status it ends with
-/

namespace WorldAccess.Audit

/-- What the audit found: the operation, what the requester holds, and permission or a refusal. -/
structure Verdict where
  operation : Operation
  capabilities : List Capability
  answer : Except Refusal Bool

/-- What the audit prints and the status it ends with. -/
structure Report where
  status : Nat
  output : Option String := none
  failure : Option Failure := none
  showsUsage : Bool := false

/-- An argument that must be given. -/
def required {α : Type} (value : Option α) (code message : String) : Except Failure α :=
  match value with
  | some a => .ok a
  | none => .error ⟨.userInput, code, message⟩

/-- The stored entity that an argument names. -/
def lookUp (store : Store) (op : Operation) (id : Option EntityId) (flag : String) :
    Except Failure Entity := do
  let id ← required id "missing_target" (op.word ++ " requires " ++ flag)
  match store.get? id with
  | some e => .ok e
  | none => .error ⟨.notFound, "entity_not_found", "no entity " ++ id.render⟩

/-- The request that the arguments ask for. A kind comes before a second entity, that before an
application, that before a field, and that before the target alone. -/
def request (a : Arguments) (store : Store) (op : Operation) : Except Failure (Option Request) := do
  match a.kind, a.source, a.application, a.field, a.target with
  | some kind, _, _, _, _ => return some (.kind kind)
  | none, some source, _, _, _ =>
    let target ← lookUp store op a.target "--target"
    let source ← lookUp store op (some source) "--source"
    return some (.transfer target source)
  | none, none, some path, _, _ =>
    let target ← lookUp store op a.target "--target"
    return Request.onApplication? (some target) path
  | none, none, none, some field, _ =>
    let target ← lookUp store op a.target "--target"
    return some (.field target field)
  | none, none, none, none, some target =>
    let target ← lookUp store op (some target) "--target"
    return some (.target target)
  | none, none, none, none, none => return some .global

/-- The configuration the arguments name, with the settings of the environment. -/
def configure (a : Arguments) (files : String → FileContent) (env : Environment) :
    Except Failure Config := do
  let config ← match a.config with
    | some path => Config.load (files path)
    | none => .ok {}
  config.override env

/-- Judges the question of the arguments. -/
def judge (a : Arguments) (files : String → FileContent) (env : Environment) (now : Timestamp) :
    Except Failure Verdict := do
  let path ← required a.world "missing_world" "--world is required"
  let requester ← required a.requester "missing_requester" "--requester is required"
  let op ← required a.operation "missing_op" "--op is required"
  let config ← configure a files env
  let text ← (files path).read
  let loaded := Store.empty.loadText now text
  let _ ← loaded.result
  let session :=
    if a.program.isValid then Session.start requester a.program a.runAs
    else Session.forRequester requester
  let request ← request a loaded.store op
  let (engine, _) := Engine.start config [] (some ({} : Bus Listener)) .engine
  let (_, session, answer) := engine.answer loaded.store session op request true
  return ⟨op, session.capabilities.toList, answer⟩

/-- The line that reports a verdict. -/
def Verdict.line (v : Verdict) (json : Bool) : String :=
  let names := v.capabilities.map Capability.entityName
  match v.answer, json with
  | .ok allowed, true =>
    (Json.record [("operation", .text v.operation.word), ("allowed", .bool allowed),
      ("capabilities", .list .text names)]).sorted.line
  | .ok _, false =>
    "ALLOW " ++ v.operation.word ++ " (capabilities: " ++ ", ".intercalate names ++ ")"
  | .error r, true =>
    (Json.record [("operation", .text v.operation.word), ("allowed", .bool false),
      ("violation", r.toJson), ("message", .text r.message)]).sorted.line
  | .error r, false => "DENY " ++ r.message

/-- The status that a verdict ends with. -/
def Verdict.status (v : Verdict) : Nat :=
  match v.answer with
  | .ok true => 0
  | _ => FailureKind.denied.exitStatus

/-- The report on the given arguments. -/
def report (args : List String) (files : String → FileContent) (env : Environment)
    (now : Timestamp) : Report :=
  if asksForHelp args then { status := 0, showsUsage := true }
  else
    match (Arguments.parse args).bind fun a => (judge a files env now).map fun v => (a, v) with
    | .ok (a, v) => { status := v.status, output := some (v.line a.json) }
    | .error f =>
      { status := f.kind.exitStatus
        failure := some f
        showsUsage := f.kind = .userInput }

end WorldAccess.Audit
