import WorldAccess.Engine.Session
import WorldAccess.Failure

/-!
# Refusals

A refusal says who was denied which operation on what. Its message names every part that is there.
-/

namespace WorldAccess

/-- A denied request. -/
structure Refusal where
  operation : Operation
  requester : EntityId
  program : EntityId
  target : Option EntityId := none
  moved : Option EntityId := none
  application : Option String := none
  field : Option Field := none
  kind : Option Kind := none
deriving DecidableEq

namespace Refusal

/-- The refusal of a session's question. -/
def ofQuestion (s : Session) (q : Question) : Refusal :=
  let base : Refusal := ⟨q.operation, s.requester, s.program, none, none, none, none, none⟩
  match q.scope with
  | .global => base
  | .kind kind => { base with kind := some kind }
  | .target id => { base with target := some id }
  | .application id name => { base with target := some id, application := some name }
  | .field id field => { base with target := some id, field := some field }
  | .transfer target source => { base with target := some target, moved := some source }

/-- A part of the message that is there only if its value is. -/
def part {α : Type} (value : Option α) (text : α → String) : String :=
  match value with
  | some a => text a
  | none => ""

/-- The message of a refusal. -/
def message (r : Refusal) : String :=
  "security violation: " ++ r.operation.word ++ " denied for requester " ++ r.requester.render
    ++ (if r.program.isValid then " via program " ++ r.program.render else "")
    ++ part r.target (fun id => " on " ++ id.render)
    ++ part r.moved (fun id => " moving " ++ id.render)
    ++ part r.application (fun name => " application '" ++ name ++ "'")
    ++ part r.field (fun f => " field " ++ f.word)
    ++ part r.kind (fun k => " type " ++ k.word)

/-- A refusal as a failure. -/
def toFailure (r : Refusal) : Failure := ⟨.denied, "security_denied", r.message⟩

end Refusal

end WorldAccess
