import WorldAccess.Engine.Operation
import WorldAccess.Entity.Id
import WorldAccess.Entity.Kind

/-!
# Sessions and their decisions

A session is one requester's evaluation scope: who asks, the program that runs for them, the
capabilities resolved so far and the verdicts of the last questions. It remembers at most sixty-four
verdicts; the next one takes the place of the oldest.

## Main definitions

* `Scope`, `Question` — what a verdict was given on
* `Decisions` with `lookup?`, `store`
* `Session`, `Session.start`, `Session.reset`, `Session.setRunAs`
* `Session.candidates` — the ids whose rights apply
-/

namespace WorldAccess

/-- What a request is about. -/
inductive Scope where
  | global
  | kind (kind : Kind)
  | target (id : EntityId)
  | application (id : EntityId) (name : String)
  | field (id : EntityId) (field : Field)
  | transfer (target source : EntityId)
deriving DecidableEq

/-- An operation on what a request is about. -/
structure Question where
  operation : Operation
  scope : Scope
deriving DecidableEq

/-- A ring of remembered verdicts. Once it is full, the slot at `next` is overwritten. -/
structure Decisions where
  slots : List (Question × Vote) := []
  next : Nat := 0

namespace Decisions

/-- The most verdicts that are remembered. -/
def capacity : Nat := 64

/-- Nothing remembered. -/
def empty : Decisions := {}

/-- The number of verdicts remembered. -/
def size (d : Decisions) : Nat := d.slots.length

/-- The verdict remembered for a question. -/
def lookup? (d : Decisions) (q : Question) : Option Vote :=
  (d.slots.find? fun slot => slot.1 == q).map Prod.snd

/-- Puts a verdict in the place of the one for the same question. -/
def replace (q : Question) (v : Vote) : List (Question × Vote) → List (Question × Vote)
  | [] => []
  | slot :: slots => if slot.1 = q then (q, v) :: slots else slot :: replace q v slots

/-- Remembers a verdict. -/
def store (d : Decisions) (q : Question) (v : Vote) : Decisions :=
  if d.slots.any fun slot => slot.1 == q then { d with slots := replace q v d.slots }
  else
    { slots := if d.slots.length < capacity then d.slots ++ [(q, v)] else d.slots.set d.next (q, v)
      next := (d.next + 1) % capacity }

@[simp] theorem lookup?_empty (q : Question) : empty.lookup? q = none := rfl

@[simp] theorem length_replace (q : Question) (v : Vote) (slots : List (Question × Vote)) :
    (replace q v slots).length = slots.length := by
  induction slots with
  | nil => rfl
  | cons slot slots ih => by_cases h : slot.1 = q <;> simp [replace, h, ih]

end Decisions

/-- Who asks, and what is known about them so far. -/
structure Session where
  requester : EntityId
  program : EntityId := .none
  process : Option UInt64 := none
  runsAsRequester : Bool := true
  populated : Bool := false
  isAdmin : Bool := false
  capabilities : CapabilitySet := ∅
  decisions : Decisions := .empty

namespace Session

/-- A session of a program that acts for a requester. -/
def start (requester program : EntityId) (runsAsRequester : Bool) : Session :=
  { requester, program, runsAsRequester }

/-- A session of a requester without a program. -/
def forRequester (requester : EntityId) : Session := start requester .none true

/-- Whether a capability is held. -/
def has (s : Session) (c : Capability) : Bool := s.capabilities.contains c

/-- Adds a capability. -/
def grant (s : Session) (c : Capability) : Session :=
  { s with
    capabilities := s.capabilities.insert c
    isAdmin := s.isAdmin || c == .admin }

/-- Sets whether the program has the requester's rights too. A change forgets every verdict. -/
def setRunAs (s : Session) (value : Bool) : Session :=
  if s.runsAsRequester = value then s
  else { s with runsAsRequester := value, decisions := .empty }

/-- Forgets the capabilities and every verdict. -/
def reset (s : Session) : Session :=
  { s with capabilities := ∅, isAdmin := false, populated := false, decisions := .empty }

/-- The ids whose rights apply: the program's where there is one, and the requester's too if it runs
as requester; without a program the requester's. -/
def candidates (s : Session) : EntityId × Option EntityId :=
  if s.program.isValid then
    (s.program, if s.runsAsRequester then some s.requester else none)
  else (s.requester, none)

end Session

end WorldAccess
