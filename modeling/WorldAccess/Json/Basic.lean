import WorldAccess.Decimal.Numeral

/-!
# JSON values

A JSON value as its text gives it: numbers are kept as numerals, the members of an object in order
and with repeats, and a string literal whose escapes leave half a surrogate pair is kept as one
that spells nothing.

## Main definitions

* `Json`, with `Json.text`, `Json.record`, `Json.nat`, `Json.list`
* `Json.height` — how deep a value nests
* `Json.isSound` — whether every part of a value can be read
* `Json.merged` — a value whose objects keep the last of repeated members
* `Json.rewritten` — a value as it is after it was read and written again
-/

namespace WorldAccess

open Decimal

/-- A JSON value. A string, and the name of a member, is missing where the literal spells nothing.
-/
inductive Json where
  | null
  | bool (value : Bool)
  | number (value : Numeral)
  | string (value : Option String)
  | array (items : List Json)
  | object (members : List (Option String × Json))

namespace Json

instance : Inhabited Json := ⟨null⟩

/-- A string. -/
def text (s : String) : Json := string (some s)

/-- An object with the given members. -/
def record (members : List (String × Json)) : Json :=
  object (members.map fun m => (some m.1, m.2))

/-- A natural number. -/
def nat (n : Nat) : Json := number (.ofNat n)

/-- A value that may be missing, which is then null. -/
def option {α : Type} (encode : α → Json) (value : Option α) : Json :=
  match value with
  | some a => encode a
  | none => null

/-- A list of values. -/
def list {α : Type} (encode : α → Json) (values : List α) : Json := array (values.map encode)

mutual

/-- How many arrays and objects lie within each other. -/
def height : Json → Nat
  | array items => heightItems items + 1
  | object members => heightMembers members + 1
  | _ => 0

/-- The greatest height of the items. -/
def heightItems : List Json → Nat
  | [] => 0
  | j :: js => max j.height (heightItems js)

/-- The greatest height of the members. -/
def heightMembers : List (Option String × Json) → Nat
  | [] => 0
  | m :: ms => max m.2.height (heightMembers ms)

end

mutual

/-- Whether every string spells something and every number can be represented. -/
def isSound : Json → Bool
  | null | bool _ => true
  | number n => n.isInteger64 || n.float?.isSome
  | string s => s.isSome
  | array items => areSound items
  | object members => membersAreSound members

/-- Whether every item is sound. -/
def areSound : List Json → Bool
  | [] => true
  | j :: js => j.isSound && areSound js

/-- Whether every member is sound. -/
def membersAreSound : List (Option String × Json) → Bool
  | [] => true
  | m :: ms => m.1.isSome && m.2.isSound && membersAreSound ms

end

mutual

/-- The value with the last of repeated members kept in each object. -/
def merged : Json → Json
  | array items => array (mergedItems items)
  | object members => object (mergedMembers members)
  | j => j

/-- The items merged. -/
def mergedItems : List Json → List Json
  | [] => []
  | j :: js => j.merged :: mergedItems js

/-- The members merged, those left out that are given again. -/
def mergedMembers : List (Option String × Json) → List (Option String × Json)
  | [] => []
  | m :: ms =>
    if ms.any fun other => other.1 == m.1 then mergedMembers ms
    else (m.1, m.2.merged) :: mergedMembers ms

end

mutual

/-- The value with every numeral as it is after it was read and written again. -/
def rewritten : Json → Json
  | number n => number n.rewritten
  | array items => array (rewrittenItems items)
  | object members => object (rewrittenMembers members)
  | j => j

/-- The items rewritten. -/
def rewrittenItems : List Json → List Json
  | [] => []
  | j :: js => j.rewritten :: rewrittenItems js

/-- The members rewritten. -/
def rewrittenMembers : List (Option String × Json) → List (Option String × Json)
  | [] => []
  | m :: ms => (m.1, m.2.rewritten) :: rewrittenMembers ms

end

/-- The member of a name. -/
def member? (j : Json) (name : String) : Option Json :=
  match j with
  | object members => (members.find? fun m => m.1 == some name).map Prod.snd
  | _ => none

end Json

end WorldAccess
