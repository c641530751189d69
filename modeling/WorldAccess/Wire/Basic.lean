import Std.Data.ExtTreeMap
import Std.Data.ExtTreeSet
import WorldAccess.Json.Basic
import WorldAccess.Text.Blank
import WorldAccess.Time.Timestamp

/-!
# Reading values out of JSON

The saved form of a record is an object with its members by name, or an array with them in order. A
member that is not known is passed over unread; one that is given twice is an error; one that is
missing is an error unless it has a default. A word may also stand as the only member of an object,
with nothing for its value; the word in front of an array may not.

Some forms have to be read as a whole before it is known what they are. Such a value must be sound
in every part and may not lie too deep; elsewhere only what is asked for is looked at.

## Main definitions

* `Reading` — where a value is read
* `Wire.record?` — the members of a record
* `Wire.whole?`, `Wire.tagged?` — forms that are read as a whole
* `Wire.word?`, `Wire.leadingWord?`, `Wire.list?`, `Wire.map?`, `Wire.nullable?`
-/

namespace WorldAccess

open Std

/-- Where a value is read: inside how many arrays and objects, whether it was read as a whole
before, and at which moment. -/
structure Reading where
  depth : Nat := 0
  whole : Bool := false
  now : Timestamp := .epoch

/-- Inside one more array or object. -/
def Reading.inside (r : Reading) : Reading := { r with depth := r.depth + 1 }

/-- Reads a value of a type, or finds that it is none. -/
abbrev Decoder (α : Type) := Reading → Json → Option α

namespace Wire

variable {α : Type}

/-- How many arrays and objects may lie within each other in a value that is read as a whole. -/
def deepest : Nat := 127

/-- Reads a value as a whole. -/
def whole? (r : Reading) (j : Json) : Option Reading :=
  if r.whole || (j.isSound && r.depth + j.height ≤ deepest) then some { r with whole := true }
  else none

/-- The value of a member that is given at most once. -/
def once? (members : List (Option String × Json)) (name : String) : Option (Option Json) :=
  match members.filter fun m => m.1 == some name with
  | [] => some none
  | [m] => some (some m.2)
  | _ => none

/-- The members of a record in the order of their names, each with its value if it is given. -/
def record? (names : List String) : Json → Option (List (Option Json))
  | .object members =>
    if members.all fun m => m.1.isSome then names.mapM (once? members) else none
  | .array items =>
    if items.length ≤ names.length then
      some (items.map some ++ List.replicate (names.length - items.length) none)
    else none
  | _ => none

/-- A member that must be given. -/
def required? (d : Decoder α) (r : Reading) (j : Option Json) : Option α := j.bind (d r)

/-- A member with a default. -/
def optional? (d : Decoder α) (default : α) (r : Reading) : Option Json → Option α
  | some j => d r j
  | none => some default

/-- A value or null. -/
def nullable? (d : Decoder α) : Decoder (Option α)
  | _, .null => some none
  | r, j => (d r j).map some

/-- A truth value. -/
def bool? : Decoder Bool
  | _, .bool b => some b
  | _, _ => none

/-- A text. -/
def text? : Decoder String
  | _, .string s => s
  | _, _ => none

/-- A natural number up to a bound. -/
def nat? (bound : Nat) : Decoder Nat
  | _, .number n => n.natural? bound
  | _, _ => none

/-- A word of a closed vocabulary, as a text or as the only member of an object. -/
def word? (all : List α) (word : α → String) : Decoder α
  | _, .string (some s) => Text.exactWord? all word s
  | r, .object [(some s, j)] =>
    match j with
    | .null => Text.exactWord? all word s
    | .object [] => if r.whole then Text.exactWord? all word s else none
    | _ => none
  | _, _ => none

/-- A word that says in front of an array what follows: a text, or its place in the vocabulary where
the array was read as a whole before. -/
def leadingWord? (all : List α) (word : α → String) : Decoder α
  | _, .string (some s) => Text.exactWord? all word s
  | r, .number n => if r.whole then (n.natural? Text.max64).bind (all[·]?) else none
  | _, _ => none

/-- A list of values. -/
def list? (d : Decoder α) : Decoder (List α)
  | r, .array items => items.mapM (d r.inside)
  | _, _ => none

/-- A map from texts. Of repeated keys the last one counts, but every value must be one. -/
def map? (d : Decoder α) : Decoder (ExtTreeMap String α)
  | r, .object members =>
    members.foldlM (fun map m => do
      let key ← m.1
      let value ← d r.inside m.2
      return map.insert key value) ∅
  | _, _ => none

/-- A set of values, given as a list. -/
def set? [Ord α] [TransOrd α] (d : Decoder α) : Decoder (ExtTreeSet α) := fun r j =>
  (list? d r j).map fun items => items.foldl (·.insert ·) ∅

/-- A form that begins with a tag: an object with the tag among its members, or an array with the
tag in front. The rest is what remains without it. -/
def tagged? (tag : String) (r : Reading) (j : Json) : Option (Reading × String × Json) := do
  let r ← whole? r j
  match j with
  | .object members =>
    match members.filter fun m => m.1 == some tag with
    | [(_, .string (some s))] => some (r, s, .object (members.filter fun m => m.1 != some tag))
    | _ => none
  | .array (.string (some s) :: rest) => some (r, s, .array rest)
  | _ => none

/-- A timestamp. -/
def timestamp? : Decoder Timestamp := fun r j => (text? r j).bind Timestamp.parse?

end Wire

end WorldAccess
