import WorldAccess.Json.Basic

/-!
# Reading JSON

A text is first cut into tokens and the tokens are then put together with a stack of the arrays and
objects that are still open, so that a text may nest as deep as it likes.

## Main definitions

* `Json.Token`, `Json.tokens?` — the tokens of a text
* `Json.spell?` — the text that a list of code points and escaped units spells
* `Json.build?` — the value that tokens make
* `Json.parse?` — the value of a text
-/

namespace WorldAccess.Json

open Decimal

/-- The smallest pieces of a JSON text. -/
inductive Token where
  | openArray
  | closeArray
  | openObject
  | closeObject
  | colon
  | comma
  | null
  | bool (value : Bool)
  | number (value : Numeral)
  | string (value : Option String)

/-! ### String literals -/

/-- The value of four hexadecimal digits. -/
def unit? (a b c d : Char) : Option Nat := do
  let a ← Text.digitValue? 16 a
  let b ← Text.digitValue? 16 b
  let c ← Text.digitValue? 16 c
  let d ← Text.digitValue? 16 d
  return ((a * 16 + b) * 16 + c) * 16 + d

/-- The character of a one-letter escape. -/
def escaped? : Char → Option Char
  | '"' => some '"'
  | '\\' => some '\\'
  | '/' => some '/'
  | 'b' => some '\x08'
  | 'f' => some '\x0c'
  | 'n' => some '\n'
  | 'r' => some '\r'
  | 't' => some '\t'
  | _ => none

/-- The code points and escaped units of a literal after its opening quote, up to the closing one,
and the text after that. -/
def literal? : List Char → Option (List Nat × List Char)
  | [] => none
  | '"' :: cs => some ([], cs)
  | '\\' :: 'u' :: a :: b :: c :: d :: cs => do
    let u ← unit? a b c d
    let (units, rest) ← literal? cs
    return (u :: units, rest)
  | '\\' :: e :: cs => do
    let c ← escaped? e
    let (units, rest) ← literal? cs
    return (c.toNat :: units, rest)
  | c :: cs =>
    if c.toNat < 0x20 ∨ c = '\\' then none
    else do
      let (units, rest) ← literal? cs
      return (c.toNat :: units, rest)

/-- Whether a unit is the first half of a surrogate pair. -/
def isLeading (u : Nat) : Bool := 0xD800 ≤ u && u ≤ 0xDBFF

/-- Whether a unit is the second half of a surrogate pair. -/
def isTrailing (u : Nat) : Bool := 0xDC00 ≤ u && u ≤ 0xDFFF

/-- The characters that code points and units spell, pairs of halves joined. A half alone spells
nothing. -/
def spell? : List Nat → Option (List Char)
  | [] => some []
  | u :: v :: us =>
    if isLeading u ∧ isTrailing v then
      (spell? us).map (Char.ofNat (0x10000 + (u - 0xD800) * 0x400 + (v - 0xDC00)) :: ·)
    else if isLeading u ∨ isTrailing u then none
    else (spell? (v :: us)).map (Char.ofNat u :: ·)
  | [u] => if isLeading u ∨ isTrailing u then none else some [Char.ofNat u]

/-! ### Numbers -/

/-- One digit or more, and the text after them. -/
def digits? (cs : List Char) : Option (List Char × List Char) :=
  let ds := cs.takeWhile Char.isDigit
  if ds.isEmpty then none else some (ds, cs.drop ds.length)

/-- Whole digits: a zero, or digits that do not begin with one. -/
def whole? : List Char → Option (List Char × List Char)
  | '0' :: cs => some (['0'], cs)
  | cs => digits? cs

/-- A fraction, if there is one. -/
def fraction? : List Char → Option (Option (List Char) × List Char)
  | '.' :: cs => (digits? cs).map fun (ds, rest) => (some ds, rest)
  | cs => some (none, cs)

/-- An exponent, if there is one: its sign and digits. -/
def exponent? : List Char → Option (Option (Bool × List Char) × List Char)
  | e :: cs =>
    if e = 'e' ∨ e = 'E' then
      match cs with
      | '-' :: cs => (digits? cs).map fun (ds, rest) => (some (true, ds), rest)
      | '+' :: cs => (digits? cs).map fun (ds, rest) => (some (false, ds), rest)
      | cs => (digits? cs).map fun (ds, rest) => (some (false, ds), rest)
    else some (none, e :: cs)
  | [] => some (none, [])

/-- A number and the text after it. -/
def number? (cs : List Char) : Option (Numeral × List Char) := do
  let (negative, cs) := match cs with
    | '-' :: cs => (true, cs)
    | cs => (false, cs)
  let (whole, cs) ← whole? cs
  let (fraction, cs) ← fraction? cs
  let (exponent, cs) ← exponent? cs
  return ({ negative, whole, fraction, exponent }, cs)

/-! ### Tokens -/

/-- The first token of a text that begins with one, and the text after it. -/
def token? : List Char → Option (Token × List Char)
  | '[' :: cs => some (.openArray, cs)
  | ']' :: cs => some (.closeArray, cs)
  | '{' :: cs => some (.openObject, cs)
  | '}' :: cs => some (.closeObject, cs)
  | ':' :: cs => some (.colon, cs)
  | ',' :: cs => some (.comma, cs)
  | 'n' :: 'u' :: 'l' :: 'l' :: cs => some (.null, cs)
  | 't' :: 'r' :: 'u' :: 'e' :: cs => some (.bool true, cs)
  | 'f' :: 'a' :: 'l' :: 's' :: 'e' :: cs => some (.bool false, cs)
  | '"' :: cs => (literal? cs).map fun (units, rest) =>
    (.string ((spell? units).map String.ofList), rest)
  | cs => (number? cs).map fun (n, rest) => (.number n, rest)

/-- Whether a character may stand between tokens. -/
def isSpace (c : Char) : Bool := c == ' ' || c == '\n' || c == '\t' || c == '\r'

/-- Cuts off up to `fuel` tokens; nothing if text is left. -/
def tokensWithin? : Nat → List Char → Option (List Token)
  | 0, _ => none
  | fuel + 1, cs =>
    match cs.dropWhile isSpace with
    | [] => some []
    | c :: cs => do
      let (t, rest) ← token? (c :: cs)
      let ts ← tokensWithin? fuel rest
      return t :: ts

/-- The tokens of a text. Every token takes at least one character. -/
def tokens? (cs : List Char) : Option (List Token) := tokensWithin? (cs.length + 1) cs

/-! ### Values -/

/-- An array or object that is still open, with what it holds so far, last first. -/
inductive Frame where
  | items (items : List Json)
  | members (members : List (Option String × Json))
  | member (members : List (Option String × Json)) (name : Option String)

/-- What may come next. -/
inductive Want where
  | value
  | firstItem
  | firstMember
  | memberName
  | colon
  | more

/-- Puts a value into the innermost open frame that waits for one. -/
def place (v : Json) : List Frame → Option (List Frame)
  | .items items :: frames => some (.items (v :: items) :: frames)
  | .member members name :: frames => some (.members ((name, v) :: members) :: frames)
  | _ => none

/-- The value of a token that is one by itself. -/
def scalar? : Token → Option Json
  | .null => some .null
  | .bool b => some (.bool b)
  | .number n => some (.number n)
  | .string s => some (.string s)
  | _ => none

/-- Puts tokens together with the frames that are open. Nothing may follow the outermost value. -/
def build? (frames : List Frame) (want : Want) : List Token → Option Json
  | [] => none
  | t :: ts =>
    let finish (v : Json) (frames : List Frame) : Option Json :=
      match frames with
      | [] => if ts.isEmpty then some v else none
      | _ => (place v frames).bind fun frames => build? frames .more ts
    match want, t, frames with
    | .firstItem, .closeArray, .items _ :: frames => finish (.array []) frames
    | .firstMember, .closeObject, .members _ :: frames => finish (.object []) frames
    | .firstMember, .string s, .members ms :: frames =>
      build? (.member ms s :: frames) .colon ts
    | .memberName, .string s, .members ms :: frames =>
      build? (.member ms s :: frames) .colon ts
    | .colon, .colon, frames => build? frames .value ts
    | .more, .comma, .items items :: frames => build? (.items items :: frames) .value ts
    | .more, .comma, .members ms :: frames => build? (.members ms :: frames) .memberName ts
    | .more, .closeArray, .items items :: frames => finish (.array items.reverse) frames
    | .more, .closeObject, .members ms :: frames => finish (.object ms.reverse) frames
    | .value, t, frames | .firstItem, t, frames =>
      match t with
      | .openArray => build? (.items [] :: frames) .firstItem ts
      | .openObject => build? (.members [] :: frames) .firstMember ts
      | t => (scalar? t).bind fun v => finish v frames
    | _, _, _ => none

/-- The value of a text. -/
def parse? (s : String) : Option Json := (tokens? s.toList).bind (build? [] .value)

end WorldAccess.Json
