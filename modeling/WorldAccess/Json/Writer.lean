import WorldAccess.Json.Basic

/-!
# Writing JSON

Values are written on one line or over several. Only quotes, backslashes and control characters are
escaped.

## Main definitions

* `Json.compact` — a value without blanks
* `Json.pretty` — a value with a line for each item and member, set in by two blanks a level
* `Json.sorted` — a value with the members of every object in the order of their names
-/

namespace WorldAccess.Json

/-- A character as it stands in a string literal. -/
def escape (c : Char) : List Char :=
  match c with
  | '"' => ['\\', '"']
  | '\\' => ['\\', '\\']
  | '\x08' => ['\\', 'b']
  | '\x0c' => ['\\', 'f']
  | '\n' => ['\\', 'n']
  | '\r' => ['\\', 'r']
  | '\t' => ['\\', 't']
  | c =>
    if c.toNat < 0x20 then
      ['\\', 'u', '0', '0', Nat.digitChar (c.toNat / 16), Nat.digitChar (c.toNat % 16)]
    else [c]

/-- A string literal. -/
def quote (s : Option String) : List Char :=
  '"' :: (((s.getD "").toList.flatMap escape) ++ ['"'])

/-- The word for a truth value. -/
def truth (b : Bool) : List Char :=
  if b then ['t', 'r', 'u', 'e'] else ['f', 'a', 'l', 's', 'e']

mutual

/-- The text of a value without blanks. -/
def compact : Json → List Char
  | null => ['n', 'u', 'l', 'l']
  | bool b => truth b
  | number n => n.render
  | string s => quote s
  | array items => '[' :: compactItems items
  | object members => '{' :: compactMembers members

/-- The items and the closing bracket. -/
def compactItems : List Json → List Char
  | [] => [']']
  | [j] => j.compact ++ [']']
  | j :: js => j.compact ++ ',' :: compactItems js

/-- The members and the closing brace. -/
def compactMembers : List (Option String × Json) → List Char
  | [] => ['}']
  | [m] => quote m.1 ++ ':' :: (m.2.compact ++ ['}'])
  | m :: ms => quote m.1 ++ ':' :: (m.2.compact ++ ',' :: compactMembers ms)

end

/-- The text of a value on one line. -/
def line (j : Json) : String := String.ofList j.compact

/-- A new line, set in by two blanks a level. -/
def newLine (level : Nat) : List Char := '\n' :: List.replicate (2 * level) ' '

mutual

/-- The text of a value over several lines, its first line standing where it is. -/
def spread (level : Nat) : Json → List Char
  | array [] => ['[', ']']
  | object [] => ['{', '}']
  | array (j :: js) => '[' :: spreadItems level (j :: js)
  | object (m :: ms) => '{' :: spreadMembers level (m :: ms)
  | j => j.compact

/-- The items on lines of their own and the closing bracket. -/
def spreadItems (level : Nat) : List Json → List Char
  | [] => newLine level ++ [']']
  | [j] => newLine (level + 1) ++ j.spread (level + 1) ++ newLine level ++ [']']
  | j :: js => newLine (level + 1) ++ j.spread (level + 1) ++ ',' :: spreadItems level js

/-- The members on lines of their own and the closing brace. -/
def spreadMembers (level : Nat) : List (Option String × Json) → List Char
  | [] => newLine level ++ ['}']
  | [m] =>
    newLine (level + 1) ++ quote m.1 ++ ':' :: ' ' :: m.2.spread (level + 1)
      ++ newLine level ++ ['}']
  | m :: ms =>
    newLine (level + 1) ++ quote m.1 ++ ':' :: ' ' :: m.2.spread (level + 1)
      ++ ',' :: spreadMembers level ms

end

/-- The text of a value over several lines. -/
def pretty (j : Json) : String := String.ofList (j.spread 0)

/-- Puts a member before those with later names. -/
def insertMember (m : Option String × Json) : List (Option String × Json) →
    List (Option String × Json)
  | [] => [m]
  | other :: ms =>
    if m.1.getD "" ≤ other.1.getD "" then m :: other :: ms else other :: insertMember m ms

mutual

/-- The value with the members of every object in the order of their names. -/
def sorted : Json → Json
  | array items => array (sortedItems items)
  | object members => object (sortedMembers members)
  | j => j

/-- The items with their members in order. -/
def sortedItems : List Json → List Json
  | [] => []
  | j :: js => j.sorted :: sortedItems js

/-- The members in order. -/
def sortedMembers : List (Option String × Json) → List (Option String × Json)
  | [] => []
  | m :: ms => insertMember (m.1, m.2.sorted) (sortedMembers ms)

end

end WorldAccess.Json
