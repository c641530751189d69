import WorldAccess.Text.Blank
import WorldAccess.Text.Case
import WorldAccess.Text.CompositionTable

/-!
# Canonical composition and folded names

Texts that are canonically equivalent have one composed form: every character is taken apart as far
as possible, the combining marks after each base are put in the order of their classes, and bases
and marks are put together again where a single character stands for them.

Names are looked up by their folded form: without the blanks around them, composed, and in small
letters.

## Main definitions

* `Text.decompose` — a character taken apart
* `Text.orderMarks` — combining marks in the order of their classes
* `Text.composePair?` — the character that stands for two
* `Text.compose` — the composed form of a text
* `Text.fold` — the form of a name by which it is looked up
-/

namespace WorldAccess.Text

/-- The combining class of a character; zero for a character that starts anew. -/
def combiningClass (c : Char) : Nat :=
  let n := c.toNat
  if n < 0x300 then 0
  else match combiningClasses.find? fun r => r.first ≤ n && n ≤ r.last with
    | some r => r.combiningClass
    | none => 0

/-- The first Hangul syllable. -/
def hangulBase : Nat := 0xAC00

/-- The parts that a character is made of: one step for a listed character, all jamo for a Hangul
syllable, nothing for a character that cannot be taken apart. -/
def parts (n : Nat) : List Nat :=
  if n < 0xC0 then []
  else if hangulBase ≤ n ∧ n < hangulBase + 11172 then
    let s := n - hangulBase
    let t := s % 28
    [0x1100 + s / 588, 0x1161 + s % 588 / 28] ++ if t = 0 then [] else [0x11A7 + t]
  else
    match (composites ++ decomposedOnly).find? fun entry => entry / 0x10000000000 == n with
    | some entry =>
      let second := entry % 0x100000
      entry / 0x100000 % 0x100000 :: if second = 0 then [] else [second]
    | none => []

/-- Takes a character apart, its first part at most `depth` times more. -/
def decomposeTo : Nat → Nat → List Nat
  | 0, n => [n]
  | depth + 1, n =>
    match parts n with
    | [] => [n]
    | ps => ps.flatMap (decomposeTo depth)

/-- A character taken apart. No character needs more than four steps. -/
def decompose (c : Char) : List Char := (decomposeTo 4 c.toNat).map Char.ofNat

/-- Puts a combining mark in front of a text whose marks are in order, behind those of its first
marks that have a lower class. -/
def insertMark (c : Char) : List Char → List Char
  | [] => [c]
  | d :: ds =>
    if combiningClass d ≠ 0 ∧ combiningClass d < combiningClass c then d :: insertMark c ds
    else c :: d :: ds

/-- Puts each run of combining marks in the order of their classes, equal classes as they stand. -/
def orderMarks : List Char → List Char
  | [] => []
  | c :: cs => if combiningClass c = 0 then c :: orderMarks cs else insertMark c (orderMarks cs)

/-- The character that stands for two neighbours. -/
def composePair? (a b : Char) : Option Char :=
  let x := a.toNat
  let y := b.toNat
  if 0x1100 ≤ x ∧ x < 0x1113 ∧ 0x1161 ≤ y ∧ y < 0x1176 then
    some (Char.ofNat (hangulBase + ((x - 0x1100) * 21 + (y - 0x1161)) * 28))
  else if hangulBase ≤ x ∧ x < hangulBase + 11172 ∧ (x - hangulBase) % 28 = 0
      ∧ 0x11A8 ≤ y ∧ y < 0x11C3 then
    some (Char.ofNat (x + (y - 0x11A7)))
  else if y < 0x300 then none
  else (composites.find? fun entry => entry / 0x100000 % 0x100000 == x && entry % 0x100000 == y).map
    fun entry => Char.ofNat (entry / 0x10000000000)

/-- Puts an ordered text together. `base` is the last character with class zero so far, if any;
`marks` are the marks since then that stay, given backwards. A mark reaches the base unless an
earlier one of its own or a higher class is in the way. -/
def composeFrom (base : Option Char) (marks : List Char) : List Char → List Char
  | [] => base.toList ++ marks.reverse
  | c :: cs =>
    let reaches := match marks with
      | [] => true
      | m :: _ => combiningClass m < combiningClass c
    match (if reaches then base.bind (composePair? · c) else none) with
    | some joined => composeFrom (some joined) marks cs
    | none =>
      if combiningClass c = 0 then base.toList ++ marks.reverse ++ composeFrom (some c) [] cs
      else composeFrom base (c :: marks) cs

/-- The composed form of a text. -/
def compose (cs : List Char) : List Char :=
  composeFrom none [] (orderMarks (cs.flatMap decompose))

/-- The form of a name by which it is looked up. -/
def fold (name : String) : List Char := lower (compose (trim name.toList))

end WorldAccess.Text
