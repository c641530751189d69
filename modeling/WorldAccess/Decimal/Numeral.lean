import WorldAccess.Decimal.Shortest

/-!
# Numerals of data files

A numeral is a sign, whole digits, and perhaps a fraction and an exponent. Read as a double it is
its leading digits, as many as sixty-four bits hold, times or over a power of ten. The digits that
do not fit are dropped, those before the point counting as zeros. The product is rounded once more,
so the result need not be the double nearest to the numeral.

A double is written with its shortest digits, ties to the even one: positional while the point falls
within the first sixteen digits or at most four zeros follow it, else with an exponent that always
has a sign. Whole numbers keep a `.0`.

## Main definitions

* `Decimal.Numeral` — the parts of a numeral as written
* `Numeral.natural?`, `Numeral.integer?` — the value of one without fraction and exponent
* `Numeral.isInteger64` — whether one of the two is within sixty-four bits
* `Numeral.float?` — the double, unless it is out of range
* `Numeral.ofFloat` — the numeral of a double
* `Numeral.render` — the text of a numeral
* `Numeral.rewritten` — the numeral of the number that a numeral is read as
-/

namespace WorldAccess.Decimal

/-- A numeral as written. The digits of the fraction and the exponent come without their marks. -/
structure Numeral where
  negative : Bool
  whole : List Char
  fraction : Option (List Char) := none
  exponent : Option (Bool × List Char) := none
deriving DecidableEq

/-- The value of a decimal digit. -/
def digit (c : Char) : Nat := c.toNat - 48

/-- The value of a run of digits. -/
def value (ds : List Char) : Nat := ds.foldl (fun n c => n * 10 + digit c) 0

namespace Numeral

/-- The numeral of a natural number. -/
def ofNat (n : Nat) : Numeral := { negative := false, whole := Text.decimal n }

/-- The numeral of an integer. -/
def ofInt (n : Int) : Numeral := { negative := n < 0, whole := Text.decimal n.natAbs }

/-- Whether the numeral has neither a fraction nor an exponent. -/
def isWhole (n : Numeral) : Bool := n.fraction.isNone && n.exponent.isNone

/-- The value of a numeral without sign, fraction and exponent, if it is at most `bound`. -/
def natural? (bound : Nat) (n : Numeral) : Option Nat :=
  if n.isWhole ∧ n.negative = false ∧ value n.whole ≤ bound then some (value n.whole) else none

/-- The value of a numeral of sixty-four bits with a sign and without fraction and exponent. A zero
with a minus sign is no integer. -/
def integer? (n : Numeral) : Option Int64 :=
  if !n.isWhole then none
  else if n.negative then
    if value n.whole = 0 ∨ UInt64.size / 2 < value n.whole then none
    else some (Int64.ofInt (-(value n.whole : Int)))
  else if value n.whole < UInt64.size / 2 then some (Int64.ofInt (value n.whole)) else none

/-- Whether a numeral is an integer of sixty-four bits, with or without a sign. -/
def isInteger64 (n : Numeral) : Bool := (n.natural? Text.max64).isSome || n.integer?.isSome

/-- The leading digits that sixty-four bits hold, as one number, and the digits after them. -/
def gather : Nat → List Char → Nat × List Char
  | acc, [] => (acc, [])
  | acc, c :: cs =>
    if acc * 10 + digit c ≤ Text.max64 then gather (acc * 10 + digit c) cs else (acc, c :: cs)

/-- The gathered digits of a numeral and the power of ten they are to be multiplied with. -/
def significand (n : Numeral) : Nat × Int :=
  let (acc, dropped) := gather 0 n.whole
  match n.fraction with
  | none => (acc, dropped.length)
  | some fraction =>
    let (acc, rest) := gather acc fraction
    (acc, (dropped.length : Int) - ((fraction.length - rest.length : Nat) : Int))

/-- A power of ten as a double; its argument is at most 308. -/
def power (n : Nat) : Float := Float.ofScientific 1 false n

/-- Divides by a power of ten, in steps of 308 while anything is left. -/
def divided (x : Float) (n : Nat) : Float :=
  if n ≤ 308 then x / power n
  else if x == 0 then x
  else divided (x / power 308) (n - 308)
termination_by n

/-- A number times a power of ten, unless the result is too large. -/
def times? (acc : Nat) (e : Int) : Option Float :=
  let x := acc.toUInt64.toFloat
  if e < 0 then some (divided x e.natAbs)
  else if 308 < e then if acc = 0 then some x else none
  else
    let y := x * power e.toNat
    if y.isInf then none else some y

/-- An exponent beyond thirty-two bits counts as one at their limit. -/
def clamp (e : Int) : Int := max (-0x80000000) (min e 0x7FFFFFFF)

/-- The numeral as a double, or nothing when it is too large. -/
def float? (n : Numeral) : Option Float :=
  let (acc, e) := n.significand
  let magnitude? : Option Float :=
    match n.exponent with
    | none => times? acc e
    | some (down, ds) =>
      if 0x7FFFFFFF < value ds then if acc ≠ 0 ∧ down = false then none else some 0
      else times? acc (clamp (if down then e - value ds else e + value ds))
  magnitude?.map fun x => if n.negative then -x else x

/-- The numeral of a finite double. -/
def ofFloat (x : Float) : Numeral :=
  let (ds, e) := digitsOf .even x
  let point := (ds.length : Int) + e
  let negative := isNegative x
  if 0 ≤ e ∧ point ≤ 16 then
    { negative, whole := ds ++ List.replicate e.toNat '0', fraction := some ['0'] }
  else if 0 < point ∧ point ≤ 16 then
    { negative, whole := ds.take point.toNat, fraction := some (ds.drop point.toNat) }
  else if -5 < point ∧ point ≤ 0 then
    { negative, whole := ['0'], fraction := some (List.replicate point.natAbs '0' ++ ds) }
  else
    { negative
      whole := ds.take 1
      fraction := if ds.length = 1 then none else some (ds.drop 1)
      exponent := some (point - 1 < 0, Text.decimal (point - 1).natAbs) }

/-- The text of a numeral. An exponent has its sign. -/
def render (n : Numeral) : List Char :=
  (if n.negative then ['-'] else []) ++ n.whole
    ++ (match n.fraction with
      | some ds => '.' :: ds
      | none => [])
    ++ (match n.exponent with
      | some (down, ds) => 'e' :: (if down then '-' else '+') :: ds
      | none => [])

/-- The numeral that is written for the number a numeral is read as: itself for an integer of
sixty-four bits, with or without a sign, and else that of its double. One that is too large stays.
-/
def rewritten (n : Numeral) : Numeral :=
  if n.isInteger64 then n
  else match n.float? with
    | some x => ofFloat x
    | none => n

end Numeral

end WorldAccess.Decimal
