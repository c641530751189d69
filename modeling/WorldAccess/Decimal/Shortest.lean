import WorldAccess.Text.Numeral

/-!
# The shortest decimal of a floating-point number

A double is written with the fewest digits that single it out: of the decimals that round to it, one
with the fewest digits, and of those the nearest. Where two are equally near, it depends on the use
which one is written. Everything is decided in natural numbers. A finite
double is a mantissa times a power of two; the reals that round to it reach half a unit to either
side, a quarter below a power of two, and include their ends when the mantissa is even.

## Main definitions

* `Decimal.Binary`, `Decimal.ofFloat?` — a finite double taken apart
* `Decimal.Tie` — which of two equally near decimals is written
* `Decimal.shortest` — coefficient and exponent of the shortest decimal
* `Decimal.displayed` — positional text without a needless fraction
-/

namespace WorldAccess.Decimal

/-- Which of two equally near decimals is written: the one with the even coefficient, or the greater
one. -/
inductive Tie where
  | even
  | greater
deriving DecidableEq

/-- A positive number `mantissa * 2 ^ exponent`; `tight` when the numbers below lie half as dense
again, as they do below a power of two. -/
structure Binary where
  mantissa : Nat
  exponent : Int
  tight : Bool

/-- A coefficient times a power of ten. -/
structure Scaled where
  coefficient : Nat
  exponent : Int
deriving DecidableEq

/-- The sign of a double is its first bit. -/
def isNegative (x : Float) : Bool := x.toBits >>> 63 == 1

/-- The first bit of the mantissa, `2 ^ 52`, which is not stored and is missing in the smallest
doubles. -/
def hiddenBit : Nat := 0x10000000000000

/-- The absolute value of a finite nonzero double, taken apart. -/
def ofFloat? (x : Float) : Option Binary :=
  let bits := x.toBits.toNat
  let field := bits / hiddenBit % 0x800
  let fraction := bits % hiddenBit
  if field = 2047 then none
  else if field = 0 then
    if fraction = 0 then none else some ⟨fraction, -1074, false⟩
  else some ⟨hiddenBit + fraction, (field : Int) - 1075, fraction = 0 ∧ 1 < field⟩

/-- A ratio of natural numbers. -/
structure Ratio where
  num : Nat
  den : Nat

namespace Ratio

/-- The order of two ratios with positive denominators. -/
def le (a b : Ratio) : Bool := a.num * b.den ≤ b.num * a.den

/-- Strict order of two ratios with positive denominators. -/
def lt (a b : Ratio) : Bool := a.num * b.den < b.num * a.den

/-- The distance between two ratios. -/
def distance (a b : Ratio) : Ratio :=
  let x := a.num * b.den
  let y := b.num * a.den
  ⟨if x ≤ y then y - x else x - y, a.den * b.den⟩

/-- `m` times an integer power of `base`. -/
def scaled (base m : Nat) (e : Int) : Ratio :=
  if 0 ≤ e then ⟨m * Nat.pow base e.toNat, 1⟩ else ⟨m, Nat.pow base e.natAbs⟩

end Ratio

namespace Binary

/-- The number itself. -/
def value (b : Binary) : Ratio := .scaled 2 (4 * b.mantissa) (b.exponent - 2)

/-- The least real that may round to the number. -/
def lower (b : Binary) : Ratio :=
  .scaled 2 (4 * b.mantissa - if b.tight then 1 else 2) (b.exponent - 2)

/-- The greatest real that may round to the number. -/
def upper (b : Binary) : Ratio := .scaled 2 (4 * b.mantissa + 2) (b.exponent - 2)

/-- Whether a real rounds to the number. -/
def catches (b : Binary) (r : Ratio) : Bool :=
  if b.mantissa % 2 = 0 then b.lower.le r && r.le b.upper else b.lower.lt r && r.lt b.upper

/-- The exponent `k` with `10 ^ (k - 1) ≤ value < 10 ^ k`. -/
def magnitude (b : Binary) : Int :=
  let v := b.value
  if v.den ≤ v.num then ((Text.decimal (v.num / v.den)).length : Int)
  else 1 - ((Text.decimal ((v.den + v.num - 1) / v.num - 1)).length : Int)

/-- The two points of the grid `10 ^ e` next to the number, if they round to it. The nearer one is
first, and at equal distance the one that `tie` prefers. -/
def neighbours (b : Binary) (tie : Tie) (e : Int) : List Scaled :=
  let v := b.value
  let unit := Ratio.scaled 10 1 e
  let below := v.num * unit.den / (v.den * unit.num)
  let point (c : Nat) : Ratio := Ratio.scaled 10 c e
  let down := (point below).distance v
  let up := (point (below + 1)).distance v
  let ordered :=
    if down.lt up || (down.le up && tie == .even && below % 2 == 0) then [below, below + 1]
    else [below + 1, below]
  (ordered.filter fun c => c != 0 && b.catches (point c)).map fun c => ⟨c, e⟩

/-- The first hit on the grids with `digits`, `digits + 1`, ... significant digits. -/
def search (b : Binary) (tie : Tie) (k : Int) : Nat → Nat → Option Scaled
  | 0, _ => none
  | fuel + 1, digits =>
    match b.neighbours tie (k - digits) with
    | s :: _ => some s
    | [] => b.search tie k fuel (digits + 1)

end Binary

/-- A coefficient without trailing zeros, the exponent raised to match. -/
def Scaled.reduced (s : Scaled) : Scaled :=
  let digits := (Text.decimal s.coefficient).reverse
  let zeros := (digits.takeWhile (· == '0')).length
  if s.coefficient = 0 then ⟨0, 0⟩ else ⟨s.coefficient / Nat.pow 10 zeros, s.exponent + zeros⟩

/-- The shortest decimal that rounds to the number; seventeen digits always suffice. -/
def shortest (tie : Tie) (b : Binary) : Scaled :=
  ((b.search tie b.magnitude 17 1).getD ⟨b.mantissa, 0⟩).reduced

/-- The digits of the shortest decimal of a double's absolute value and its exponent; zero for
zero. -/
def digitsOf (tie : Tie) (x : Float) : List Char × Int :=
  match ofFloat? x with
  | none => (['0'], 0)
  | some b =>
    let s := shortest tie b
    (Text.decimal s.coefficient, s.exponent)

/-- The sign to write. -/
def sign (x : Float) : List Char := if isNegative x then ['-'] else []

/-- Digits with a point set into them or zeros added, never an exponent. -/
def positional (ds : List Char) (e : Int) : List Char :=
  let point := (ds.length : Int) + e
  if 0 ≤ e then ds ++ List.replicate e.toNat '0'
  else if 0 < point then ds.take point.toNat ++ '.' :: ds.drop point.toNat
  else '0' :: '.' :: (List.replicate point.natAbs '0' ++ ds)

/-- A finite double as it is shown to people: positional, and whole numbers without a fraction. Ties
go away from zero. -/
def displayed (x : Float) : String :=
  let (ds, e) := digitsOf .greater x
  String.ofList (sign x ++ positional ds e)

end WorldAccess.Decimal
