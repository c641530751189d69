/-!
# Unsigned numerals

Ids, hexadecimal rights and two settings are unsigned numbers of a fixed width. A numeral is an
optional plus sign and one or more digits. It is read from the left, so of two faults the one that
shows first is reported: a character that is no digit, or a digit that takes the value past the
bound.

## Main definitions

* `Text.readNumeral` — the value of a numeral, at most a given bound
* `Text.NumeralError` — why a text is no such numeral
* `Text.decimal` — the decimal digits of a number
-/

namespace WorldAccess.Text

/-- Why a text is not a numeral within its bound. -/
inductive NumeralError where
  | empty
  | invalidDigit
  | tooLarge
deriving DecidableEq

/-- The wording of a numeral error. -/
def NumeralError.message : NumeralError → String
  | .empty => "cannot parse integer from empty string"
  | .invalidDigit => "invalid digit found in string"
  | .tooLarge => "number too large to fit in target type"

/-- The value of a digit: the decimal digits, then the letters of either case. -/
def digitValue? (radix : Nat) (c : Char) : Option Nat :=
  let n := c.toNat
  let value :=
    if 48 ≤ n ∧ n ≤ 57 then n - 48
    else if 97 ≤ n ∧ n ≤ 122 then n - 87
    else if 65 ≤ n ∧ n ≤ 90 then n - 55
    else radix
  if value < radix then some value else none

/-- Reads digits onto the value `acc` of the digits before them. -/
def readDigits (radix bound : Nat) : List Char → Nat → Except NumeralError Nat
  | [], acc => .ok acc
  | c :: cs, acc =>
    match digitValue? radix c with
    | none => .error .invalidDigit
    | some d =>
      if acc * radix + d ≤ bound then readDigits radix bound cs (acc * radix + d)
      else .error .tooLarge

/-- The value of a numeral in the given radix, at most `bound`. -/
def readNumeral (radix bound : Nat) : List Char → Except NumeralError Nat
  | [] => .error .empty
  | ['+'] => .error .invalidDigit
  | '+' :: cs => readDigits radix bound cs 0
  | cs => readDigits radix bound cs 0

/-- The decimal digits of a number, without leading zeros. -/
def decimal (n : Nat) : List Char := Nat.toDigits 10 n

/-- The largest value of thirty-two bits. -/
def max32 : Nat := UInt32.size - 1

/-- The largest value of sixty-four bits. -/
def max64 : Nat := UInt64.size - 1

/-- A numeral of thirty-two bits. -/
def readUInt32 (cs : List Char) : Except NumeralError UInt32 :=
  (readNumeral 10 max32 cs).map Nat.toUInt32

/-- A numeral of sixty-four bits. -/
def readUInt64 (cs : List Char) : Except NumeralError UInt64 :=
  (readNumeral 10 max64 cs).map Nat.toUInt64

end WorldAccess.Text
