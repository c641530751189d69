import WorldAccess.Text.Blank
import WorldAccess.Text.Numeral

/-!
# Timestamps

A timestamp is a moment of the proleptic Gregorian calendar in universal time, to the nanosecond.
Its parts carry their bounds, so that there is no timestamp outside the calendar. A leap second is
kept as such: it is second 60 of its minute.

Timestamps are written in one form and read in many. Written, the fraction has no digit, three, six
or nine. Read, blanks may stand before each part, the separator may be a blank, the fraction may
have any number of digits, and the distance from universal time is taken off.

## Main definitions

* `Timestamp`, ordered by its parts, of which `Timestamp.Year`, `Timestamp.Month` and
  `Timestamp.Day` are those of the calendar
* `Timestamp.daysInMonth`, `Timestamp.nextDay?`, `Timestamp.previousDay?`
* `Timestamp.render`, `Timestamp.parse?`
-/

namespace WorldAccess

namespace Timestamp

/-! ### The calendar -/

/-- A year that can be represented. -/
structure Year where
  val : Int
  inRange : -262143 ≤ val ∧ val ≤ 262142
deriving DecidableEq

/-- A month, the first of which is 1. -/
structure Month where
  val : Nat
  inYear : 1 ≤ val ∧ val ≤ 12
deriving DecidableEq

/-- Whether a year has a 29 February. -/
def Year.isLeap (year : Year) : Bool :=
  year.val % 4 == 0 && (year.val % 100 != 0 || year.val % 400 == 0)

/-- The number of days of a month. -/
def daysInMonth (year : Year) (month : Month) : Nat :=
  match month.val with
  | 4 | 6 | 9 | 11 => 30
  | 2 => if year.isLeap then 29 else 28
  | _ => 31

/-- A day of a month, the first of which is 1. -/
structure Day (year : Year) (month : Month) where
  val : Nat
  inMonth : 1 ≤ val ∧ val ≤ daysInMonth year month
deriving DecidableEq

theorem daysInMonth_bounds (year : Year) (month : Month) :
    1 ≤ daysInMonth year month ∧ daysInMonth year month ≤ 31 := by
  unfold daysInMonth
  split
  case h_5 =>
    -- February
    split
    · decide
    · decide
  all_goals decide

/-- The year of a number, if it can be represented. -/
def Year.ofInt? (n : Int) : Option Year :=
  if h : -262143 ≤ n ∧ n ≤ 262142 then some ⟨n, h⟩ else none

/-- The month of a number, if there is one. -/
def Month.ofNat? (n : Nat) : Option Month :=
  if h : 1 ≤ n ∧ n ≤ 12 then some ⟨n, h⟩ else none

/-- The day of a number, if the month has so many. -/
def Day.ofNat? (year : Year) (month : Month) (n : Nat) : Option (Day year month) :=
  if h : 1 ≤ n ∧ n ≤ daysInMonth year month then some ⟨n, h⟩ else none

/-- A number, if it is below a bound. -/
def below? (bound n : Nat) : Option (Fin bound) := if h : n < bound then some ⟨n, h⟩ else none

/-- The first day of a month. -/
def Day.first (year : Year) (month : Month) : Day year month :=
  ⟨1, Nat.le_refl 1, (daysInMonth_bounds year month).1⟩

/-- The last day of a month. -/
def Day.last (year : Year) (month : Month) : Day year month :=
  ⟨daysInMonth year month, (daysInMonth_bounds year month).1, Nat.le_refl _⟩

/-- A numeral is the year of that number; the last year stands for any later one. -/
instance (n : Nat) : OfNat Year n := ⟨⟨min n 262142, by omega⟩⟩

/-- A numeral is the month of that number; the nearest month stands for a number of none. -/
instance (n : Nat) : OfNat Month n := ⟨⟨max 1 (min n 12), by omega⟩⟩

instance (year : Year) (month : Month) : OfNat (Day year month) 1 := ⟨.first year month⟩

end Timestamp

/-- A moment in universal time. Only a leap second is second 60. -/
structure Timestamp where
  year : Timestamp.Year
  month : Timestamp.Month
  day : Timestamp.Day year month
  hour : Fin 24
  minute : Fin 60
  second : Fin 61
  nanos : Fin 1000000000
deriving DecidableEq

namespace Timestamp

/-- The start of 1970. -/
def epoch : Timestamp := ⟨1970, 1, 1, 0, 0, 0, 0⟩

instance : Inhabited Timestamp := ⟨epoch⟩

/-- Whether the first moment is no later than the second: by year, month, day, hour, minute, second
and nanosecond in turn. -/
def atMost (s t : Timestamp) : Bool :=
  s.year.val < t.year.val || (s.year.val == t.year.val &&
    (s.month.val < t.month.val || (s.month.val == t.month.val &&
      (s.day.val < t.day.val || (s.day.val == t.day.val &&
        (s.hour < t.hour || (s.hour == t.hour &&
          (s.minute < t.minute || (s.minute == t.minute &&
            (s.second < t.second || (s.second == t.second &&
              s.nanos ≤ t.nanos)))))))))))

/-- The same time on the day after, if there is one. -/
def nextDay? (t : Timestamp) : Option Timestamp :=
  if h : t.day.val < daysInMonth t.year t.month then
    some { t with day := ⟨t.day.val + 1, by omega⟩ }
  else if h : t.month.val < 12 then
    some { t with month := ⟨t.month.val + 1, by omega⟩, day := 1 }
  else (Year.ofInt? (t.year.val + 1)).map fun year => { t with year, month := 1, day := 1 }

/-- The same time on the day before, if there is one. -/
def previousDay? (t : Timestamp) : Option Timestamp :=
  if h : 1 < t.day.val then
    some { t with day := ⟨t.day.val - 1, by have := t.day.inMonth; omega⟩ }
  else if h : 1 < t.month.val then
    some { t with
      month := ⟨t.month.val - 1, by have := t.month.inYear; omega⟩
      day := .last _ _ }
  else
    (Year.ofInt? (t.year.val - 1)).map fun year => { t with year, month := 12, day := .last _ _ }

/-- The moment `minutes` earlier, for less than a day in either direction; the seconds stay. -/
def shiftBack? (t : Timestamp) (minutes : Int) : Option Timestamp :=
  let total := (t.hour.val * 60 + t.minute.val : Int) - minutes
  let within := (total % 1440).toNat
  let moved := { t with
    hour := ⟨within / 60, by omega⟩
    minute := ⟨within % 60, Nat.mod_lt _ (by decide)⟩ }
  if total < 0 then moved.previousDay?
  else if 1440 ≤ total then moved.nextDay?
  else some moved

/-! ### Writing -/

/-- A number in decimal with zeros in front up to the given width. -/
def padded (width n : Nat) : List Char :=
  let digits := Text.decimal n
  List.replicate (width - digits.length) '0' ++ digits

/-- The year in four digits; beyond 0 to 9999 with its sign in front. -/
def renderYear (year : Int) : List Char :=
  if 0 ≤ year ∧ year ≤ 9999 then padded 4 year.toNat
  else if year < 0 then '-' :: padded 4 year.natAbs
  else '+' :: padded 4 year.natAbs

/-- The fraction of a second in the fewest of no, three, six or nine digits. -/
def renderFraction (nanos : Nat) : List Char :=
  if nanos = 0 then []
  else if nanos % 1000000 = 0 then '.' :: padded 3 (nanos / 1000000)
  else if nanos % 1000 = 0 then '.' :: padded 6 (nanos / 1000)
  else '.' :: padded 9 nanos

/-- The text of a timestamp, ending in `Z` for universal time. -/
def render (t : Timestamp) : String :=
  String.ofList (renderYear t.year.val ++ '-' :: padded 2 t.month.val ++ '-' :: padded 2 t.day.val
    ++ 'T' :: padded 2 t.hour.val ++ ':' :: padded 2 t.minute.val ++ ':' :: padded 2 t.second.val
    ++ renderFraction t.nanos.val ++ ['Z'])

/-! ### Reading -/

/-- The value of a run of decimal digits. -/
def digitsValue (ds : List Char) : Nat := Nat.ofDigitChars 10 ds 0

/-- A run of digits stands for less than the number with one digit more. -/
theorem digitsValue_lt {ds : List Char} (digits : ds.all Char.isDigit = true) :
    digitsValue ds < Nat.pow 10 ds.length := by
  -- the digits that have been read so far are worth `n`
  have run : ∀ n, Nat.ofDigitChars 10 ds n < (n + 1) * Nat.pow 10 ds.length := by
    induction ds with
    | nil => simp
    | cons c ds ih =>
      intro n
      obtain ⟨first, rest⟩ := Bool.and_eq_true_iff.mp digits
      have small : c.toNat - '0'.toNat ≤ 9 :=
        Nat.sub_le_sub_right (Char.isDigit_iff_toNat.mp first).2 _
      rw [Nat.ofDigitChars_cons]
      calc
        _ < (10 * n + (c.toNat - '0'.toNat) + 1) * Nat.pow 10 ds.length := ih rest _
        _ ≤ (n + 1) * 10 * Nat.pow 10 ds.length := Nat.mul_le_mul_right _ (by omega)
        _ = (n + 1) * Nat.pow 10 (ds.length + 1) := by
          rw [Nat.mul_assoc, Nat.mul_comm 10]
          rfl
  simpa [digitsValue] using run 0

/-- Blanks, then one up to `most` digits. -/
def readNumber? (most : Nat) (cs : List Char) : Option (Nat × List Char) :=
  let cs := Text.trimLeft cs
  let digits := (cs.take most).takeWhile Char.isDigit
  if digits.isEmpty then none else some (digitsValue digits, cs.drop digits.length)

/-- A year: up to four digits, or a sign and any number of them. -/
def readYear? (cs : List Char) : Option (Int × List Char) :=
  match Text.trimLeft cs with
  | '-' :: rest => signed (-1) rest
  | '+' :: rest => signed 1 rest
  | cs => (readNumber? 4 cs).map fun (n, rest) => ((n : Int), rest)
where
  /-- The digits after a sign, which follow it at once. -/
  signed (sign : Int) (cs : List Char) : Option (Int × List Char) :=
    let digits := cs.takeWhile Char.isDigit
    if digits.isEmpty then none
    else some (sign * (digitsValue digits : Int), cs.drop digits.length)

/-- A number of at most two digits, taken for the part of a timestamp that it gives. -/
def readTwo? {α : Type} (part? : Nat → Option α) (cs : List Char) : Option (α × List Char) := do
  let (n, rest) ← readNumber? 2 cs
  let part ← part? n
  return (part, rest)

/-- The given mark, with blanks in front of it. -/
def readMark? (mark : Char) (cs : List Char) : Option (List Char) :=
  match Text.trimLeft cs with
  | c :: rest => if c = mark then some rest else none
  | [] => none

/-- A fraction of a second of at most nine digits is less than a second. -/
theorem nanos_lt {ds : List Char} (digits : ds.all Char.isDigit = true) (short : ds.length ≤ 9) :
    digitsValue ds * Nat.pow 10 (9 - ds.length) < 1000000000 := by
  calc
    _ < Nat.pow 10 ds.length * Nat.pow 10 (9 - ds.length) :=
      Nat.mul_lt_mul_of_pos_right (digitsValue_lt digits) (Nat.pow_pos (by decide))
    _ = Nat.pow 10 9 := by
      rw [Nat.pow_eq, Nat.pow_eq, ← Nat.pow_add, Nat.add_sub_cancel' short]

/-- The nanoseconds that the digits of a fraction stand for. Those beyond the ninth are passed over.
-/
def nanosOf (digits : List Char) (h : digits.all Char.isDigit = true) : Fin 1000000000 :=
  let kept := digits.take 9
  have keptDigits : kept.all Char.isDigit = true :=
    List.all_eq_true.mpr fun c among => List.all_eq_true.mp h c (List.mem_of_mem_take among)
  ⟨digitsValue kept * Nat.pow 10 (9 - kept.length),
    nanos_lt keptDigits (List.length_take_le 9 digits)⟩

/-- The nanoseconds of an optional fraction. -/
def readFraction? : List Char → Option (Fin 1000000000 × List Char)
  | '.' :: cs =>
    let digits := cs.takeWhile Char.isDigit
    if digits.isEmpty then none
    else some (nanosOf digits List.all_takeWhile, cs.drop digits.length)
  | cs => some (0, cs)

/-- Two digits in a row. -/
def readPair? : List Char → Option (Nat × List Char)
  | a :: b :: rest =>
    if a.isDigit ∧ b.isDigit then some (digitsValue [a, b], rest) else none
  | _ => none

/-- The distance from universal time in minutes: `UTC`, `Z`, or a sign, hours and minutes. -/
def readOffset? : List Char → Option (Int × List Char)
  | 'Z' :: rest | 'z' :: rest => some (0, rest)
  | sign :: rest =>
    if (sign :: rest.take 2).map Char.toUpper = ['U', 'T', 'C'] then some (0, rest.drop 2)
    else do
      let factor ← if sign = '+' then some (1 : Int)
        else if sign = '-' ∨ sign = '\u2212' then some (-1) else none
      let (hours, rest) ← readPair? rest
      let (minutes, rest) ← readPair? (rest.dropWhile fun c => c == ':' || Text.isBlank c)
      if minutes < 60 then some (factor * (hours * 60 + minutes : Nat), rest) else none
  | [] => none

/-- Reads a timestamp. Nothing but blanks may follow it. -/
def parse? (text : String) : Option Timestamp := do
  let (year, cs) ← readYear? text.toList
  let year ← Year.ofInt? year
  let cs ← readMark? '-' cs
  let (month, cs) ← readTwo? Month.ofNat? cs
  let cs ← readMark? '-' cs
  let (day, cs) ← readTwo? (Day.ofNat? year month) cs
  let cs ← match cs with
    | c :: rest => if c = 't' ∨ c = 'T' ∨ c = ' ' then some rest else none
    | [] => none
  let (hour, cs) ← readTwo? (below? 24) cs
  let cs ← readMark? ':' cs
  let (minute, cs) ← readTwo? (below? 60) cs
  let cs ← readMark? ':' cs
  let (second, cs) ← readTwo? (below? 61) cs
  let (nanos, cs) ← readFraction? cs
  let (offset, cs) ← readOffset? (Text.trimLeft cs)
  let given : Timestamp := ⟨year, month, day, hour, minute, second, nanos⟩
  if (Text.trimLeft cs).isEmpty ∧ offset.natAbs < 1440 then given.shiftBack? offset else none

end Timestamp

end WorldAccess
