import WorldAccess.Proofs.Text.Numerals
import WorldAccess.Time.Timestamp

/-!
# Written timestamps are read back

A timestamp is written with a fixed number of digits for each part, but for a year of more than
four, and with the fewest digits for the fraction. Each part is read up to where the next one
begins, and a fraction that is written short stands for the same number of nanoseconds. The text
ends in the mark of universal time, so nothing is taken off.

## Main results

* `Timestamp.readNumber?_padded`, `readYear?_render`, `readFraction?_render` — the parts
* `Timestamp.parse?_render` — a written timestamp is read back
-/

namespace WorldAccess.Timestamp

/-! ### Parts of the calendar -/

theorem Year.ofInt?_val (year : Year) : ofInt? year.val = some year := dif_pos year.inRange

theorem Month.ofNat?_val (month : Month) : ofNat? month.val = some month := dif_pos month.inYear

theorem Day.ofNat?_val {year : Year} {month : Month} (day : Day year month) :
    ofNat? year month day.val = some day := dif_pos day.inMonth

theorem below?_val {bound : Nat} (n : Fin bound) : below? bound n.val = some n := dif_pos n.isLt

/-! ### Padded numbers -/

theorem isDigit_of_mem_padded {width n : Nat} {c : Char} (h : c ∈ padded width n) :
    c.isDigit = true := by
  rcases List.mem_append.mp h with zero | digit
  · rw [List.eq_of_mem_replicate zero]
    decide
  · exact Text.isDigit_of_mem_decimal digit

theorem length_padded {width n : Nat} (positive : 0 < width) (h : n < Nat.pow 10 width) :
    (padded width n).length = width := by
  have short : (Text.decimal n).length ≤ width :=
    (Nat.length_toDigits_le_iff (by decide) positive).mpr h
  rw [padded, List.length_append, List.length_replicate]
  omega

/-- Zeros in front do not count. -/
theorem digitsValue_padded (width n : Nat) : digitsValue (padded width n) = n := by
  rw [digitsValue, padded, Nat.ofDigitChars_append, Nat.ofDigitChars_replicate_zero, Nat.mul_zero,
    Text.decimal, Nat.ofDigitChars_ten_toDigits]

theorem padded_ne_nil (width n : Nat) : padded width n ≠ [] := fun none =>
  Nat.toDigits_ne_nil (List.append_eq_nil_iff.mp none).2

/-- A padded number begins with a digit. -/
theorem exists_cons_padded (width n : Nat) :
    ∃ c cs, padded width n = c :: cs ∧ c.isDigit = true := by
  obtain ⟨c, cs, form⟩ := List.exists_cons_of_ne_nil (padded_ne_nil width n)
  exact ⟨c, cs, form, isDigit_of_mem_padded (by rw [form]; exact List.mem_cons_self)⟩

theorem trimLeft_padded (width n : Nat) (rest : List Char) :
    Text.trimLeft (padded width n ++ rest) = padded width n ++ rest :=
  Text.trimLeft_of_visible (padded_ne_nil width n)
    (fun _ among => Text.isBlank_of_isDigit (isDigit_of_mem_padded among)) rest

/-- The digits of a padded number end where something else begins. -/
theorem takeWhile_padded (width n : Nat) {rest : List Char}
    (stops : ∀ c ∈ rest.head?, c.isDigit = false) :
    (padded width n ++ rest).takeWhile Char.isDigit = padded width n := by
  have none : rest.takeWhile Char.isDigit = [] := by
    cases rest with
    | nil => rfl
    | cons c cs => simp [stops c rfl]
  rw [List.takeWhile_append_of_pos fun c => isDigit_of_mem_padded, none, List.append_nil]

/-- A number that is written with as many digits as may be read is read back, whatever follows. -/
theorem readNumber?_padded {width n : Nat} (positive : 0 < width) (h : n < Nat.pow 10 width)
    (rest : List Char) : readNumber? width (padded width n ++ rest) = some (n, rest) := by
  have length := length_padded positive h
  obtain ⟨c, cs, form, _⟩ := exists_cons_padded width n
  have digits : (padded width n).takeWhile Char.isDigit = padded width n := by
    have none : ∀ c ∈ ([] : List Char).head?, c.isDigit = false := by simp
    have all := takeWhile_padded width n none
    rwa [List.append_nil] at all
  rw [readNumber?, trimLeft_padded, List.take_left' length, digits, if_neg (by simp [form]),
    digitsValue_padded, List.drop_left]

theorem readTwo?_padded {α : Type} {part? : Nat → Option α} {part : α} {n : Nat}
    (given : part? n = some part) (two : n < 100) (rest : List Char) :
    readTwo? part? (padded 2 n ++ rest) = some (part, rest) := by
  have read : readNumber? 2 (padded 2 n ++ rest) = some (n, rest) :=
    readNumber?_padded (by decide) two rest
  simp [readTwo?, read, given]

theorem readMark?_cons {mark : Char} (visible : Text.isBlank mark = false) (rest : List Char) :
    readMark? mark (mark :: rest) = some rest := by
  have stays : Text.trimLeft (mark :: rest) = mark :: rest :=
    Text.trimLeft_of_head (by simpa using visible)
  rw [readMark?, stays]
  exact if_pos rfl

/-! ### Years and fractions -/

/-- A year is read back where a mark that is no digit follows. -/
theorem readYear?_render {year : Int} {rest : List Char}
    (stops : ∀ c ∈ rest.head?, c.isDigit = false) :
    readYear? (renderYear year ++ rest) = some (year, rest) := by
  have signed : ∀ sign : Int, readYear?.signed sign (padded 4 year.natAbs ++ rest) =
      some (sign * year.natAbs, rest) := by
    intro sign
    obtain ⟨c, cs, form, _⟩ := exists_cons_padded 4 year.natAbs
    rw [readYear?.signed, takeWhile_padded 4 year.natAbs stops, if_neg (by simp [form]),
      digitsValue_padded, List.drop_left]
  have unsigned : ∀ c, c.isDigit = true → c ≠ '-' ∧ c ≠ '+' := by
    rintro c digit
    constructor
    all_goals
      rintro rfl
      cases digit
  unfold renderYear
  split
  next plain =>
    -- four digits without a sign, the first of which is neither of the signs looked for
    obtain ⟨c, cs, form, digit⟩ := exists_cons_padded 4 year.toNat
    have small : year.toNat < 10000 := by omega
    have read : readNumber? 4 (padded 4 year.toNat ++ rest) = some (year.toNat, rest) :=
      readNumber?_padded (by decide) small rest
    have trimmed := trimLeft_padded 4 year.toNat rest
    have back : (year.toNat : Int) = year := Int.toNat_of_nonneg plain.1
    rw [readYear?, trimmed]
    rw [form, List.cons_append] at read ⊢
    split
    next same => exact absurd (List.cons.inj same).1 (unsigned c digit).1
    next same => exact absurd (List.cons.inj same).1 (unsigned c digit).2
    next =>
      rw [read, Option.map_some]
      dsimp only
      rw [back]
  next wide =>
    split
    next negative =>
      have back : -1 * (year.natAbs : Int) = year := by omega
      have read := signed (-1)
      rw [back] at read
      exact read
    next positive =>
      have back : 1 * (year.natAbs : Int) = year := by omega
      have read := signed 1
      rw [back] at read
      exact read

/-- Digits behind a point are read as a fraction, up to where something else begins. -/
theorem readFraction?_padded {width n : Nat} {nanos : Fin 1000000000} (positive : 0 < width)
    (most : width ≤ 9) (small : n < Nat.pow 10 width)
    (worth : n * Nat.pow 10 (9 - width) = nanos.val) {rest : List Char}
    (stops : ∀ c ∈ rest.head?, c.isDigit = false) :
    readFraction? ('.' :: padded width n ++ rest) = some (nanos, rest) := by
  have length := length_padded positive small
  have digits : (padded width n).all Char.isDigit = true :=
    List.all_eq_true.mpr fun _ => isDigit_of_mem_padded
  -- no digit is passed over, so nothing is lost
  have read : nanosOf (padded width n) digits = nanos := by
    have whole : (padded width n).take 9 = padded width n :=
      List.take_of_length_le (by rw [length]; exact most)
    refine Fin.ext ?_
    calc
      (nanosOf (padded width n) digits).val
        = digitsValue ((padded width n).take 9) *
            Nat.pow 10 (9 - ((padded width n).take 9).length) := rfl
      _ = n * Nat.pow 10 (9 - width) := by rw [whole, digitsValue_padded, length]
      _ = nanos.val := worth
  obtain ⟨c, cs, form, _⟩ := exists_cons_padded width n
  have nonempty : (padded width n).isEmpty = false := by rw [form]; rfl
  simp only [List.cons_append, readFraction?, takeWhile_padded width n stops, nonempty, read,
    List.drop_left, Bool.false_eq_true, if_false]

/-- A fraction is read back however short it is written. -/
theorem readFraction?_render (nanos : Fin 1000000000) {rest : List Char}
    (stops : ∀ c ∈ rest.head?, c.isDigit = false ∧ c ≠ '.') :
    readFraction? (renderFraction nanos.val ++ rest) = some (nanos, rest) := by
  have ends : ∀ c ∈ rest.head?, c.isDigit = false := fun c among => (stops c among).1
  unfold renderFraction
  split
  next none =>
    -- no fraction is written, and what follows must not be taken for one
    obtain rfl : nanos = 0 := Fin.ext none
    rw [List.nil_append]
    cases rest with
    | nil => rfl
    | cons c cs =>
      rw [readFraction?]
      rintro cs' ⟨⟩
      exact (stops '.' rfl).2 rfl
  next =>
    split
    next millis =>
      have small : nanos.val / 1000000 < 1000 := by omega
      have worth : nanos.val / 1000000 * 1000000 = nanos.val := by omega
      exact readFraction?_padded (by decide) (by decide) small worth ends
    next =>
      split
      next micros =>
        have small : nanos.val / 1000 < 1000000 := by omega
        have worth : nanos.val / 1000 * 1000 = nanos.val := by omega
        exact readFraction?_padded (by decide) (by decide) small worth ends
      next => exact readFraction?_padded (by decide) (by decide) nanos.isLt (Nat.mul_one _) ends

/-! ### Timestamps -/

/-- Nothing is taken off in universal time. -/
theorem shiftBack?_zero (t : Timestamp) : t.shiftBack? 0 = some t := by
  obtain ⟨year, month, day, hour, minute, second, nanos⟩ := t
  have total : (hour.val * 60 + minute.val : Int) - 0 =
      ((hour.val * 60 + minute.val : Nat) : Int) := by omega
  have within : (((hour.val * 60 + minute.val : Nat) : Int) % 1440).toNat =
      hour.val * 60 + minute.val := by omega
  -- the total of minutes stays within the day and gives back its two parts
  simp only [shiftBack?, total, within]
  rw [if_neg (by omega), if_neg (by omega)]
  have hours : (hour.val * 60 + minute.val) / 60 = hour.val := by omega
  have minutes : (hour.val * 60 + minute.val) % 60 = minute.val := by omega
  simp only [hours, minutes]

/-- A written timestamp is read back. -/
theorem parse?_render (t : Timestamp) : parse? t.render = some t := by
  have month := t.month.inYear
  have day := t.day.inMonth
  have longest := (daysInMonth_bounds t.year t.month).2
  have dash : Text.isBlank '-' = false := by decide
  have colon : Text.isBlank ':' = false := by decide
  have zulu : readOffset? (Text.trimLeft ['Z']) = some (0, []) := by decide
  rw [parse?, render, String.toList_ofList]
  simp only [List.append_assoc, List.cons_append]
  -- each part ends where the mark after it begins
  rw [readYear?_render (by simp), Option.bind_eq_bind, Option.bind_some]
  dsimp only
  rw [Year.ofInt?_val, Option.bind_eq_bind, Option.bind_some,
    readMark?_cons dash, Option.bind_eq_bind, Option.bind_some,
    readTwo?_padded t.month.ofNat?_val (by omega), Option.bind_eq_bind, Option.bind_some]
  dsimp only
  rw [readMark?_cons dash, Option.bind_eq_bind, Option.bind_some,
    readTwo?_padded t.day.ofNat?_val (by omega), Option.bind_eq_bind, Option.bind_some]
  dsimp only
  rw [if_pos (Or.inr (Or.inl rfl)), Option.bind_eq_bind, Option.bind_some,
    readTwo?_padded (below?_val t.hour) (by omega), Option.bind_eq_bind, Option.bind_some]
  dsimp only
  rw [readMark?_cons colon, Option.bind_eq_bind, Option.bind_some,
    readTwo?_padded (below?_val t.minute) (by omega), Option.bind_some]
  dsimp only
  rw [readMark?_cons colon, Option.bind_some,
    readTwo?_padded (below?_val t.second) (by omega), Option.bind_some]
  dsimp only
  rw [readFraction?_render t.nanos (by simp), Option.bind_some]
  dsimp only
  rw [zulu, Option.bind_some]
  dsimp only
  rw [if_pos ⟨by decide, by decide⟩, shiftBack?_zero]

end WorldAccess.Timestamp
