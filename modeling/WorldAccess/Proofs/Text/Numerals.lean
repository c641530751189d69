import WorldAccess.Text.Blank
import WorldAccess.Text.Numeral

/-!
# What is read as a numeral

A numeral is read digit by digit, and the reading stops at the first digit that takes the value past
the bound. No digit makes a value smaller, so a value that ends within the bound has been within it
all the time: what is read is what the digits spell, if that is within the bound.

## Main definitions

* `Text.Spells` — a number in decimal digits, with or without leading zeros
* `Text.IsNumeral` — the same with a plus sign or none

## Main results

* `Text.readNumeral_eq_ok_iff` — what is read as a numeral
* `Text.isNumeral_decimal` — a written number is a numeral
-/

namespace WorldAccess.Text

variable {c : Char} {cs : List Char} {bound acc n : Nat}

/-! ### Digits -/

theorem isDigit_iff : c.isDigit = true ↔ 48 ≤ c.toNat ∧ c.toNat ≤ 57 := by
  rw [Char.isDigit, Bool.and_eq_true, decide_eq_true_eq, decide_eq_true_eq, ge_iff_le,
    UInt32.le_iff_toNat_le, UInt32.le_iff_toNat_le]
  rfl

/-- A digit is no blank. -/
theorem isBlank_of_isDigit (digit : c.isDigit = true) : isBlank c = false := by
  obtain ⟨low, high⟩ := isDigit_iff.mp digit
  simp [isBlank]
  omega

/-- The digits of a number are digits. -/
theorem isDigit_of_mem_decimal (h : c ∈ decimal n) : c.isDigit = true :=
  Nat.isDigit_of_mem_toDigits (by decide) (by decide) h

/-- The digits of a number have its value. -/
theorem foldl_decimal (n : Nat) :
    (decimal n).foldl (fun n c => n * 10 + (c.toNat - 48)) 0 = n := by
  have value := Nat.ofDigitChars_ten_toDigits (n := n)
  unfold Nat.ofDigitChars at value
  simp only [Nat.mul_comm 10] at value
  exact value

theorem digitValue?_of_isDigit (digit : c.isDigit = true) :
    digitValue? 10 c = some (c.toNat - '0'.toNat) := by
  obtain ⟨low, high⟩ := isDigit_iff.mp digit
  have small : c.toNat - 48 < 10 := by omega
  simp only [digitValue?, if_pos (And.intro low high), if_pos small]
  rfl

theorem digitValue?_of_not_isDigit (other : c.isDigit ≠ true) : digitValue? 10 c = none := by
  have apart : ¬(48 ≤ c.toNat ∧ c.toNat ≤ 57) := fun range => other (isDigit_iff.mpr range)
  rw [digitValue?, if_neg apart, if_neg]
  -- the letters have values from ten on
  split
  next => omega
  next =>
    split <;> omega

/-- No digit makes a value smaller. -/
theorem le_ofDigitChars (acc : Nat) (cs : List Char) : acc ≤ Nat.ofDigitChars 10 cs acc := by
  induction cs generalizing acc with
  | nil => exact Nat.le_refl acc
  | cons c cs ih =>
    have grown := ih (10 * acc + (c.toNat - '0'.toNat))
    rw [Nat.ofDigitChars_cons]
    omega

theorem readDigits_eq_ok_iff (le : acc ≤ bound) : readDigits 10 bound cs acc = .ok n ↔
    (∀ c ∈ cs, c.isDigit = true) ∧ Nat.ofDigitChars 10 cs acc = n ∧ n ≤ bound := by
  -- the value read so far grows with each digit, and is within the bound as long as reading goes on
  induction cs generalizing acc with
  | nil =>
    rw [readDigits, Nat.ofDigitChars_nil, Except.ok.injEq]
    refine ⟨?_, fun ⟨_, same, _⟩ => same⟩
    rintro rfl
    exact ⟨fun _ => nofun, rfl, le⟩
  | cons c cs ih =>
    rw [readDigits]
    by_cases digit : c.isDigit = true
    · rw [digitValue?_of_isDigit digit, List.forall_mem_cons, Nat.ofDigitChars_cons,
        Nat.mul_comm 10]
      dsimp only
      by_cases fits : acc * 10 + (c.toNat - '0'.toNat) ≤ bound
      · rw [if_pos fits, ih fits, eq_true digit, true_and]
      · -- the digits that follow cannot bring the value back within the bound
        rw [if_neg fits]
        refine ⟨nofun, ?_⟩
        rintro ⟨_, rfl, within⟩
        exact absurd (Nat.le_trans (le_ofDigitChars _ cs) within) fits
    · rw [digitValue?_of_not_isDigit digit]
      exact ⟨nofun, fun ⟨digits, _⟩ => absurd (digits c List.mem_cons_self) digit⟩

/-! ### Numerals -/

/-- One or more decimal digits that spell a number. -/
structure Spells (cs : List Char) (n : Nat) : Prop where
  nonempty : cs ≠ []
  digits : ∀ c ∈ cs, c.isDigit = true
  value : Nat.ofDigitChars 10 cs 0 = n

/-- Digits that spell a number, with a plus sign in front or without. -/
inductive IsNumeral : List Char → Nat → Prop where
  | bare {cs : List Char} {n : Nat} (h : Spells cs n) : IsNumeral cs n
  | signed {cs : List Char} {n : Nat} (h : Spells cs n) : IsNumeral ('+' :: cs) n

theorem spells_decimal (n : Nat) : Spells (decimal n) n where
  nonempty := Nat.toDigits_ne_nil
  digits _ := isDigit_of_mem_decimal
  value := Nat.ofDigitChars_ten_toDigits

theorem isNumeral_decimal (n : Nat) : IsNumeral (decimal n) n := .bare (spells_decimal n)

theorem not_spells_plus : ¬Spells ('+' :: cs) n := fun h =>
  absurd (h.digits '+' List.mem_cons_self) (by decide)

theorem isNumeral_plus_iff : IsNumeral ('+' :: cs) n ↔ Spells cs n := by
  constructor
  · intro h
    cases h with
    | bare h => exact absurd h not_spells_plus
    | signed h => exact h
  · exact .signed

theorem isNumeral_iff_of_head (unsigned : cs.head? ≠ some '+') : IsNumeral cs n ↔ Spells cs n := by
  constructor
  · intro h
    cases h with
    | bare h => exact h
    | signed => exact absurd rfl unsigned
  · exact .bare

theorem readDigits_zero_eq_ok_iff (ne : cs ≠ []) :
    readDigits 10 bound cs 0 = .ok n ↔ Spells cs n ∧ n ≤ bound := by
  rw [readDigits_eq_ok_iff (Nat.zero_le bound)]
  constructor
  · rintro ⟨digits, value, within⟩
    exact ⟨⟨ne, digits, value⟩, within⟩
  · rintro ⟨⟨_, digits, value⟩, within⟩
    exact ⟨digits, value, within⟩

/-- A text is read as a number iff it is a numeral of that number, and within the bound. -/
theorem readNumeral_eq_ok_iff :
    readNumeral 10 bound cs = .ok n ↔ IsNumeral cs n ∧ n ≤ bound := by
  unfold readNumeral
  split
  next =>
    rw [isNumeral_iff_of_head (by decide)]
    exact ⟨nofun, fun ⟨h, _⟩ => absurd rfl h.nonempty⟩
  next =>
    -- a sign alone spells nothing
    rw [isNumeral_plus_iff]
    exact ⟨nofun, fun ⟨h, _⟩ => absurd rfl h.nonempty⟩
  next ne =>
    rw [isNumeral_plus_iff, readDigits_zero_eq_ok_iff fun none => ne none]
  next ne _ unsigned =>
    have other : cs.head? ≠ some '+' := by
      intro signed
      obtain ⟨rest, rfl⟩ := List.head?_eq_some_iff.mp signed
      exact unsigned rest rfl
    rw [isNumeral_iff_of_head other, readDigits_zero_eq_ok_iff ne]

/-- Numbers of a fixed width are read up to the greatest of them. -/
theorem map_readNumeral_eq_ok_iff {α : Type} {ofNat : Nat → α} {toNat : α → Nat} {x : α}
    (toNat_ofNat : ∀ n ≤ bound, toNat (ofNat n) = n) (ofNat_toNat : ofNat (toNat x) = x)
    (fits : toNat x ≤ bound) :
    (readNumeral 10 bound cs).map ofNat = .ok x ↔ IsNumeral cs (toNat x) := by
  constructor
  · intro read
    cases found : readNumeral 10 bound cs with
    | error =>
      rw [found] at read
      cases read
    | ok n =>
      obtain ⟨numeral, within⟩ := readNumeral_eq_ok_iff.mp found
      rw [found] at read
      obtain rfl : ofNat n = x := Except.ok.inj read
      rw [toNat_ofNat n within]
      exact numeral
  · intro numeral
    rw [readNumeral_eq_ok_iff.mpr ⟨numeral, fits⟩, Except.map, ofNat_toNat]

theorem readUInt32_eq_ok_iff {x : UInt32} : readUInt32 cs = .ok x ↔ IsNumeral cs x.toNat :=
  map_readNumeral_eq_ok_iff (fun _ le => UInt32.toNat_ofNat_of_lt' (Nat.lt_succ_of_le le))
    UInt32.ofNat_toNat (Nat.le_of_lt_succ x.toNat_lt)

theorem readUInt64_eq_ok_iff {x : UInt64} : readUInt64 cs = .ok x ↔ IsNumeral cs x.toNat :=
  map_readNumeral_eq_ok_iff (fun _ le => UInt64.toNat_ofNat_of_lt' (Nat.lt_succ_of_le le))
    UInt64.ofNat_toNat (Nat.le_of_lt_succ x.toNat_lt)

end WorldAccess.Text
