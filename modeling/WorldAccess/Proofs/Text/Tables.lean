import Mathlib.Data.List.Nodup
import Mathlib.Tactic.MkIffOfInductiveProp
import WorldAccess.Proofs.Text.Sets
import WorldAccess.Text.Composition

/-!
# What the character data says

Composition and lower-casing read long tables. What is proved about them rests on a few properties of
the tables: the parts of a letter are the letters of its small form but for their case, the
neighbours of a word cannot tell a letter from its parts, and so on. They are stated together and
checked once.

## Main definitions

* `Text.entries` — all entries for characters that can be taken apart
* `Text.smallPairs`, `Text.capitals` — the characters with a small letter, and those that
  lower-casing changes
* `Text.Checked` — the properties that are checked
* `Text.Taken` — the ways in which a character can be taken apart

## Main results

* `Text.parts_of_mem`, `Text.parts_cases` — what a character is made of
* `Text.smallLetter_of_mem`, `Text.smallLetter_of_not_mem` — the small letter of a character
* `Text.exists_small_entry` — the small letter of a capital that can be taken apart
-/

namespace WorldAccess.Text

variable {n m e : Nat} {c : Char}

/-! ### Entries -/

/-- All entries for characters that can be taken apart. -/
def entries : List Nat := composites ++ decomposedOnly

namespace Entry

/-- The character of an entry. -/
def whole (e : Nat) : Nat := e / 0x10000000000

/-- The first character that it is made of. -/
def first (e : Nat) : Nat := e / 0x100000 % 0x100000

/-- The second character that it is made of, or zero. -/
def second (e : Nat) : Nat := e % 0x100000

/-- The characters that it is made of. -/
def made (e : Nat) : List Nat := first e :: if second e = 0 then [] else [second e]

end Entry

open Entry

/-- The jamo of a Hangul syllable, which is given by its place among the syllables. -/
def jamo (s : Nat) : List Nat :=
  [0x1100 + s / 588, 0x1161 + s % 588 / 28] ++ if s % 28 = 0 then [] else [0x11A7 + s % 28]

/-! ### Small letters -/

/-- The capitals of a run with their small letters. -/
def CaseRun.pairs (r : CaseRun) : List (Nat × Nat) :=
  (List.range ((r.last - r.first) / r.step + 1)).map fun k =>
    (r.first + k * r.step, r.small + k * r.step)

/-- The characters with a single small letter. -/
def smallPairs : List (Nat × Nat) := smallForms.flatMap CaseRun.pairs

/-- The characters that lower-casing changes. -/
def capitals : List Nat := 0x130 :: smallPairs.map (·.1)

/-! ### Sets of characters -/

/-- Numbers that are not characters. -/
def surrogateBits : Nat := spans [(0xD800, 0xDFFF)]

/-- All jamo and Hangul syllables. -/
def hangulBits : Nat := spans [(0x1100, 0x11FF), (0xAC00, 0xD7A3)]

/-- The blanks. -/
def blankBits : Nat := spans [(9, 13), (0x20, 0x20), (0x85, 0x85), (0xA0, 0xA0), (0x1680, 0x1680),
  (0x2000, 0x200A), (0x2028, 0x2028), (0x2029, 0x2029), (0x202F, 0x202F), (0x205F, 0x205F),
  (0x3000, 0x3000)]

/-- The characters with a nonzero combining class. -/
def markBits : Nat := spans (combiningClasses.map fun r => (r.first, r.last))

/-- The characters with case. -/
def casedBits : Nat := spans casedRanges

/-- The characters that are passed over. -/
def ignorableBits : Nat := spans caseIgnorableRanges

/-- The characters that lower-casing changes, as bits. -/
def capitalBits : Nat := bits capitals

/-- The small letters. -/
def smallBits : Nat := bits (smallPairs.map (·.2))

/-- The characters that are put together again. -/
def compositeBits : Nat := bits (composites.map whole)

/-- The characters that are only taken apart. -/
def decomposedBits : Nat := bits (decomposedOnly.map whole)

/-- The characters that have an entry. -/
def wholeBits : Nat := compositeBits ||| decomposedBits

/-- The first parts of characters. -/
def firstBits : Nat := bits (entries.map first)

/-- The second parts of characters, and zero. -/
def secondBits : Nat := bits (entries.map second)

/-- The characters that have an entry, as has their first part, and so on for some steps. -/
def deepBits : Nat → Nat
  | 0 => wholeBits
  | steps + 1 => bits ((entries.filter fun e => contains (deepBits steps) (first e)).map whole)

/-! ### A letter and its parts -/

/-- What one sees of a character who looks for a letter with case: nothing if it is passed over, and
otherwise whether it has case. -/
def sightAt (n : Nat) : Option Bool :=
  bif contains ignorableBits n then none else some (contains casedBits n)

/-- Whether one sees of an entry's character, from either side, what one sees of its parts. -/
def looksAlike (e : Nat) : Bool :=
  bif (second e).beq 0 then sightAt (first e) == sightAt (whole e)
  else (sightAt (first e)).or (sightAt (second e)) == sightAt (whole e) &&
    (sightAt (second e)).or (sightAt (first e)) == sightAt (whole e)

/-- Whether an entry's character, if it is a mark, is made of marks of its class. -/
def ranksAlike (e : Nat) : Bool :=
  !contains markBits (whole e) ||
    (combiningClass (Char.ofNat (first e)) == combiningClass (Char.ofNat (whole e)) &&
      ((second e).beq 0 ||
        combiningClass (Char.ofNat (second e)) == combiningClass (Char.ofNat (whole e))))

/-- The small letters by their capitals. -/
def smallIndex : Index := .of smallPairs

/-- The parts of the characters of a list of entries. -/
def partIndex (es : List Nat) : Index := .of (es.map fun e => (whole e, e % 0x10000000000))

/-- Whether the small letter of an entry's character is that of its only part, or is made of the
small letter of its first part and of its second part. -/
def lowersAlike (e : Nat) : Bool :=
  let w := smallIndex.get (whole e)
  let a := smallIndex.get (first e)
  !w.beq 0 && !a.beq 0 && ((second e).beq 0 && w.beq a ||
    ((partIndex composites).get w).beq (a * 0x100000 + second e) ||
    ((partIndex decomposedOnly).get w).beq (a * 0x100000 + second e))

/-- Whether an entry's character goes with its parts: it is a capital just if the first of them is,
it is ranked and seen as they are, and lower-casing takes it to what it takes them to. -/
def agrees (e : Nat) : Bool :=
  contains capitalBits (whole e) == contains capitalBits (first e) && looksAlike e && ranksAlike e &&
    (!contains capitalBits (whole e) || (whole e).beq 0x130 || lowersAlike e)

/-! ### What is checked -/

/-- The properties of the tables that everything rests on. -/
@[mk_iff]
structure Checked : Prop where
  -- each character has one entry, and what it is made of is not taken apart by rule
  composites_ascend : ascends 0xBF (composites.map whole) = true
  decomposedOnly_ascend : ascends 0xBF (decomposedOnly.map whole) = true
  lists_apart : compositeBits &&& decomposedBits = 0
  wholes_plain : wholeBits &&& (hangulBits ||| surrogateBits ||| bits [0x3A3]) = 0
  wholes_bounded : wholeBits < 1 <<< 0x30000
  firsts_plain : firstBits &&& (hangulBits ||| surrogateBits ||| bits [0x130, 0x3A3]) = 0
  seconds_plain : secondBits &&& (hangulBits ||| surrogateBits ||| wholeBits ||| capitalBits) = 0
  -- no character has to be taken apart more than three times
  depth : deepBits 3 = 0
  -- each capital has one small letter, which is not a capital
  runs_proper : ∀ r ∈ smallForms, r.first ≤ r.last ∧ 0 < r.step
  capitals_ascend : ascends 0 (smallPairs.map (·.1)) = true
  smalls_plain : smallBits &&& (surrogateBits ||| capitalBits) = 0
  smalls_bounded : smallBits < 1 <<< 0x30000
  sigma_capital : contains capitalBits 0x3A3 = true
  forms_small : bits [0x69, 0x307, 0x3C2, 0x3C3] &&& capitalBits = 0
  -- what lower-casing does to one character does not depend on how it is written
  dotted_parts : parts 0x130 = [0x49, 0x307]
  marks_small : markBits &&& capitalBits = 0
  marks_caseless : markBits &&& casedBits &&& ignorableBits = markBits &&& casedBits
  hangul_plain : hangulBits &&& (capitalBits ||| casedBits ||| ignorableBits ||| markBits) = 0
  blanks_plain : blankBits &&& (capitalBits ||| casedBits ||| ignorableBits ||| smallBits) = 0
  entries_agree : entries.all agrees = true

instance : Decidable Checked := decidable_of_iff _ (checked_iff ..).symm

-- The sets and trees are built once each, so that one evaluation of all properties is quicker than
-- one of each.
set_option maxRecDepth 10000 in
theorem checked : Checked := by decide +kernel

/-! ### Entries and characters -/

/-- A character cannot be taken apart, or its entry says what it is made of, or it is a Hangul
syllable. -/
inductive Taken (n : Nat) : Prop
  | bare (none : parts n = [])
  | entry (e : Nat) (mem : e ∈ entries) (same : whole e = n) (made_eq : parts n = made e)
  | syllable (s : Nat) (bound : s < 11172) (same : n = hangulBase + s) (jamo_eq : parts n = jamo s)

/-- No character has two entries. -/
theorem nodup_whole : (entries.map whole).Nodup := by
  rw [entries, List.map_append, List.nodup_append]
  refine ⟨nodup_of_ascends checked.composites_ascend,
    nodup_of_ascends checked.decomposedOnly_ascend, ?_⟩
  rintro n composed _ split rfl
  have apart := contains_eq_false_of_and checked.lists_apart (contains_bits.mpr composed)
  rw [decomposedBits, contains_bits.mpr split] at apart
  cases apart

theorem le_whole (mem : e ∈ entries) : 0xC0 ≤ whole e := by
  rcases List.mem_append.mp mem with mem | mem
  · exact lt_of_ascends checked.composites_ascend _ (List.mem_map_of_mem mem)
  · exact lt_of_ascends checked.decomposedOnly_ascend _ (List.mem_map_of_mem mem)

theorem contains_wholeBits (mem : e ∈ entries) : contains wholeBits (whole e) = true := by
  rw [wholeBits, contains_or, Bool.or_eq_true, compositeBits, decomposedBits, contains_bits,
    contains_bits, ← List.mem_append, ← List.map_append]
  exact List.mem_map_of_mem mem

theorem ne_of_not_contains {k : Nat} {ns : List Nat} (h : contains (bits ns) n = false)
    (mem : k ∈ ns) : n ≠ k := by
  rintro rfl
  rw [contains_bits.mpr mem] at h
  cases h

/-- A character with an entry is none of the characters that are taken apart by rule, and not the
capital sigma. -/
theorem whole_plain (mem : e ∈ entries) : contains hangulBits (whole e) = false ∧
    contains surrogateBits (whole e) = false ∧ whole e ≠ 0x3A3 := by
  have plain := contains_eq_false_of_and checked.wholes_plain (contains_wholeBits mem)
  simp only [contains_or, Bool.or_eq_false_iff] at plain
  exact ⟨plain.1.1, plain.1.2, ne_of_not_contains plain.2 (by simp)⟩

/-- The first part of a character is not taken apart by rule, and it is neither of the two capitals
that are lower-cased in their own way. -/
theorem first_plain (mem : e ∈ entries) : contains hangulBits (first e) = false ∧
    contains surrogateBits (first e) = false ∧ first e ≠ 0x130 ∧ first e ≠ 0x3A3 := by
  have listed : contains firstBits (first e) = true := contains_bits.mpr (List.mem_map_of_mem mem)
  have plain := contains_eq_false_of_and checked.firsts_plain listed
  simp only [contains_or, Bool.or_eq_false_iff] at plain
  exact ⟨plain.1.1, plain.1.2, ne_of_not_contains plain.2 (by simp),
    ne_of_not_contains plain.2 (by simp)⟩

/-- The second part of a character is not taken apart, and it has no small form. -/
theorem second_plain (mem : e ∈ entries) : contains hangulBits (second e) = false ∧
    contains surrogateBits (second e) = false ∧ contains wholeBits (second e) = false ∧
    contains capitalBits (second e) = false := by
  have listed : contains secondBits (second e) = true := contains_bits.mpr (List.mem_map_of_mem mem)
  have plain := contains_eq_false_of_and checked.seconds_plain listed
  simpa only [contains_or, Bool.or_eq_false_iff, and_assoc] using plain

theorem valid_of_not_surrogate (bounded : n < 0x100000) (plain : contains surrogateBits n = false) :
    n.isValidChar := by
  rw [surrogateBits, contains_spans] at plain
  simp only [inRanges, List.any_cons, List.any_nil, Bool.or_false, Bool.and_eq_false_iff,
    decide_eq_false_iff_not] at plain
  unfold Nat.isValidChar
  omega

theorem valid_whole (mem : e ∈ entries) : (whole e).isValidChar := by
  have bounded : whole e < 0x30000 := lt_of_contains checked.wholes_bounded (contains_wholeBits mem)
  exact valid_of_not_surrogate (by omega) (whole_plain mem).2.1

theorem valid_first (mem : e ∈ entries) : (first e).isValidChar :=
  valid_of_not_surrogate (Nat.mod_lt _ (by decide)) (first_plain mem).2.1

theorem valid_second (mem : e ∈ entries) : (second e).isValidChar :=
  valid_of_not_surrogate (Nat.mod_lt _ (by decide)) (second_plain mem).2.1

theorem contains_hangulBits_iff : contains hangulBits n = true ↔
    (0x1100 ≤ n ∧ n < 0x1200) ∨ (hangulBase ≤ n ∧ n < hangulBase + 11172) := by
  rw [hangulBits, contains_spans]
  simp only [inRanges, List.any_cons, List.any_nil, Bool.or_eq_true, Bool.and_eq_true,
    decide_eq_true_eq, Bool.false_eq_true, or_false, hangulBase]
  omega

/-- A listed character is made of what its entry says. -/
theorem parts_of_mem (mem : e ∈ entries) : parts (whole e) = made e := by
  have latin : ¬ whole e < 0xC0 := Nat.not_lt.mpr (le_whole mem)
  have unruled : ¬ (hangulBase ≤ whole e ∧ whole e < hangulBase + 11172) := by
    intro syllable
    have listed := (whole_plain mem).1
    rw [contains_hangulBits_iff.mpr (.inr syllable)] at listed
    cases listed
  have found : entries.find? (fun entry => entry / 0x10000000000 == whole e) = some e := by
    refine find?_eq_some_of_unique mem (beq_self_eq_true _) fun other listed same => ?_
    exact List.inj_on_of_nodup_map nodup_whole listed mem (beq_iff_eq.mp same)
  rw [entries] at found
  rw [parts, if_neg latin, if_neg unruled, found]
  rfl

theorem parts_syllable {s : Nat} (bound : s < 11172) : parts (hangulBase + s) = jamo s := by
  have latin : ¬ hangulBase + s < 0xC0 := by rw [hangulBase]; omega
  rw [parts, if_neg latin, if_pos (by omega), Nat.add_sub_cancel_left]
  rfl

theorem parts_cases (n : Nat) : Taken n := by
  by_cases ruled : hangulBase ≤ n ∧ n < hangulBase + 11172
  · obtain ⟨s, rfl⟩ := Nat.exists_eq_add_of_le ruled.1
    have bound : s < 11172 := by omega
    exact .syllable s bound rfl (parts_syllable bound)
  · cases found : entries.find? fun entry => entry / 0x10000000000 == n with
    | none =>
      rw [entries] at found
      refine .bare ?_
      rw [parts, if_neg ruled, found]
      split <;> rfl
    | some e =>
      have mem := List.mem_of_find?_eq_some found
      have same : whole e = n := by
        have hit := List.find?_some found
        exact beq_iff_eq.mp hit
      exact .entry e mem same (same ▸ parts_of_mem mem)

theorem bounds_of_mem_jamo {s : Nat} (small : s < 11172) (mem : n ∈ jamo s) :
    0x1100 ≤ n ∧ n < 0x1200 := by
  rw [jamo, List.mem_append] at mem
  rcases mem with mem | mem
  · simp only [List.mem_cons, List.not_mem_nil, or_false] at mem
    omega
  · split at mem
    · cases mem
    · rw [List.mem_singleton] at mem
      omega

/-- Jamo cannot be taken apart. -/
theorem parts_of_jamo (bounds : 0x1100 ≤ n ∧ n < 0x1200) : parts n = [] := by
  rcases parts_cases n with none | ⟨e, listed, rfl, _⟩ | ⟨s, _, rfl, _⟩
  · exact none
  · have hangul := contains_hangulBits_iff.mpr (.inl bounds)
    rw [(whole_plain listed).1] at hangul
    cases hangul
  · rw [hangulBase] at bounds
    omega

/-- A part of a character comes from an entry, or it is one of the jamo of a syllable. -/
theorem mem_parts_cases (mem : m ∈ parts n) :
    (∃ e ∈ entries, whole e = n ∧ (m = first e ∨ second e ≠ 0 ∧ m = second e)) ∨
      (contains hangulBits n = true ∧ 0x1100 ≤ m ∧ m < 0x1200) := by
  rcases parts_cases n with none | ⟨e, listed, whole_eq, made_eq⟩ | ⟨s, small, rfl, jamo_eq⟩
  · rw [none] at mem
    cases mem
  · refine .inl ⟨e, listed, whole_eq, ?_⟩
    rw [made_eq, made, List.mem_cons] at mem
    refine mem.imp_right fun mem => ?_
    split at mem
    · cases mem
    next paired => exact ⟨paired, List.mem_singleton.mp mem⟩
  · rw [jamo_eq] at mem
    exact .inr ⟨contains_hangulBits_iff.mpr (.inr (by omega)), bounds_of_mem_jamo small mem⟩

/-- What is in a deeper set has a first part in the set before. -/
theorem contains_deepBits_succ {steps : Nat} (mem : e ∈ entries)
    (h : contains (deepBits steps) (first e) = true) :
    contains (deepBits (steps + 1)) (whole e) = true :=
  contains_bits.mpr (List.mem_map_of_mem (List.mem_filter.mpr ⟨mem, h⟩))

/-! ### Hangul and blanks -/

theorem hangul_plain (h : contains hangulBits n = true) : contains capitalBits n = false ∧
    contains casedBits n = false ∧ contains ignorableBits n = false ∧
    contains markBits n = false := by
  simpa only [contains_or, Bool.or_eq_false_iff, and_assoc] using
    contains_eq_false_of_and checked.hangul_plain h

theorem blank_plain (h : contains blankBits n = true) : contains capitalBits n = false ∧
    contains casedBits n = false ∧ contains ignorableBits n = false ∧
    contains smallBits n = false := by
  simpa only [contains_or, Bool.or_eq_false_iff, and_assoc] using
    contains_eq_false_of_and checked.blanks_plain h

/-! ### Small letters -/

theorem CaseRun.mem_pairs {r : CaseRun} (sound : r.first ≤ r.last ∧ 0 < r.step) :
    (n, m) ∈ r.pairs ↔ (r.first ≤ n ∧ n ≤ r.last ∧ (n - r.first) % r.step = 0) ∧
      m = r.small + (n - r.first) := by
  obtain ⟨nonempty, positive⟩ := sound
  simp only [pairs, List.mem_map, List.mem_range, Prod.mk.injEq]
  constructor
  · rintro ⟨k, within, rfl, rfl⟩
    have bound : k * r.step ≤ r.last - r.first :=
      Nat.le_trans (Nat.mul_le_mul_right _ (Nat.lt_succ_iff.mp within)) (Nat.div_mul_le_self _ _)
    rw [Nat.add_sub_cancel_left, Nat.mul_mod_left]
    omega
  · rintro ⟨⟨above, below, aligned⟩, rfl⟩
    have steps : (n - r.first) / r.step * r.step = n - r.first :=
      Nat.div_mul_cancel (Nat.dvd_of_mod_eq_zero aligned)
    have within : (n - r.first) / r.step ≤ (r.last - r.first) / r.step :=
      Nat.div_le_div_right (Nat.sub_le_sub_right below _)
    refine ⟨(n - r.first) / r.step, Nat.lt_succ_iff.mpr within, ?_, ?_⟩ <;> omega

/-- A character is its own small letter, or it has one of the listed small letters. -/
theorem smallLetter_cases (c : Char) :
    (smallLetter c = c ∧ c.toNat ∉ smallPairs.map (·.1)) ∨
      ∃ m, (c.toNat, m) ∈ smallPairs ∧ smallLetter c = Char.ofNat m := by
  cases found : smallForms.find? fun r =>
      r.first ≤ c.toNat && c.toNat ≤ r.last && (c.toNat - r.first) % r.step == 0 with
  | none =>
    refine .inl ⟨by rw [smallLetter, found], fun listed => ?_⟩
    obtain ⟨⟨_, m⟩, mem, rfl⟩ := List.mem_map.mp listed
    obtain ⟨r, run, mem⟩ := List.mem_flatMap.mp mem
    obtain ⟨⟨above, below, aligned⟩, _⟩ := (CaseRun.mem_pairs (checked.runs_proper r run)).mp mem
    refine List.find?_eq_none.mp found r run ?_
    simp [above, below, aligned]
  | some r =>
    have run := List.mem_of_find?_eq_some found
    have covers := List.find?_some found
    simp only [Bool.and_eq_true, decide_eq_true_eq, beq_iff_eq, and_assoc] at covers
    refine .inr ⟨r.small + (c.toNat - r.first), ?_, by rw [smallLetter, found]⟩
    have sound := checked.runs_proper r run
    exact List.mem_flatMap.mpr ⟨r, run, (CaseRun.mem_pairs sound).mpr ⟨covers, rfl⟩⟩

theorem smallLetter_of_mem (mem : (c.toNat, m) ∈ smallPairs) : smallLetter c = Char.ofNat m := by
  rcases smallLetter_cases c with ⟨_, unlisted⟩ | ⟨m', mem', found⟩
  · exact absurd (List.mem_map_of_mem mem) unlisted
  · have nodup := nodup_of_ascends checked.capitals_ascend
    have same := List.inj_on_of_nodup_map nodup mem mem' rfl
    rw [found, (Prod.mk.inj same).2]

theorem smallLetter_of_not_mem (h : c.toNat ∉ capitals) : smallLetter c = c := by
  rcases smallLetter_cases c with ⟨same, _⟩ | ⟨m, mem, _⟩
  · exact same
  · exact absurd (List.mem_cons_of_mem _ (List.mem_map_of_mem mem)) h

theorem contains_smallBits (mem : (n, m) ∈ smallPairs) : contains smallBits m = true :=
  contains_bits.mpr (List.mem_map_of_mem mem)

/-- A small letter is a character, and it has no small form of its own. -/
theorem small_plain (mem : (n, m) ∈ smallPairs) :
    m.isValidChar ∧ contains capitalBits m = false := by
  have listed := contains_smallBits mem
  have plain := contains_eq_false_of_and checked.smalls_plain listed
  rw [contains_or, Bool.or_eq_false_iff] at plain
  have bounded : m < 0x30000 := lt_of_contains checked.smalls_bounded listed
  exact ⟨valid_of_not_surrogate (by omega) plain.1, plain.2⟩

/-! ### A letter and its parts -/

theorem agrees_of_mem (mem : e ∈ entries) :
    contains capitalBits (whole e) = contains capitalBits (first e) ∧ looksAlike e = true ∧
      ranksAlike e = true ∧
      (contains capitalBits (whole e) = true → whole e ≠ 0x130 → lowersAlike e = true) := by
  have agreement := List.all_eq_true.mp checked.entries_agree e mem
  simp only [agrees, Bool.and_eq_true, beq_iff_eq, and_assoc] at agreement
  obtain ⟨capital, looks, ranks, lowers⟩ := agreement
  refine ⟨capital, looks, ranks, fun upper other => ?_⟩
  rw [upper, Bool.not_true, Bool.false_or, Bool.or_eq_true] at lowers
  exact lowers.resolve_left fun dotted => other (Nat.eq_of_beq_eq_true dotted)

/-- A mark is made of marks of its class. -/
theorem class_parts (mem : e ∈ entries) (mark : contains markBits (whole e) = true) :
    combiningClass (Char.ofNat (first e)) = combiningClass (Char.ofNat (whole e)) ∧
      (second e ≠ 0 →
        combiningClass (Char.ofNat (second e)) = combiningClass (Char.ofNat (whole e))) := by
  have ranks := (agrees_of_mem mem).2.2.1
  rw [ranksAlike, mark, Bool.not_true, Bool.false_or, Bool.and_eq_true, Bool.or_eq_true, beq_iff_eq,
    beq_iff_eq] at ranks
  exact ⟨ranks.1, fun pair => ranks.2.resolve_left fun single => pair (Nat.eq_of_beq_eq_true single)⟩

/-- One sees of a character, from either side, what one sees of its parts. -/
theorem sight_parts (mem : e ∈ entries) :
    (second e = 0 → sightAt (first e) = sightAt (whole e)) ∧
      (second e ≠ 0 → (sightAt (first e)).or (sightAt (second e)) = sightAt (whole e) ∧
        (sightAt (second e)).or (sightAt (first e)) = sightAt (whole e)) := by
  have looks := (agrees_of_mem mem).2.1
  rw [looksAlike] at looks
  constructor
  · intro single
    have zero : (second e).beq 0 = true := by
      rw [single]
      rfl
    rw [zero, cond_true, beq_iff_eq] at looks
    exact looks
  · intro pair
    have nonzero : (second e).beq 0 = false := by
      rw [← Bool.not_eq_true]
      exact fun zero => pair (Nat.eq_of_beq_eq_true zero)
    rw [nonzero, cond_false, Bool.and_eq_true, beq_iff_eq, beq_iff_eq] at looks
    exact looks

theorem exists_entry_of_get {es : List Nat} {w a s : Nat} (bound : s < 0x100000)
    (found : ((partIndex es).get w).beq (a * 0x100000 + s) = true) (nonzero : a ≠ 0) :
    ∃ e ∈ es, whole e = w ∧ first e = a ∧ second e = s := by
  have value := Nat.eq_of_beq_eq_true found
  have stands : (w, (partIndex es).get w) ∈ es.map fun e => (whole e, e % 0x10000000000) :=
    Index.mem_of_get_of (by rw [← partIndex, value]; omega)
  obtain ⟨e, mem, same⟩ := List.mem_map.mp stands
  obtain ⟨rfl, pair⟩ := Prod.mk.inj same
  rw [value] at pair
  refine ⟨e, mem, rfl, ?_, ?_⟩
  · rw [first]
    omega
  · rw [second]
    omega

/-- The small letter of a capital that can be taken apart is that of its only part, or it is made of
the small letter of the first part and of the second part. -/
theorem exists_small_entry (mem : e ∈ entries) (capital : contains capitalBits (whole e) = true)
    (other : whole e ≠ 0x130) : ∃ w a, (whole e, w) ∈ smallPairs ∧ (first e, a) ∈ smallPairs ∧
      ((second e = 0 ∧ w = a) ∨
        ∃ e' ∈ entries, whole e' = w ∧ first e' = a ∧ second e' = second e) := by
  have alike := (agrees_of_mem mem).2.2.2 capital other
  simp only [lowersAlike, Bool.and_eq_true, Bool.or_eq_true, Bool.not_eq_true'] at alike
  obtain ⟨⟨of_whole, of_first⟩, alike⟩ := alike
  have bound : second e < 0x100000 := Nat.mod_lt _ (by decide)
  have some_whole : smallIndex.get (whole e) ≠ 0 := Nat.ne_of_beq_eq_false of_whole
  have some_first : smallIndex.get (first e) ≠ 0 := Nat.ne_of_beq_eq_false of_first
  refine ⟨_, _, Index.mem_of_get_of some_whole, Index.mem_of_get_of some_first, ?_⟩
  rcases alike with (⟨single, same⟩ | found) | found
  · exact .inl ⟨Nat.eq_of_beq_eq_true single, Nat.eq_of_beq_eq_true same⟩
  · obtain ⟨e', listed, made⟩ := exists_entry_of_get bound found some_first
    exact .inr ⟨e', List.mem_append_left _ listed, made⟩
  · obtain ⟨e', listed, made⟩ := exists_entry_of_get bound found some_first
    exact .inr ⟨e', List.mem_append_right _ listed, made⟩

end WorldAccess.Text
