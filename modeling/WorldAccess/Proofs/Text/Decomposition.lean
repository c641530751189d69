import WorldAccess.Proofs.Text.Tables

/-!
# Characters taken apart

Taking a character apart is a matter of its parts: they are taken apart in turn, and at the end
nothing can be. A combining mark comes apart into marks of its own class.

## Main definitions

* `Text.pieces` — what a character is made of, one step
* `Text.decomposed` — a text with every character taken apart

## Main results

* `Text.decompose_of_pieces` — the parts of a character are taken apart in turn
* `Text.decompose_of_mem_decompose` — nothing is left that can be taken apart
* `Text.combiningClass_of_mem_decompose` — what a mark is taken apart into
-/

namespace WorldAccess.Text

open Entry

variable {n m : Nat} {c d : Char} {cs ds : List Char}

/-! ### One step -/

theorem toNat_ofNat (valid : n.isValidChar) : (Char.ofNat n).toNat = n := by
  rw [Char.ofNat, dif_pos valid]
  rfl

theorem valid_of_mem_parts (mem : m ∈ parts n) : m.isValidChar := by
  rcases mem_parts_cases mem with ⟨e, listed, _, rfl | ⟨_, rfl⟩⟩ | ⟨_, bounds⟩
  · exact valid_first listed
  · exact valid_second listed
  · unfold Nat.isValidChar
    omega

/-- What a character is made of, one step. -/
def pieces (c : Char) : List Char := (parts c.toNat).map Char.ofNat

theorem pieces_eq_nil_iff : pieces c = [] ↔ parts c.toNat = [] := List.map_eq_nil_iff

theorem toNat_mem_parts (mem : d ∈ pieces c) : d.toNat ∈ parts c.toNat := by
  obtain ⟨p, among, rfl⟩ := List.mem_map.mp mem
  rwa [toNat_ofNat (valid_of_mem_parts among)]

/-! ### All steps -/

/-- Whether a number of steps is enough to take a character apart. -/
def Shallow : Nat → Nat → Prop
  | 0, n => parts n = []
  | steps + 1, n => ∀ p ∈ parts n, Shallow steps p

theorem shallow_of_parts_eq_nil (steps : Nat) (h : parts n = []) : Shallow steps n := by
  cases steps with
  | zero => exact h
  | succ steps => simp [Shallow, h]

theorem parts_eq_nil_of_unlisted (unlisted : contains wholeBits n = false)
    (unruled : contains hangulBits n = false) : parts n = [] := by
  rcases parts_cases n with none | ⟨e, mem, rfl, _⟩ | ⟨s, small, rfl, _⟩
  · exact none
  · rw [contains_wholeBits mem] at unlisted
    cases unlisted
  · rw [contains_hangulBits_iff.mpr (.inr (by omega))] at unruled
    cases unruled

theorem shallow_of_deepBits {steps : Nat} (h : contains (deepBits steps) n = false)
    (unruled : contains hangulBits n = false) : Shallow steps n := by
  -- only the first part of a listed character can have parts, so the sets follow the first parts
  induction steps generalizing n with
  | zero => exact parts_eq_nil_of_unlisted h unruled
  | succ steps ih =>
    intro p mem
    rcases mem_parts_cases mem with ⟨e, listed, rfl, made⟩ | ⟨ruled, _⟩
    · rcases made with rfl | ⟨_, rfl⟩
      · refine ih ?_ (first_plain listed).1
        by_contra deep
        rw [Bool.not_eq_false] at deep
        rw [contains_deepBits_succ listed deep] at h
        cases h
      · obtain ⟨unruled, _, unlisted, _⟩ := second_plain listed
        exact shallow_of_parts_eq_nil steps (parts_eq_nil_of_unlisted unlisted unruled)
    · rw [ruled] at unruled
      cases unruled

/-- Three steps are enough for every character. -/
theorem shallow (n : Nat) : Shallow 3 n := by
  cases hangul : contains hangulBits n with
  | false => exact shallow_of_deepBits (by rw [checked.depth, contains_zero]) hangul
  | true =>
    intro p mem
    refine shallow_of_parts_eq_nil 2 ?_
    rcases mem_parts_cases mem with ⟨e, listed, rfl, _⟩ | ⟨_, bounds⟩
    · rw [(whole_plain listed).1] at hangul
      cases hangul
    · exact parts_of_jamo bounds

theorem decomposeTo_succ {steps : Nat} (h : Shallow steps n) :
    decomposeTo (steps + 1) n = decomposeTo steps n := by
  induction steps generalizing n with
  | zero =>
    rw [Shallow] at h
    simp [decomposeTo, h]
  | succ steps ih =>
    have rest : ∀ p ∈ parts n, decomposeTo (steps + 1) p = decomposeTo steps p :=
      fun p mem => ih (h p mem)
    rw [decomposeTo, decomposeTo.eq_2 n steps]
    cases made : parts n with
    | nil => rfl
    | cons p ps => rw [made] at rest; exact List.flatMap_congr rest

theorem decompose_of_pieces_eq_nil (h : pieces c = []) : decompose c = [c] := by
  rw [decompose, decomposeTo, pieces_eq_nil_iff.mp h]
  simp [Char.ofNat_toNat]

/-- The parts of a character are taken apart in turn. -/
theorem decompose_of_pieces (h : pieces c ≠ []) : decompose c = (pieces c).flatMap decompose := by
  have enough : decomposeTo 4 c.toNat = (parts c.toNat).flatMap (decomposeTo 4) := by
    rw [decomposeTo]
    cases made : parts c.toNat with
    | nil => exact absurd (pieces_eq_nil_iff.mpr made) h
    | cons p ps => exact List.flatMap_congr fun q _ => (decomposeTo_succ (shallow q)).symm
  rw [decompose, enough, pieces, List.map_flatMap, List.flatMap_map]
  refine List.flatMap_congr fun p mem => ?_
  rw [decompose, toNat_ofNat (valid_of_mem_parts mem)]

/-- What passes from the parts of a character to the character holds of every character. -/
theorem pieces_induction {P : Char → Prop} (step : ∀ c, (∀ d ∈ pieces c, P d) → P c) (c : Char) :
    P c := by
  have below : ∀ steps c, Shallow steps c.toNat → P c := by
    intro steps
    induction steps with
    | zero =>
      intro c bare
      refine step c fun d mem => ?_
      rw [pieces_eq_nil_iff.mpr bare] at mem
      cases mem
    | succ steps ih => exact fun c low => step c fun d mem => ih d (low _ (toNat_mem_parts mem))
  exact below 3 c (shallow c.toNat)

theorem decompose_ne_nil (c : Char) : decompose c ≠ [] := by
  induction c using pieces_induction with
  | step c ih =>
    by_cases bare : pieces c = []
    · simp [decompose_of_pieces_eq_nil bare]
    · obtain ⟨d, ds, made⟩ := List.exists_cons_of_ne_nil bare
      rw [decompose_of_pieces bare, made, List.flatMap_cons]
      exact List.append_ne_nil_of_left_ne_nil (ih d (by simp [made])) _

/-- A character is taken apart into itself or into what its parts are taken apart into. -/
theorem mem_decompose_cases (mem : d ∈ decompose c) :
    (pieces c = [] ∧ d = c) ∨ ∃ p ∈ pieces c, d ∈ decompose p := by
  by_cases bare : pieces c = []
  · rw [decompose_of_pieces_eq_nil bare, List.mem_singleton] at mem
    exact .inl ⟨bare, mem⟩
  · rw [decompose_of_pieces bare, List.mem_flatMap] at mem
    exact .inr mem

/-- What a character is taken apart into cannot be taken apart. -/
theorem decompose_of_mem_decompose (mem : d ∈ decompose c) : decompose d = [d] := by
  induction c using pieces_induction with
  | step c ih =>
    rcases mem_decompose_cases mem with ⟨bare, rfl⟩ | ⟨p, part, mem⟩
    · exact decompose_of_pieces_eq_nil bare
    · exact ih p part mem

/-! ### Combining classes -/

theorem contains_markBits (h : combiningClass c ≠ 0) : contains markBits c.toNat = true := by
  simp only [combiningClass] at h
  split at h
  · exact absurd rfl h
  · split at h
    next r found =>
      have covers := List.find?_some found
      rw [markBits, contains_spans, inRanges, List.any_map, List.any_eq_true]
      exact ⟨r, List.mem_of_find?_eq_some found, covers⟩
    · exact absurd rfl h

theorem combiningClass_of_mem_pieces (h : combiningClass c ≠ 0) (mem : d ∈ pieces c) :
    combiningClass d = combiningClass c := by
  have mark := contains_markBits h
  rcases mem_parts_cases (toNat_mem_parts mem) with ⟨e, listed, whole_eq, made⟩ | ⟨hangul, _⟩
  · rw [← whole_eq] at mark
    obtain ⟨first_class, second_class⟩ := class_parts listed mark
    rw [whole_eq, Char.ofNat_toNat] at first_class second_class
    rw [← Char.ofNat_toNat d]
    rcases made with made | ⟨paired, made⟩
    · rw [made, first_class]
    · rw [made, second_class paired]
  · rw [(hangul_plain hangul).2.2.2] at mark
    cases mark

/-- A mark is taken apart into marks of its class. -/
theorem combiningClass_of_mem_decompose (h : combiningClass c ≠ 0) (mem : d ∈ decompose c) :
    combiningClass d = combiningClass c := by
  induction c using pieces_induction with
  | step c ih =>
    rcases mem_decompose_cases mem with ⟨_, rfl⟩ | ⟨p, part, mem⟩
    · rfl
    · have same := combiningClass_of_mem_pieces h part
      rw [ih p part (by rwa [same]) mem, same]

/-! ### Texts -/

/-- A text with every character taken apart. -/
def decomposed (cs : List Char) : List Char := cs.flatMap decompose

@[simp] theorem decomposed_nil : decomposed [] = [] := rfl

@[simp] theorem decomposed_cons : decomposed (c :: cs) = decompose c ++ decomposed cs :=
  List.flatMap_cons

@[simp] theorem decomposed_append :
    decomposed (cs ++ ds) = decomposed cs ++ decomposed ds :=
  List.flatMap_append

theorem decomposed_of_flat (flat : ∀ c ∈ cs, decompose c = [c]) : decomposed cs = cs := by
  rw [decomposed, List.flatMap_congr flat, List.flatMap_singleton']

theorem decompose_of_mem_decomposed (mem : c ∈ decomposed cs) : decompose c = [c] := by
  obtain ⟨d, _, mem⟩ := List.mem_flatMap.mp mem
  exact decompose_of_mem_decompose mem

theorem eq_nil_of_decomposed (h : decomposed cs = []) : cs = [] := by
  cases cs with
  | nil => rfl
  | cons c cs => exact absurd (List.append_eq_nil_iff.mp h).1 (decompose_ne_nil c)

end WorldAccess.Text
