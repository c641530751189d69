import WorldAccess.Proofs.Text.Composition

/-!
# Lower-casing and composition

Lower-casing a text and taking it apart go together: the parts of a letter are lower-cased to what
its small letter is made of, and at the end of a word a sigma sees the same whether the letters
around it have been taken apart or not. An exchange of marks is not seen either. So the canonical
form of a text in small letters depends only on the canonical form of the text. Small letters that
are put together give small letters.

## Main definitions

* `Text.sight` — what one sees of a character who looks for a letter with case
* `Text.lowerWithin` — lower-casing between two neighbours
* `Text.Lowered` — a character that lower-casing leaves alone

## Main results

* `Text.lower_eq` — lower-casing needs to know no more of the neighbours than whether they have case
* `Text.decomposed_lowerWithin` — lower-casing and taking apart go together
* `Text.canonical_lower` — what the canonical form of a text in small letters depends on
* `Text.lower_compose_lower` — small letters stay small when they are put together
-/

namespace WorldAccess.Text

open Entry

variable {n m : Nat} {c d : Char} {cs ds es : List Char} {before after : Bool}

/-! ### Neighbours -/

/-- What one sees of a character who looks for a letter with case: nothing if it is passed over, and
otherwise whether it has case. -/
def sight (c : Char) : Option Bool := if isCaseIgnorable c then none else some (isCased c)

theorem sight_eq (c : Char) : sight c = sightAt c.toNat := by
  rw [sight, sightAt, isCaseIgnorable, isCased, ignorableBits, casedBits, contains_spans,
    contains_spans, cond_eq_ite]

/-- Whether one sees a letter with case who looks into a text with more behind it. -/
def ahead (cs : List Char) (beyond : Bool) : Bool := (cs.findSome? sight).getD beyond

@[simp] theorem ahead_nil : ahead [] after = after := rfl

theorem ahead_cons : ahead (c :: cs) after = (sight c).getD (ahead cs after) := by
  rw [ahead, List.findSome?_cons]
  cases sight c <;> rfl

theorem ahead_append : ahead (cs ++ ds) after = ahead cs (ahead ds after) := by
  rw [ahead, ahead, ahead, List.findSome?_append]
  cases cs.findSome? sight <;> rfl

theorem meetsCased_eq (cs : List Char) : meetsCased cs = ahead cs false := by
  induction cs with
  | nil => rfl
  | cons c cs ih =>
    rw [ahead_cons, ← ih, meetsCased, List.dropWhile_cons, sight]
    cases isCaseIgnorable c <;> rfl

/-- The small letters of one character between two neighbours with or without case. -/
def lowerAt (before : Bool) (c : Char) (after : Bool) : List Char :=
  if c = '\u0130' then ['i', '\u0307']
  else if c = '\u03a3' then [if before && !after then '\u03c2' else '\u03c3']
  else [smallLetter c]

/-- Lower-cases a text between two neighbours with or without case. -/
def lowerWithin (before : Bool) : List Char → Bool → List Char
  | [], _ => []
  | c :: cs, after =>
    lowerAt before c (ahead cs after) ++ lowerWithin ((sight c).getD before) cs after

theorem lowerWithin_nil : lowerWithin before [] after = [] := rfl

theorem lowerWithin_cons : lowerWithin before (c :: cs) after =
    lowerAt before c (ahead cs after) ++ lowerWithin ((sight c).getD before) cs after := rfl

theorem lowerFrom_eq (front cs : List Char) :
    lowerFrom front cs = lowerWithin (ahead front false) cs false := by
  induction cs generalizing front with
  | nil => rfl
  | cons c cs ih =>
    rw [lowerFrom, lowerWithin_cons, ih, ahead_cons, lowerOne, lowerAt, endsWord, meetsCased_eq,
      meetsCased_eq]

/-- Lower-casing needs to know no more of the neighbours than whether they have case. -/
theorem lower_eq (cs : List Char) : lower cs = lowerWithin false cs false := lowerFrom_eq [] cs

theorem lowerWithin_append : lowerWithin before (cs ++ ds) after =
    lowerWithin before cs (ahead ds after) ++ lowerWithin (ahead cs.reverse before) ds after := by
  induction cs generalizing before with
  | nil => rfl
  | cons c cs ih =>
    rw [List.cons_append, lowerWithin_cons, lowerWithin_cons, ih, ahead_append, List.reverse_cons,
      ahead_append, ahead_cons, ahead_nil, List.append_assoc]

/-! ### Characters without a small form of their own -/

/-- Whether lower-casing leaves a character alone. -/
def Lowered (c : Char) : Prop := contains capitalBits c.toNat = false

namespace Lowered

theorem not_mem (h : Lowered c) : c.toNat ∉ capitals := by
  intro capital
  rw [Lowered, capitalBits, contains_bits.mpr capital] at h
  cases h

theorem ne_dotted (h : Lowered c) : c ≠ '\u0130' := by
  rintro rfl
  exact h.not_mem List.mem_cons_self

theorem ne_sigma (h : Lowered c) : c ≠ '\u03a3' := by
  rintro rfl
  exact h.not_mem (contains_bits.mp checked.sigma_capital)

theorem smallLetter (h : Lowered c) : smallLetter c = c := smallLetter_of_not_mem h.not_mem

theorem lowerAt (h : Lowered c) : lowerAt before c after = [c] := by
  rw [Text.lowerAt, if_neg h.ne_dotted, if_neg h.ne_sigma, h.smallLetter]

end Lowered

theorem lowerWithin_of_lowered (h : ∀ c ∈ cs, Lowered c) : lowerWithin before cs after = cs := by
  induction cs generalizing before with
  | nil => rfl
  | cons c cs ih =>
    obtain ⟨here, later⟩ := List.forall_mem_cons.mp h
    rw [lowerWithin_cons, here.lowerAt, ih later, List.singleton_append]

/-- A small letter has no small form of its own. -/
theorem lowered_smallLetter (h : c ≠ '\u0130') : Lowered (smallLetter c) := by
  rcases smallLetter_cases c with ⟨same, unlisted⟩ | ⟨m, mem, found⟩
  · rw [same, Lowered, ← Bool.not_eq_true, capitalBits, contains_bits, capitals, List.mem_cons,
      not_or]
    refine ⟨fun dotted => h ?_, unlisted⟩
    rw [← Char.ofNat_toNat c, dotted]
  · obtain ⟨valid, small⟩ := small_plain mem
    rwa [found, Lowered, toNat_ofNat valid]

theorem lowered_of_mem_lowerAt (mem : d ∈ lowerAt before c after) : Lowered d := by
  have listed : ∀ e ∈ ['i', '\u0307', '\u03c2', '\u03c3'], Lowered e := fun e mem =>
    contains_eq_false_of_and checked.forms_small (contains_bits.mpr (List.mem_map_of_mem mem))
  unfold lowerAt at mem
  split_ifs at mem with dotted sigma final
  · exact listed d (List.mem_append_left ['\u03c2', '\u03c3'] mem)
  · exact listed d (by simp [List.mem_singleton.mp mem])
  · exact listed d (by simp [List.mem_singleton.mp mem])
  · rw [List.mem_singleton.mp mem]
    exact lowered_smallLetter dotted

theorem lowered_of_mem_lowerWithin (mem : d ∈ lowerWithin before cs after) : Lowered d := by
  induction cs generalizing before with
  | nil => cases mem
  | cons c cs ih =>
    rw [lowerWithin_cons, List.mem_append] at mem
    rcases mem with here | later
    · exact lowered_of_mem_lowerAt here
    · exact ih later

/-! ### Letters and their parts -/

theorem pieces_of_mem {e : Nat} (listed : e ∈ entries) (whole_eq : whole e = c.toNat) :
    pieces c = Char.ofNat (first e) :: if second e = 0 then [] else [Char.ofNat (second e)] := by
  rw [pieces, ← whole_eq, parts_of_mem listed, made]
  split <;> rfl

/-- A character that can be taken apart has an entry, or it is a Hangul syllable and its parts are
jamo. -/
theorem pieces_cases (h : pieces c ≠ []) : (∃ e ∈ entries, whole e = c.toNat) ∨
    (contains hangulBits c.toNat = true ∧ ∀ d ∈ pieces c, contains hangulBits d.toNat = true) := by
  rcases parts_cases c.toNat with none | ⟨e, listed, whole_eq, _⟩ | ⟨s, small, place, jamo_eq⟩
  · exact absurd (pieces_eq_nil_iff.mpr none) h
  · exact .inl ⟨e, listed, whole_eq⟩
  · refine .inr ⟨contains_hangulBits_iff.mpr (.inr (by omega)), fun d part => ?_⟩
    have among := toNat_mem_parts part
    rw [jamo_eq] at among
    exact contains_hangulBits_iff.mpr (.inl (bounds_of_mem_jamo small among))

/-- A character has a small form just if one of its parts has. -/
theorem lowered_iff_pieces (h : pieces c ≠ []) : Lowered c ↔ ∀ d ∈ pieces c, Lowered d := by
  rcases pieces_cases h with ⟨e, listed, whole_eq⟩ | ⟨hangul, jamo⟩
  · rw [pieces_of_mem listed whole_eq, Lowered, ← whole_eq, (agrees_of_mem listed).1,
      List.forall_mem_cons, Lowered, toNat_ofNat (valid_first listed)]
    refine (and_iff_left fun d part => ?_).symm
    split at part
    · cases part
    · rw [List.mem_singleton.mp part, Lowered, toNat_ofNat (valid_second listed)]
      exact (second_plain listed).2.2.2
  · exact iff_of_true (hangul_plain hangul).1 fun d part => (hangul_plain (jamo d part)).1

/-- The parts of a character are lower-cased to its small letter or to what this is made of. -/
theorem smallLetter_pieces (h : pieces c ≠ []) (ne : c ≠ '\u0130') :
    (pieces c).map smallLetter = [smallLetter c] ∨
      (pieces c).map smallLetter = pieces (smallLetter c) := by
  by_cases small : Lowered c
  · have alone : ∀ d ∈ pieces c, smallLetter d = d :=
      fun d part => ((lowered_iff_pieces h).mp small d part).smallLetter
    rw [List.map_congr_left alone, List.map_id', small.smallLetter]
    exact .inr rfl
  · rw [Lowered, Bool.not_eq_false] at small
    rcases pieces_cases h with ⟨e, listed, whole_eq⟩ | ⟨hangul, _⟩
    · have other : whole e ≠ 0x130 := by
        intro dotted
        rw [← Char.ofNat_toNat c, ← whole_eq, dotted] at ne
        exact ne rfl
      obtain ⟨w, a, of_whole, of_first, alike⟩ :=
        exists_small_entry listed (whole_eq ▸ small) other
      rw [whole_eq] at of_whole
      have small_first : smallLetter (Char.ofNat (first e)) = Char.ofNat a :=
        smallLetter_of_mem (by rwa [toNat_ofNat (valid_first listed)])
      have small_second : smallLetter (Char.ofNat (second e)) = Char.ofNat (second e) := by
        refine Lowered.smallLetter ?_
        rw [Lowered, toNat_ofNat (valid_second listed)]
        exact (second_plain listed).2.2.2
      rw [pieces_of_mem listed whole_eq, List.map_cons, small_first, smallLetter_of_mem of_whole]
      -- a letter that stands for another, such as the sign for ohm, has the small letter of that one
      rcases alike with ⟨single, rfl⟩ | ⟨e', listed', whole_eq', rfl, second_eq⟩
      · rw [if_pos single]
        exact .inl rfl
      · have whole_valid : w.isValidChar := whole_eq' ▸ valid_whole listed'
        rw [pieces_of_mem listed' (whole_eq'.trans (toNat_ofNat whole_valid).symm), second_eq]
        refine .inr (congrArg _ ?_)
        split
        · rfl
        · rw [List.map_singleton, small_second]
    · rw [(hangul_plain hangul).1] at small
      cases small

/-- No part of a character is one of the two that are lower-cased in their own way. -/
theorem plain_of_mem_pieces (part : d ∈ pieces c) : d ≠ '\u0130' ∧ d ≠ '\u03a3' := by
  rcases mem_parts_cases (toNat_mem_parts part) with ⟨e, listed, _, made⟩ | ⟨_, bounds⟩
  · obtain ⟨_, _, dotted, sigma⟩ := first_plain listed
    rcases made with made | ⟨_, made⟩
    · rw [← made] at dotted sigma
      exact ⟨fun same => dotted (by rw [same]; rfl), fun same => sigma (by rw [same]; rfl)⟩
    · have small : Lowered d := by
        rw [Lowered, made]
        exact (second_plain listed).2.2.2
      exact ⟨small.ne_dotted, small.ne_sigma⟩
  · have small : Lowered d := (hangul_plain (contains_hangulBits_iff.mpr (.inl bounds))).1
    exact ⟨small.ne_dotted, small.ne_sigma⟩

theorem pieces_sigma : pieces '\u03a3' = [] := by
  by_contra h
  rcases pieces_cases h with ⟨e, listed, whole_eq⟩ | ⟨hangul, _⟩
  · exact (whole_plain listed).2.2 whole_eq
  · rw [contains_hangulBits_iff, hangulBase] at hangul
    revert hangul
    decide

theorem findSome?_sight {seen : Bool} (nonempty : cs ≠ []) (h : ∀ c ∈ cs, sight c = some seen) :
    cs.findSome? sight = some seen := by
  obtain ⟨c, cs, rfl⟩ := List.exists_cons_of_ne_nil nonempty
  rw [List.findSome?_cons, h c List.mem_cons_self]

/-- From either side one sees of the parts of a character what one sees of it. -/
theorem sight_pieces (h : pieces c ≠ []) :
    (pieces c).findSome? sight = sight c ∧ (pieces c).reverse.findSome? sight = sight c := by
  rcases pieces_cases h with ⟨e, listed, whole_eq⟩ | ⟨hangul, jamo⟩
  -- a listed character: one part, or two of which the tables say what is seen from either side
  · obtain ⟨single_sight, pair_sight⟩ := sight_parts listed
    rw [pieces_of_mem listed whole_eq, sight_eq c, ← whole_eq]
    by_cases single : second e = 0
    · rw [if_pos single, List.reverse_singleton, List.findSome?_singleton, sight_eq,
        toNat_ofNat (valid_first listed)]
      exact ⟨single_sight single, single_sight single⟩
    · have both : ∀ a b : Char, [a, b].findSome? sight = (sight a).or (sight b) := fun a b => by
        rw [← List.singleton_append, List.findSome?_append, List.findSome?_singleton,
          List.findSome?_singleton]
      rw [if_neg single, List.reverse_cons, List.reverse_singleton, List.singleton_append, both, both,
        sight_eq, sight_eq, toNat_ofNat (valid_first listed), toNat_ofNat (valid_second listed)]
      exact pair_sight single
  -- a Hangul syllable: neither it nor its jamo have case
  · have caseless : ∀ d, contains hangulBits d.toNat = true → sight d = some false := by
      intro d hangul
      obtain ⟨_, cased, ignorable, _⟩ := hangul_plain hangul
      rw [sight_eq, sightAt, cased, ignorable]
      rfl
    rw [caseless c hangul]
    refine ⟨findSome?_sight h fun d part => caseless d (jamo d part),
      findSome?_sight (by simpa using h) fun d part => caseless d (jamo d (by simpa using part))⟩

/-! ### Lower-casing and taking apart -/

theorem findSome?_flatMap {f : Char → List Char} (h : ∀ c ∈ cs, (f c).findSome? sight = sight c) :
    (cs.flatMap f).findSome? sight = cs.findSome? sight := by
  induction cs with
  | nil => rfl
  | cons c cs ih =>
    obtain ⟨here, later⟩ := List.forall_mem_cons.mp h
    rw [List.flatMap_cons, List.findSome?_append, here, ih later, List.findSome?_cons]
    cases sight c <;> rfl

/-- From either side one sees of a character taken apart what one sees of it. -/
theorem sight_decompose (c : Char) : (decompose c).findSome? sight = sight c ∧
    (decompose c).reverse.findSome? sight = sight c := by
  induction c using pieces_induction with
  | step c ih =>
    by_cases bare : pieces c = []
    · rw [decompose_of_pieces_eq_nil bare, List.reverse_singleton, List.findSome?_singleton]
      exact ⟨rfl, rfl⟩
    · obtain ⟨front, back⟩ := sight_pieces bare
      rw [decompose_of_pieces bare, List.reverse_flatMap]
      refine ⟨(findSome?_flatMap fun d part => (ih d part).1).trans front, ?_⟩
      refine (findSome?_flatMap fun d part => ?_).trans back
      exact (ih d (List.mem_reverse.mp part)).2

theorem ahead_decomposed : ahead (decomposed cs) after = ahead cs after := by
  rw [ahead, ahead, decomposed, findSome?_flatMap fun c _ => (sight_decompose c).1]

/-- If characters are lower-cased to the same as their parts, so is a text of them. -/
theorem decomposed_lowerWithin_of_forall
    (h : ∀ c ∈ cs, ∀ before after,
      decomposed (lowerWithin before (decompose c) after) = decomposed (lowerAt before c after)) :
    decomposed (lowerWithin before (decomposed cs) after) =
      decomposed (lowerWithin before cs after) := by
  induction cs generalizing before with
  | nil => rfl
  | cons c cs ih =>
    obtain ⟨here, later⟩ := List.forall_mem_cons.mp h
    have behind : ahead (decompose c).reverse before = (sight c).getD before := by
      rw [ahead, (sight_decompose c).2]
    rw [decomposed_cons, lowerWithin_append, decomposed_append, here, ahead_decomposed, behind,
      ih later, lowerWithin_cons, decomposed_append]

theorem lowerWithin_of_plain (plain : ∀ c ∈ cs, c ≠ '\u0130' ∧ c ≠ '\u03a3') :
    lowerWithin before cs after = cs.map smallLetter := by
  induction cs generalizing before with
  | nil => rfl
  | cons c cs ih =>
    obtain ⟨⟨dotted, sigma⟩, later⟩ := List.forall_mem_cons.mp plain
    rw [lowerWithin_cons, lowerAt, if_neg dotted, if_neg sigma, ih later, List.map_cons,
      List.singleton_append]

/-- The parts of a character are lower-cased to the same text, once it is taken apart. -/
theorem decomposed_lowerWithin_pieces (h : pieces c ≠ []) :
    decomposed (lowerWithin before (pieces c) after) = decomposed (lowerAt before c after) := by
  by_cases dotted : c = '\u0130'
  -- the one character whose small form has two
  · have parts_eq : pieces '\u0130' = ['I', '\u0307'] := by
      rw [pieces]
      exact congrArg (List.map Char.ofNat) checked.dotted_parts
    have small : smallLetter 'I' = 'i' := rfl
    have lowered : Lowered '\u0307' :=
      contains_eq_false_of_and checked.forms_small (contains_bits.mpr (by simp))
    have mark := lowered.smallLetter
    rw [dotted, parts_eq, lowerWithin_of_plain (by simp), lowerAt, if_pos rfl, List.map_cons,
      List.map_singleton, small, mark]
  · have sigma : c ≠ '\u03a3' := by
      rintro rfl
      exact h pieces_sigma
    rw [lowerWithin_of_plain fun d part => plain_of_mem_pieces part, lowerAt, if_neg dotted,
      if_neg sigma]
    -- the small letter is taken apart into the small letters of the parts
    rcases smallLetter_pieces h dotted with same | made
    · rw [same]
    · have nonempty : pieces (smallLetter c) ≠ [] := by
        rw [← made]
        exact List.map_eq_nil_iff.not.mpr h
      rw [made, decomposed_cons, decompose_of_pieces nonempty, decomposed_nil, List.append_nil,
        decomposed]

theorem decomposed_lowerWithin_decompose (c : Char) (before after : Bool) :
    decomposed (lowerWithin before (decompose c) after) = decomposed (lowerAt before c after) := by
  induction c using pieces_induction generalizing before after with
  | step c ih =>
    by_cases bare : pieces c = []
    · rw [decompose_of_pieces_eq_nil bare, lowerWithin_cons, lowerWithin_nil, List.append_nil,
        ahead_nil]
    · -- the parts are taken apart by induction, and one step is a matter of the tables
      rw [decompose_of_pieces bare]
      exact (decomposed_lowerWithin_of_forall ih).trans (decomposed_lowerWithin_pieces bare)

/-- A text may be taken apart before it is lower-cased. -/
theorem decomposed_lowerWithin : decomposed (lowerWithin before (decomposed cs) after) =
    decomposed (lowerWithin before cs after) :=
  decomposed_lowerWithin_of_forall fun c _ => decomposed_lowerWithin_decompose c

/-! ### Lower-casing and the order of marks -/

theorem Lowered.of_mark (mark : combiningClass c ≠ 0) : Lowered c :=
  contains_eq_false_of_and checked.marks_small (contains_markBits mark)

/-- Nobody sees a mark as a letter with case. -/
theorem sight_ne_of_mark (mark : combiningClass c ≠ 0) : sight c ≠ some true := by
  have bit := contains_markBits mark
  have passed := congrArg (fun set => contains set c.toNat) checked.marks_caseless
  simp only [contains_and, bit, Bool.true_and] at passed
  rw [sight_eq, sightAt]
  cases ignorable : contains ignorableBits c.toNat with
  | true => simp
  | false =>
    rw [ignorable, Bool.and_false] at passed
    simp [← passed]

theorem getD_sight_comm (apart : Apart c d) (seen : Bool) :
    (sight c).getD ((sight d).getD seen) = (sight d).getD ((sight c).getD seen) := by
  have hc := sight_ne_of_mark apart.1
  have hd := sight_ne_of_mark apart.2.1
  rcases of_c : sight c with _ | _ | _ <;> rcases of_d : sight d with _ | _ | _ <;>
    first | rfl | exact absurd of_c hc | exact absurd of_d hd

/-- Lower-casing does not see an exchange of marks. -/
theorem canonical_lowerWithin_of_swap (h : Swap cs ds) :
    canonical (lowerWithin before cs after) = canonical (lowerWithin before ds after) := by
  obtain ⟨front, apart, rest⟩ := h
  next c d =>
    -- marks stay what they are, and from either side they hide nothing from each other
    have small := Lowered.of_mark apart.1
    have small' := Lowered.of_mark apart.2.1
    have seen : ahead (c :: d :: rest) after = ahead (d :: c :: rest) after := by
      simp only [ahead_cons, getD_sight_comm apart]
    rw [lowerWithin_append, lowerWithin_append, seen]
    refine canonical_append_congr _ ?_
    simp only [lowerWithin_cons, small.lowerAt, small'.lowerAt, List.singleton_append,
      getD_sight_comm apart]
    exact canonical_exchange apart _

/-- The canonical form of a text in small letters depends only on that of the text. -/
theorem canonical_lower (cs : List Char) :
    canonical (lower (canonical cs)) = canonical (lower cs) := by
  calc canonical (lower (canonical cs))
      = canonical (lowerWithin false (orderMarks (decomposed cs)) false) := by
        rw [lower_eq, canonical.eq_1 cs]
    _ = canonical (lowerWithin false (decomposed cs) false) :=
        (eq_of_swaps (fun _ _ => canonical_lowerWithin_of_swap) (swaps_orderMarks _)).symm
    _ = canonical (lower cs) := by rw [canonical, decomposed_lowerWithin, lower_eq, canonical]

/-- A text may be composed before it is lower-cased, if it is composed afterwards. -/
theorem compose_lower_compose (cs : List Char) :
    compose (lower (compose cs)) = compose (lower cs) := by
  refine compose_congr ?_
  rw [← canonical_lower, canonical_compose, canonical_lower]

/-! ### Small letters put together -/

theorem Lowered.of_mem_pieces (h : Lowered c) (part : d ∈ pieces c) : Lowered d :=
  (lowered_iff_pieces (List.ne_nil_of_mem part)).mp h d part

theorem Lowered.of_composePair? {a b j : Char} (pair : composePair? a b = some j) (ha : Lowered a)
    (hb : Lowered b) : Lowered j := by
  rcases pieces_of_composePair? pair with two | ⟨_, longer⟩
  · refine (lowered_iff_pieces (by simp [two])).mpr ?_
    simp [two, ha, hb]
  · refine (lowered_iff_pieces (by simp [longer])).mpr fun d part => ?_
    rw [longer, List.mem_append, List.mem_singleton] at part
    rcases part with part | rfl
    · exact ha.of_mem_pieces part
    · exact hb

/-- Small letters stay small when they are put together. -/
theorem lower_compose_lower (cs : List Char) : lower (compose (lower cs)) = compose (lower cs) := by
  have small : ∀ c ∈ lower cs, Lowered c := fun c mem => by
    rw [lower_eq] at mem
    exact lowered_of_mem_lowerWithin mem
  rw [lower_eq (compose (lower cs))]
  exact lowerWithin_of_lowered
    (forall_mem_compose (fun _ h _ => h.of_mem_pieces) Lowered.of_composePair? small)

end WorldAccess.Text
