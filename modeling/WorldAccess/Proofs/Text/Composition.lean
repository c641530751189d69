import WorldAccess.Proofs.Text.Canonical

/-!
# Composition and the canonical form

A character that stands for two others is taken apart into what these are taken apart into. So a text
that is put together has the canonical form it had before, and texts of one canonical form are put
together alike.

## Main definitions

* `Text.Pending` — the state of a composition: which marks stay behind a base

## Main results

* `Text.pieces_of_composePair?`, `Text.decompose_of_composePair?` — what stands for two characters is
  taken apart into theirs
* `Text.canonical_compose` — composition keeps the canonical form
* `Text.compose_congr` — texts of one canonical form have one composed form
* `Text.forall_mem_compose` — what is true of the characters of a text and of its composed form
-/

namespace WorldAccess.Text

open Entry

variable {a b c d j : Char} {base : Option Char} {marks cs ds : List Char}

/-! ### Two characters -/

theorem pieces_syllable {s : Nat} (bound : s < 11172) :
    pieces (Char.ofNat (hangulBase + s)) = (jamo s).map Char.ofNat := by
  have valid : (hangulBase + s).isValidChar := by
    rw [hangulBase]
    unfold Nat.isValidChar
    omega
  rw [pieces, toNat_ofNat valid, parts_syllable bound]

/-- What stands for two characters is made of them, or of the second behind the parts of the first.
-/
theorem pieces_of_composePair? (h : composePair? a b = some j) :
    pieces j = [a, b] ∨ (pieces a ≠ [] ∧ pieces j = pieces a ++ [b]) := by
  simp only [composePair?] at h
  split_ifs at h with initial final ascii
  · -- a leading consonant and a vowel
    obtain rfl := Option.some_inj.mp h
    obtain ⟨x, hx⟩ := Nat.exists_eq_add_of_le initial.1
    obtain ⟨y, hy⟩ := Nat.exists_eq_add_of_le initial.2.2.1
    rw [hx, hy, Nat.add_sub_cancel_left, Nat.add_sub_cancel_left, pieces_syllable (by omega), jamo,
      if_pos (by omega), ← Char.ofNat_toNat a, ← Char.ofNat_toNat b, hx, hy,
      show (x * 21 + y) * 28 / 588 = x by omega, show (x * 21 + y) * 28 % 588 / 28 = y by omega]
    exact .inl rfl
  · -- a syllable of these two and a trailing consonant
    obtain rfl := Option.some_inj.mp h
    obtain ⟨s, hs⟩ := Nat.exists_eq_add_of_le final.1
    obtain ⟨t, ht⟩ := Nat.exists_eq_add_of_le (show 0x11A7 ≤ b.toNat by omega)
    rw [hs, Nat.add_sub_cancel_left] at final
    have syllable : pieces a = (jamo s).map Char.ofNat := by
      rw [← Char.ofNat_toNat a, hs, pieces_syllable (by omega)]
    refine .inr ⟨by rw [syllable, jamo]; exact List.cons_ne_nil _ _, ?_⟩
    rw [hs, ht, Nat.add_sub_cancel_left, Nat.add_assoc, pieces_syllable (by omega), syllable, jamo,
      jamo, if_pos final.2.2.1, if_neg (by omega), ← Char.ofNat_toNat b, ht,
      show (s + t) / 588 = s / 588 by omega, show (s + t) % 588 / 28 = s % 588 / 28 by omega,
      show (s + t) % 28 = t by omega]
    rfl
  · -- two characters with an entry
    obtain ⟨e, found, rfl⟩ := Option.map_eq_some_iff.mp h
    have listed := List.mem_append_left decomposedOnly (List.mem_of_find?_eq_some found)
    have pair := List.find?_some found
    simp only [Bool.and_eq_true, beq_iff_eq] at pair
    obtain ⟨first_eq, second_eq⟩ := pair
    have made_eq : pieces (Char.ofNat (whole e)) = [a, b] := by
      rw [pieces, toNat_ofNat (valid_whole listed), parts_of_mem listed, made, first, second,
        first_eq, second_eq, if_neg (by omega)]
      simp [Char.ofNat_toNat]
    exact .inl made_eq

/-- What stands for two characters is taken apart into what these are taken apart into. -/
theorem decompose_of_composePair? (h : composePair? a b = some j) :
    decompose j = decompose a ++ decompose b := by
  rcases pieces_of_composePair? h with pair | ⟨nonempty, longer⟩
  · rw [decompose_of_pieces (by simp [pair]), pair]
    simp
  · rw [decompose_of_pieces (by simp [longer]), longer, decompose_of_pieces nonempty]
    simp

/-! ### A whole text -/

theorem composeFrom_cons (base : Option Char) (marks : List Char) (c : Char) (cs : List Char) :
    composeFrom base marks (c :: cs) =
      match (if marks.head?.all fun m => combiningClass m < combiningClass c then
        base.bind (composePair? · c) else none) with
      | some joined => composeFrom (some joined) marks cs
      | none =>
        if combiningClass c = 0 then base.toList ++ marks.reverse ++ composeFrom (some c) [] cs
        else composeFrom base (c :: marks) cs := by
  cases marks with
  | nil => rfl
  | cons m marks => rfl

/-- The ways in which a composition goes on. -/
theorem composeFrom_cons_cases (base : Option Char) (marks : List Char) (c : Char) (cs : List Char) :
    (∃ b j, base = some b ∧ composePair? b c = some j ∧
        (∀ m ∈ marks.head?, combiningClass m < combiningClass c) ∧
        composeFrom base marks (c :: cs) = composeFrom (some j) marks cs) ∨
      (combiningClass c = 0 ∧ composeFrom base marks (c :: cs) =
        base.toList ++ marks.reverse ++ composeFrom (some c) [] cs) ∨
      (combiningClass c ≠ 0 ∧
        composeFrom base marks (c :: cs) = composeFrom base (c :: marks) cs) := by
  rw [composeFrom_cons]
  cases joined : (if marks.head?.all fun m => combiningClass m < combiningClass c then
      base.bind (composePair? · c) else none) with
  | some j =>
    refine .inl ?_
    split at joined
    next reaches =>
      obtain ⟨b, rfl, pair⟩ := Option.bind_eq_some_iff.mp joined
      refine ⟨b, j, rfl, pair, fun m last => ?_, rfl⟩
      exact decide_eq_true_eq.mp ((Option.all_eq_true ..).mp reaches m last)
    · cases joined
  | none =>
    by_cases starter : combiningClass c = 0
    · exact .inr (.inl ⟨starter, by simp only [if_pos starter]⟩)
    · exact .inr (.inr ⟨starter, by simp only [if_neg starter]⟩)

/-- The state of a composition: the marks that stay, given backwards, are in order, and so is the
rest of the text. -/
structure Pending (marks cs : List Char) : Prop where
  marked : ∀ m ∈ marks, combiningClass m ≠ 0
  sorted : marks.Pairwise fun m n => combiningClass n ≤ combiningClass m
  meets : ∀ m ∈ marks.head?, ∀ c ∈ cs.head?,
    combiningClass c = 0 ∨ combiningClass m ≤ combiningClass c
  ordered : Ordered cs

namespace Pending

theorem start (ordered : Ordered cs) : Pending [] cs where
  marked := by simp
  sorted := .nil
  meets := by simp
  ordered := ordered

/-- The last mark has the highest class. -/
theorem le_head {top : Char} (h : Pending (top :: marks) cs) :
    ∀ m ∈ top :: marks, combiningClass m ≤ combiningClass top :=
  List.forall_mem_cons.mpr ⟨le_rfl, (List.pairwise_cons.mp h.sorted).1⟩

theorem join (h : Pending marks (c :: cs))
    (reaches : ∀ m ∈ marks.head?, combiningClass m < combiningClass c) : Pending marks cs where
  marked := h.marked
  sorted := h.sorted
  meets m last d next := by
    have near := (List.isChain_cons.mp h.ordered).1 d next
    have := reaches m last
    omega
  ordered := h.ordered.tail

theorem keep (h : Pending marks (c :: cs)) (mark : combiningClass c ≠ 0) :
    Pending (c :: marks) cs where
  marked := List.forall_mem_cons.mpr ⟨mark, h.marked⟩
  sorted := by
    refine List.pairwise_cons.mpr ⟨fun m waits => ?_, h.sorted⟩
    obtain ⟨top, marks, rfl⟩ := List.exists_cons_of_ne_nil (List.ne_nil_of_mem waits)
    exact (h.le_head m waits).trans ((h.meets top rfl c rfl).resolve_left mark)
  meets m last d next := by
    obtain rfl := Option.some_inj.mp last
    exact (List.isChain_cons.mp h.ordered).1 d next
  ordered := h.ordered.tail

/-- A mark that reaches the base passes the marks that stay. -/
theorem canonical_pass (h : Pending marks (c :: cs))
    (reaches : ∀ m ∈ marks.head?, combiningClass m < combiningClass c) :
    orderMarks (decompose c ++ (decomposed marks.reverse ++ decomposed cs)) =
      orderMarks (decomposed marks.reverse ++ (decompose c ++ decomposed cs)) := by
  refine orderMarks_comm (fun p part q among => ?_) _
  obtain ⟨m, waits, part'⟩ := List.mem_flatMap.mp among
  rw [List.mem_reverse] at waits
  obtain ⟨top, marks, rfl⟩ := List.exists_cons_of_ne_nil (List.ne_nil_of_mem waits)
  have lower : combiningClass m < combiningClass c :=
    (h.le_head m waits).trans_lt (reaches top rfl)
  have apart : Apart c m := ⟨Nat.ne_zero_of_lt lower, h.marked m waits, lower.ne'⟩
  exact apart.parts part part'

end Pending

/-- Composition keeps the canonical form. -/
theorem canonical_composeFrom (pending : Pending marks cs) :
    canonical (composeFrom base marks cs) = canonical (base.toList ++ marks.reverse ++ cs) := by
  induction cs generalizing base marks with
  | nil => rw [composeFrom, List.append_nil]
  | cons c cs ih =>
    -- the mark that is joined to the base has to pass the marks that stay; otherwise nothing moves
    rcases composeFrom_cons_cases base marks c cs with
      ⟨b, j, rfl, pair, reaches, step⟩ | ⟨_, step⟩ | ⟨mark, step⟩
    · rw [step, ih (pending.join reaches)]
      simp only [canonical, Option.toList_some, List.cons_append,
        decomposed_cons, decomposed_append, decompose_of_composePair? pair, List.append_assoc]
      exact orderMarks_append_congr _ (pending.canonical_pass reaches)
    · rw [step]
      exact canonical_append_congr _ (ih (.start pending.ordered.tail))
    · rw [step, ih (pending.keep mark)]
      simp

theorem canonical_compose (cs : List Char) : canonical (compose cs) = canonical cs := by
  have composed : canonical (compose cs) = canonical ([] ++ [].reverse ++ canonical cs) :=
    canonical_composeFrom (.start (ordered_orderMarks _))
  rw [composed]
  exact canonical_canonical cs

/-- Texts of one canonical form have one composed form. -/
theorem compose_congr (h : canonical cs = canonical ds) : compose cs = compose ds := by
  change composeFrom none [] (canonical cs) = composeFrom none [] (canonical ds)
  rw [h]

theorem eq_nil_of_compose (h : compose cs = []) : cs = [] := by
  refine eq_nil_of_canonical ?_
  rw [← canonical_compose, h]
  rfl

/-- A text does not begin with its composed form unless it is composed. -/
theorem compose_eq_of_isPrefix (h : compose cs <+: cs) : compose cs = cs := by
  obtain ⟨rest, split⟩ := h
  have lengths : (decomposed (compose cs)).length = (decomposed cs).length := by
    rw [← length_canonical, canonical_compose, length_canonical]
  have none_left : rest = [] := by
    refine eq_nil_of_decomposed (List.eq_nil_of_length_eq_zero ?_)
    rw [← congrArg decomposed split, decomposed_append, List.length_append] at lengths
    omega
  rw [none_left, List.append_nil] at split
  exact split

/-- What is true of the characters of a text is true of those of its composed form, if it passes to
the parts of a character and from two characters to the one that stands for them. -/
theorem forall_mem_composeFrom {P : Char → Prop}
    (together : ∀ {a b j}, composePair? a b = some j → P a → P b → P j)
    (waiting : ∀ c ∈ base.toList ++ marks, P c) (rest : ∀ c ∈ cs, P c) :
    ∀ c ∈ composeFrom base marks cs, P c := by
  induction cs generalizing base marks with
  | nil => simpa [composeFrom, List.forall_mem_append] using waiting
  | cons c cs ih =>
    obtain ⟨here, later⟩ := List.forall_mem_cons.mp rest
    rw [List.forall_mem_append] at waiting
    obtain ⟨of_base, of_marks⟩ := waiting
    rcases composeFrom_cons_cases base marks c cs with
      ⟨b, j, rfl, pair, _, step⟩ | ⟨_, step⟩ | ⟨_, step⟩
    · rw [step]
      refine ih (List.forall_mem_append.mpr ⟨?_, of_marks⟩) later
      simpa using together pair (of_base b (by simp)) here
    · rw [step, List.forall_mem_append, List.forall_mem_append]
      exact ⟨⟨of_base, by simpa using of_marks⟩, ih (by simpa using here) later⟩
    · rw [step]
      refine ih (List.forall_mem_append.mpr ⟨of_base, ?_⟩) later
      exact List.forall_mem_cons.mpr ⟨here, of_marks⟩

theorem forall_mem_compose {P : Char → Prop} (apart : ∀ c, P c → ∀ d ∈ pieces c, P d)
    (together : ∀ {a b j}, composePair? a b = some j → P a → P b → P j) (h : ∀ c ∈ cs, P c) :
    ∀ c ∈ compose cs, P c := by
  have flat : ∀ c, P c → ∀ d ∈ decompose c, P d := by
    intro c
    induction c using pieces_induction with
    | step c ih =>
      intro holds d mem
      rcases mem_decompose_cases mem with ⟨_, rfl⟩ | ⟨p, part, mem⟩
      · exact holds
      · exact ih p part (apart c holds p part) d mem
  refine forall_mem_composeFrom together (by simp) fun c mem => ?_
  obtain ⟨d, among, mem⟩ := List.mem_flatMap.mp ((perm_orderMarks _).mem_iff.mp mem)
  exact flat d (h d among) c mem

end WorldAccess.Text
