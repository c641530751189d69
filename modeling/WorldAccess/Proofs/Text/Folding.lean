import WorldAccess.Proofs.Text.Lowering

/-!
# Folding a name in small letters

Blanks have no small form, and nothing else has a blank for its small letter. So the small letters of
a name may be taken before the blanks around it are dropped. Folding composes a name before it
lower-cases it, and not again afterwards. If the small letters are taken first, the folded name comes
out composed once more.

## Main results

* `Text.trim_lower` — lower-casing and trimming go together
* `Text.fold_lower` — the folded form of a name in small letters
-/

namespace WorldAccess.Text

variable {c d : Char} {cs ds : List Char} {before after : Bool}

/-! ### Blanks -/

theorem isBlank_eq (c : Char) : isBlank c = contains blankBits c.toNat := by
  rw [blankBits, contains_spans, Bool.eq_iff_iff]
  simp only [isBlank, inRanges, List.any_cons, List.any_nil, Bool.or_eq_true, Bool.and_eq_true,
    decide_eq_true_eq, beq_iff_eq, Bool.false_eq_true, or_false]
  omega

theorem Lowered.of_isBlank (blank : isBlank c = true) : Lowered c :=
  (blank_plain (isBlank_eq c ▸ blank)).1

/-- A blank is seen, and it has no case. -/
theorem sight_of_isBlank (blank : isBlank c = true) : sight c = some false := by
  obtain ⟨_, cased, ignorable, _⟩ := blank_plain (isBlank_eq c ▸ blank)
  rw [sight_eq, sightAt, cased, ignorable]
  rfl

/-- Only a blank has a blank among its small letters. -/
theorem not_isBlank_of_mem_lowerAt (visible : isBlank c = false) (mem : d ∈ lowerAt before c after) :
    isBlank d = false := by
  unfold lowerAt at mem
  have listed : ∀ e ∈ ['i', '\u0307', '\u03c2', '\u03c3'], isBlank e = false := by simp [isBlank]
  split_ifs at mem with dotted sigma final
  · exact listed d (List.mem_append_left ['\u03c2', '\u03c3'] mem)
  · exact listed d (by simp [List.mem_singleton.mp mem])
  · exact listed d (by simp [List.mem_singleton.mp mem])
  · rw [List.mem_singleton.mp mem]
    rcases smallLetter_cases c with ⟨same, _⟩ | ⟨m, pair, found⟩
    · rwa [same]
    · have small := contains_smallBits pair
      rw [found, isBlank_eq, toNat_ofNat (small_plain pair).1, ← Bool.not_eq_true]
      intro blank
      rw [(blank_plain blank).2.2.2] at small
      cases small

theorem lowerAt_ne_nil (before : Bool) (c : Char) (after : Bool) : lowerAt before c after ≠ [] := by
  unfold lowerAt
  split_ifs <;> simp

/-! ### Trimming -/

theorem trimRight_append_blank (blank : isBlank c = true) (cs : List Char) :
    trimRight (cs ++ [c]) = trimRight cs := by
  rw [trimRight, List.reverse_append, List.reverse_singleton, List.singleton_append,
    List.dropWhile_cons_of_pos blank, trimRight]

theorem trimLeft_lowerWithin :
    trimLeft (lowerWithin false cs after) = lowerWithin false (trimLeft cs) after := by
  induction cs with
  | nil => rfl
  | cons c cs ih =>
    cases blank : isBlank c with
    | true =>
      rw [lowerWithin_cons, (Lowered.of_isBlank blank).lowerAt, sight_of_isBlank blank, trimLeft,
        trimLeft, List.singleton_append, List.dropWhile_cons_of_pos blank,
        List.dropWhile_cons_of_pos blank]
      exact ih
    | false =>
      have stays : trimLeft (c :: cs) = c :: cs :=
        trimLeft_of_visible (List.cons_ne_nil c []) (by simpa using blank) cs
      rw [stays, lowerWithin_cons]
      exact trimLeft_of_visible (lowerAt_ne_nil _ _ _)
        (fun d mem => not_isBlank_of_mem_lowerAt blank mem) _

theorem trimRight_lowerWithin :
    trimRight (lowerWithin before cs false) = lowerWithin before (trimRight cs) false := by
  induction cs using List.reverseRecOn with
  | nil => rfl
  | append_singleton cs c ih =>
    cases blank : isBlank c with
    | true =>
      rw [lowerWithin_append, ahead_cons, sight_of_isBlank blank, lowerWithin_cons, lowerWithin_nil,
        (Lowered.of_isBlank blank).lowerAt, trimRight_append_blank blank, List.append_nil,
        trimRight_append_blank blank]
      exact ih
    | false =>
      have stays : trimRight (cs ++ [c]) = cs ++ [c] :=
        trimRight_of_visible (by simp) (by simpa using blank) cs
      rw [stays, lowerWithin_append, lowerWithin_cons, lowerWithin_nil, List.append_nil]
      exact trimRight_of_visible (lowerAt_ne_nil _ _ _)
        (fun d mem => not_isBlank_of_mem_lowerAt blank mem) _

/-- The small letters of a text may be taken before the blanks around it are dropped. -/
theorem trim_lower (cs : List Char) : trim (lower cs) = lower (trim cs) := by
  rw [lower_eq, lower_eq, trim, trimLeft_lowerWithin, trimRight_lowerWithin, trim]

/-! ### Folding -/

/-- A name in small letters is folded to the composed form of the folded name. -/
theorem fold_lower (name : String) :
    fold (String.ofList (lower name.toList)) = compose (fold name) := by
  calc fold (String.ofList (lower name.toList))
      = lower (compose (lower (trim name.toList))) := by
        rw [fold, String.toList_ofList, trim_lower]
    _ = compose (lower (trim name.toList)) := lower_compose_lower _
    _ = compose (lower (compose (trim name.toList))) := (compose_lower_compose _).symm

theorem eq_nil_of_lower (h : lower cs = []) : cs = [] := by
  cases cs with
  | nil => rfl
  | cons c cs =>
    rw [lower_eq, lowerWithin_cons] at h
    exact absurd (List.append_eq_nil_iff.mp h).1 (lowerAt_ne_nil _ _ _)

/-- A name that is not blank has a folded form that is not empty. -/
theorem fold_ne_nil {name : String} (named : trim name.toList ≠ []) : fold name ≠ [] :=
  fun h => named (eq_nil_of_compose (eq_nil_of_lower h))

end WorldAccess.Text
