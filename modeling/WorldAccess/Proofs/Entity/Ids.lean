import WorldAccess.Entity.Id
import WorldAccess.Proofs.Text.Numerals

/-!
# The text of an id

An id is read from a text of two numerals with a dash between them. Blanks may stand around the text
and around each numeral, and `#` signs in front. No numeral has a dash in it, so the first dash is
the one between the two, and nothing else is read. An id as it is written is such a text.

## Main results

* `Text.splitFirst_eq_some_iff` — a text that is cut in two
* `EntityId.parse_eq_ok_iff` — the texts that are read as an id
* `EntityId.parse_render_exact` — a written id is read back, and what is read says which id
-/

namespace WorldAccess

namespace Text

variable {sep : Char} {cs front back : List Char}

/-- A text is cut at the first separator. -/
theorem splitFirst_eq_some_iff :
    splitFirst sep cs = some (front, back) ↔ cs = front ++ sep :: back ∧ sep ∉ front := by
  constructor
  · intro cut
    induction cs generalizing front with
    | nil => cases cut
    | cons c cs ih =>
      rw [splitFirst] at cut
      split at cut
      next here =>
        cases cut
        exact ⟨by rw [here, List.nil_append], List.not_mem_nil⟩
      next apart =>
        obtain ⟨⟨before, after⟩, later, form⟩ := Option.map_eq_some_iff.mp cut
        cases form
        obtain ⟨rfl, unmarked⟩ := ih later
        exact ⟨rfl, List.not_mem_cons_of_ne_of_not_mem (Ne.symm apart) unmarked⟩
  · rintro ⟨rfl, unmarked⟩
    induction front with
    | nil => rw [List.nil_append, splitFirst, if_pos rfl]
    | cons c front ih =>
      rw [List.mem_cons, not_or] at unmarked
      obtain ⟨apart, later⟩ := unmarked
      rw [List.cons_append, splitFirst, if_neg (Ne.symm apart), ih later]
      rfl

end Text

namespace EntityId

open Text

variable {text : String} {id : EntityId}

/-- A text is read as an id iff what is left of it without the blanks around it and the `#` signs in
front has a dash, and its parts before and after the first dash, without the blanks around them, are
numerals of the site and of the number. -/
theorem parse_eq_ok_iff : parse text = .ok id ↔
    ∃ front back, (trim text.toList).dropWhile (· == '#') = front ++ '-' :: back ∧ '-' ∉ front ∧
      IsNumeral (trim front) id.site.toNat ∧ IsNumeral (trim back) id.number.toNat := by
  constructor
  · intro read
    -- reading succeeds in three steps: the cut, the site, the number
    unfold parse at read
    split at read
    next => cases read
    next front back cut =>
      split at read
      next => cases read
      next site siteRead =>
        split at read
        next => cases read
        next number numberRead =>
          cases read
          obtain ⟨form, first⟩ := splitFirst_eq_some_iff.mp cut
          exact ⟨front, back, form, first, readUInt32_eq_ok_iff.mp siteRead,
            readUInt64_eq_ok_iff.mp numberRead⟩
  · rintro ⟨front, back, form, first, site, number⟩
    rw [parse, splitFirst_eq_some_iff.mpr ⟨form, first⟩]
    dsimp only
    rw [readUInt32_eq_ok_iff.mpr site, readUInt64_eq_ok_iff.mpr number]

/-- A text is read as some id iff it has that form and both numbers fit. -/
theorem exists_parse_eq_ok_iff : (∃ id, parse text = .ok id) ↔
    ∃ front back site number, (trim text.toList).dropWhile (· == '#') = front ++ '-' :: back ∧
      '-' ∉ front ∧ IsNumeral (trim front) site ∧ site < UInt32.size ∧
      IsNumeral (trim back) number ∧ number < UInt64.size := by
  constructor
  · rintro ⟨id, read⟩
    obtain ⟨front, back, form, first, site, number⟩ := parse_eq_ok_iff.mp read
    exact ⟨front, back, _, _, form, first, site, id.site.toNat_lt, number, id.number.toNat_lt⟩
  · rintro ⟨front, back, site, number, form, first, siteText, siteFits, numberText, numberFits⟩
    refine ⟨⟨site.toUInt32, number.toUInt64⟩,
      parse_eq_ok_iff.mpr ⟨front, back, form, first, ?_, ?_⟩⟩
    · rw [Nat.toUInt32, UInt32.toNat_ofNat_of_lt' siteFits]
      exact siteText
    · rw [Nat.toUInt64, UInt64.toNat_ofNat_of_lt' numberFits]
      exact numberText

/-! ### A written id -/

theorem toList_render (id : EntityId) : id.render.toList =
    '#' :: (decimal id.site.toNat ++ '-' :: decimal id.number.toNat) := String.toList_ofList

theorem isBlank_of_mem_render {c : Char} (among : c ∈ id.render.toList) : isBlank c = false := by
  rw [toList_render, List.mem_cons, List.mem_append, List.mem_cons] at among
  rcases among with rfl | site | rfl | number
  · rfl
  · exact isBlank_of_isDigit (isDigit_of_mem_decimal site)
  · rfl
  · exact isBlank_of_isDigit (isDigit_of_mem_decimal number)

/-- A written id is read back. -/
theorem parse_render (id : EntityId) : parse id.render = .ok id := by
  have trimmed : ∀ n, trim (decimal n) = decimal n := fun n =>
    trim_of_forall_not_blank fun c among => isBlank_of_isDigit (isDigit_of_mem_decimal among)
  -- no dash is among the digits of the site, so the first is the one between the numbers
  have undashed : '-' ∉ decimal id.site.toNat := by
    intro among
    cases isDigit_of_mem_decimal among
  refine parse_eq_ok_iff.mpr ⟨decimal id.site.toNat, decimal id.number.toNat, ?_, undashed, ?_, ?_⟩
  · -- the one `#` in front is dropped, and a digit follows it
    obtain ⟨d, ds, form⟩ := List.exists_cons_of_ne_nil (spells_decimal id.site.toNat).nonempty
    have digit : d.isDigit = true := isDigit_of_mem_decimal (form ▸ List.mem_cons_self)
    have other : ¬(d == '#') = true := by
      intro sign
      rw [beq_iff_eq.mp sign] at digit
      cases digit
    rw [trim_of_forall_not_blank fun c => isBlank_of_mem_render, toList_render,
      List.dropWhile_cons_of_pos rfl, form, List.cons_append,
      List.dropWhile_cons_of_neg (p := (· == '#')) other]
  · rw [trimmed]
    exact isNumeral_decimal id.site.toNat
  · rw [trimmed]
    exact isNumeral_decimal id.number.toNat

/-- Ids as text. A written id is read back, whatever its site and number. A text is read as an id
iff it consists of the two numbers with a dash between them: without the blanks around it and then
without the `#` signs in front it has a dash, and its parts before and after the first dash, without
the blanks around them, are numerals of the site and of the number. Any two numbers that fit are the
site and the number of an id. -/
theorem parse_render_exact :
    (∀ id : EntityId, parse id.render = .ok id) ∧
      ∀ text : String,
        (∀ id, parse text = .ok id ↔
          ∃ front back, (trim text.toList).dropWhile (· == '#') = front ++ '-' :: back ∧
            '-' ∉ front ∧ IsNumeral (trim front) id.site.toNat ∧
            IsNumeral (trim back) id.number.toNat) ∧
        ((∃ id, parse text = .ok id) ↔
          ∃ front back site number,
            (trim text.toList).dropWhile (· == '#') = front ++ '-' :: back ∧
            '-' ∉ front ∧ IsNumeral (trim front) site ∧ site < UInt32.size ∧
            IsNumeral (trim back) number ∧ number < UInt64.size) :=
  ⟨parse_render, fun _ => ⟨fun _ => parse_eq_ok_iff, exists_parse_eq_ok_iff⟩⟩

end EntityId

end WorldAccess
