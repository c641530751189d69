import WorldAccess.Proofs.Json.Tokens

/-!
# Written values are read back

The tokens of a value make the value again, whatever arrays and objects are open around it. With the
tokens of a written value this gives that reading inverts writing, for values whose strings spell
something and whose numbers are integers.

## Main definitions

* `Json.resume?` — what is made once a value is complete

## Main results

* `Json.build?_toTokens` — tokens make the value they were taken from
* `Json.parse?_line` — a value that is written on one line is read back
-/

namespace WorldAccess.Json

/-- What tokens make once a value is complete: the value itself, if nothing is open and nothing is
left, and otherwise the value is put into the innermost open frame. -/
def resume? (frames : List Frame) (ts : List Token) (v : Json) : Option Json :=
  match frames with
  | [] => if ts.isEmpty then some v else none
  | _ => (place v frames).bind fun frames => build? frames .more ts

/-- A value does not begin with the end of an array. -/
theorem exists_cons_toTokens (j : Json) : ∃ t ts, j.toTokens = t :: ts ∧ t ≠ .closeArray := by
  cases j <;> exact ⟨_, _, by rw [toTokens], by simp⟩

/-- The first item of an array is read as any value is. -/
theorem build?_firstItem (frames : List Frame) (j : Json) (ts : List Token) :
    build? frames .firstItem (j.toTokens ++ ts) = build? frames .value (j.toTokens ++ ts) := by
  obtain ⟨t, rest, form, ne⟩ := exists_cons_toTokens j
  rw [form, List.cons_append]
  cases t <;> first | rfl | exact absurd rfl ne

mutual

/-- The tokens of a value make the value. -/
theorem build?_toTokens : ∀ (j : Json) (frames : List Frame) (ts : List Token),
    build? frames .value (j.toTokens ++ ts) = resume? frames ts j
  | null, _, _ => rfl
  | bool _, _, _ => rfl
  | number _, _, _ => rfl
  | string _, _, _ => rfl
  | array [], _, _ => rfl
  | object [], _, _ => rfl
  | array (j :: js), frames, ts => by
    -- a list that is not empty does not end where its first item is looked for
    have first : build? (.items [] :: frames) .firstItem (itemTokens (j :: js) ++ ts) =
        build? (.items [] :: frames) .value (itemTokens (j :: js) ++ ts) := by
      cases js with
      | nil =>
        simp only [itemTokens, List.append_assoc]
        exact build?_firstItem _ j _
      | cons k js =>
        simp only [itemTokens, List.append_assoc]
        exact build?_firstItem _ j _
    exact first.trans (build?_itemTokens (j :: js) (List.cons_ne_nil j js) [] frames ts)
  | object (m :: ms), frames, ts => by
    have first : build? (.members [] :: frames) .firstMember (memberTokens (m :: ms) ++ ts) =
        build? (.members [] :: frames) .memberName (memberTokens (m :: ms) ++ ts) := by
      cases ms <;> rfl
    exact first.trans (build?_memberTokens (m :: ms) (List.cons_ne_nil m ms) [] frames ts)

theorem build?_itemTokens : ∀ (items : List Json), items ≠ [] → ∀ (before : List Json)
    (frames : List Frame) (ts : List Token),
    build? (.items before :: frames) .value (itemTokens items ++ ts) =
      resume? frames ts (.array (before.reverse ++ items))
  | [], ne, _, _, _ => absurd rfl ne
  | [j], _, before, frames, ts => by
    rw [itemTokens, List.append_assoc, build?_toTokens, ← List.reverse_cons]
    rfl
  | j :: k :: js, _, before, frames, ts => by
    have others := build?_itemTokens (k :: js) (List.cons_ne_nil k js) (j :: before) frames ts
    rw [itemTokens, List.append_assoc, build?_toTokens]
    · rw [List.reverse_cons, List.append_assoc] at others
      exact others
    · exact fun none => absurd none (List.cons_ne_nil k js)

theorem build?_memberTokens : ∀ (members : List (Option String × Json)), members ≠ [] →
    ∀ (before : List (Option String × Json)) (frames : List Frame) (ts : List Token),
    build? (.members before :: frames) .memberName (memberTokens members ++ ts) =
      resume? frames ts (.object (before.reverse ++ members))
  | [], ne, _, _, _ => absurd rfl ne
  | [(name, j)], _, before, frames, ts => by
    have value := build?_toTokens j (.member before name :: frames) (.closeObject :: ts)
    rw [memberTokens, ← List.reverse_cons]
    simp only [List.cons_append, List.append_assoc, List.nil_append]
    exact value
  | (name, j) :: m :: ms, _, before, frames, ts => by
    have others := build?_memberTokens (m :: ms) (List.cons_ne_nil m ms) ((name, j) :: before)
      frames ts
    have value := build?_toTokens j (.member before name :: frames)
      (.comma :: (memberTokens (m :: ms) ++ ts))
    rw [List.reverse_cons, List.append_assoc] at others
    rw [memberTokens]
    · simp only [List.cons_append, List.append_assoc]
      exact value.trans others
    · exact fun none => absurd none (List.cons_ne_nil m ms)

end

/-- A plain value that is written on one line is read back. -/
theorem parse?_line {j : Json} (plain : j.IsPlain) : parse? j.line = some j := by
  have made := build?_toTokens j [] []
  rw [List.append_nil] at made
  rw [parse?, line, String.toList_ofList, tokens?_compact plain, Option.bind_some, made]
  rfl

/-- A text that begins with neither a blank nor a token is no JSON. -/
theorem parse?_of_letter {s : String} {c : Char} {cs : List Char} (form : s.toList = c :: cs)
    (visible : isSpace c = false) (untold : token? (c :: cs) = none) : parse? s = none := by
  simp [parse?, form, tokens?, tokensWithin?, visible, untold]

end WorldAccess.Json
