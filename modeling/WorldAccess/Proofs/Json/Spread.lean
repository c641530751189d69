import WorldAccess.Proofs.Json.RoundTrip

/-!
# Values that are written over several lines

The blanks and line breaks that set items and members apart stand between tokens, where they are
passed over. So a value that is written over several lines is cut into the same tokens as one that
is written on one, and is read back.

## Main results

* `Json.cuts_spread` — the tokens of a value
* `Json.parse?_pretty` — a value that is written over several lines is read back
-/

namespace WorldAccess.Json

/-! ### Blanks between tokens -/

/-- A blank in front of a text is passed over. -/
theorem tokensWithin?_space {c : Char} (space : isSpace c = true) (fuel : Nat) (cs : List Char) :
    tokensWithin? fuel (c :: cs) = tokensWithin? fuel cs := by
  cases fuel with
  | zero => rfl
  | succ fuel => rw [tokensWithin?, tokensWithin?, List.dropWhile_cons_of_pos space]

theorem Cuts.space {c : Char} (space : isSpace c = true) {cs : List Char} {ts : List Token}
    (later : Cuts cs ts) : Cuts (c :: cs) ts := by
  intro fuel enough
  rw [tokensWithin?_space space]
  rw [List.length_cons] at enough
  exact later fuel (by omega)

theorem Cuts.newLine (level : Nat) {cs : List Char} {ts : List Token} (later : Cuts cs ts) :
    Cuts (newLine level ++ cs) ts := by
  have blanks : ∀ n, Cuts (List.replicate n ' ' ++ cs) ts := by
    intro n
    induction n with
    | zero => exact later
    | succ n ih => exact ih.space (by decide)
  exact (blanks (2 * level)).space (by decide)

/-- A line break may follow a value. -/
theorem follows_newLine (level : Nat) (cs : List Char) : Follows (newLine level ++ cs) := by
  rintro c ⟨⟩
  exact Or.inr (Or.inr (Or.inr (by decide)))

/-! ### Values -/

mutual

/-- A plain value is cut into its tokens. -/
theorem cuts_spread : ∀ {j : Json}, j.IsPlain → ∀ (level : Nat) {cs : List Char} {ts : List Token},
    Follows cs → Cuts cs ts → Cuts (j.spread level ++ cs) (j.toTokens ++ ts)
  | null, plain, _, _, _, follows, later => cuts_compact plain follows later
  | bool _, plain, _, _, _, follows, later => cuts_compact plain follows later
  | number _, plain, _, _, _, follows, later => cuts_compact plain follows later
  | string _, plain, _, _, _, follows, later => cuts_compact plain follows later
  | array [], plain, _, _, _, follows, later => cuts_compact plain follows later
  | object [], plain, _, _, _, follows, later => cuts_compact plain follows later
  | array (_ :: _), plain, level, _, _, _, later => (cuts_spreadItems plain level later).mark rfl
  | object (_ :: _), plain, level, _, _, _, later => (cuts_spreadMembers plain level later).mark rfl

theorem cuts_spreadItems : ∀ {items : List Json}, ArePlain items → ∀ (level : Nat)
    {cs : List Char} {ts : List Token}, Cuts cs ts →
      Cuts (spreadItems level items ++ cs) (itemTokens items ++ ts)
  | [], _, level, cs, ts, later => by
    have close : Cuts (']' :: cs) (.closeArray :: ts) := later.mark rfl
    simpa [spreadItems, itemTokens] using close.newLine level
  | [j], ⟨plain, _⟩, level, cs, ts, later => by
    have close : Cuts (']' :: cs) (.closeArray :: ts) := later.mark rfl
    have item := cuts_spread plain (level + 1) (follows_newLine level _) (close.newLine level)
    simpa [spreadItems, itemTokens] using item.newLine (level + 1)
  | j :: k :: js, ⟨plain, rest⟩, level, cs, ts, later => by
    have items := (cuts_spreadItems rest level later).mark (t := .comma) rfl
    have item := cuts_spread plain (level + 1) (follows_cons (by decide) _) items
    simpa [spreadItems, itemTokens] using item.newLine (level + 1)

theorem cuts_spreadMembers : ∀ {members : List (Option String × Json)}, MembersArePlain members →
    ∀ (level : Nat) {cs : List Char} {ts : List Token}, Cuts cs ts →
      Cuts (spreadMembers level members ++ cs) (memberTokens members ++ ts)
  | [], _, level, cs, ts, later => by
    have close : Cuts ('\x7d' :: cs) (.closeObject :: ts) := later.mark rfl
    simpa [spreadMembers, memberTokens] using close.newLine level
  | [(name, j)], ⟨spells, plain, _⟩, level, cs, ts, later => by
    have close : Cuts ('\x7d' :: cs) (.closeObject :: ts) := later.mark rfl
    have value := cuts_spread plain (level + 1) (follows_newLine level _) (close.newLine level)
    have spaced := value.space (c := ' ') (by decide)
    have member := (spaced.mark (t := .colon) rfl).quote spells
    simpa [spreadMembers, memberTokens] using member.newLine (level + 1)
  | (name, j) :: m :: ms, ⟨spells, plain, rest⟩, level, cs, ts, later => by
    have members := (cuts_spreadMembers rest level later).mark (t := .comma) rfl
    have value := cuts_spread plain (level + 1) (follows_cons (by decide) _) members
    have spaced := value.space (c := ' ') (by decide)
    have member := (spaced.mark (t := .colon) rfl).quote spells
    simpa [spreadMembers, memberTokens] using member.newLine (level + 1)

end

/-- A plain value that is written over several lines is read back. -/
theorem parse?_pretty {j : Json} (plain : j.IsPlain) : parse? j.pretty = some j := by
  have cuts := cuts_spread plain 0 follows_nil cuts_nil
  rw [List.append_nil, List.append_nil] at cuts
  have made := build?_toTokens j [] []
  rw [List.append_nil] at made
  rw [parse?, pretty, String.toList_ofList, cuts.tokens?_eq, Option.bind_some, made]
  rfl

end WorldAccess.Json
