import WorldAccess.Json.Reader
import WorldAccess.Json.Writer
import WorldAccess.Proofs.Text.Numerals

/-!
# The tokens of a written value

A value that is written without blanks is cut into the tokens it was written from: a literal ends
at the quote that the writer put, since every quote within it is escaped, and a numeral ends where
one of the marks stands that may follow a value.

## Main definitions

* `Decimal.Numeral.IsInteger` — a numeral as integers are written
* `Json.IsPlain` — a value whose strings spell something and whose numbers are integers
* `Json.toTokens` — the tokens of a value
* `Json.Cuts` — a text is cut into tokens

## Main results

* `Json.literal?_flatMap`, `Json.number?_render` — literals and numerals are read back
* `Json.cuts_compact`, `Json.tokens?_compact` — so are the tokens of a value
-/

namespace WorldAccess

open Decimal

/-! ### Plain values -/

/-- A numeral as integers are written: digits without a leading zero, and neither a fraction nor an
exponent. -/
structure Decimal.Numeral.IsInteger (n : Numeral) : Prop where
  bare : n.isWhole = true
  digits : ∀ c ∈ n.whole, c.isDigit = true
  nonempty : n.whole ≠ []
  leading : n.whole.head? = some '0' → n.whole = ['0']

/-- Only zero is written with a leading zero. -/
theorem Text.head?_decimal (n : Nat) (h : (Text.decimal n).head? = some '0') :
    Text.decimal n = ['0'] := by
  unfold Text.decimal at *
  induction n using Nat.strongRecOn with
  | ind n ih =>
    rw [Nat.toDigits_eq_if (by decide)] at h ⊢
    split at h
    next small =>
      obtain rfl : n = 0 := by simpa using h
      rfl
    next large =>
      -- the leading digit is that of the quotient, which is not zero
      have begins : (Nat.toDigits 10 (n / 10)).head? = some '0' := by
        obtain ⟨d, ds, form⟩ := List.exists_cons_of_ne_nil (Nat.toDigits_ne_nil (n := n / 10))
        rw [form] at h ⊢
        exact h
      have zero := congrArg (Nat.ofDigitChars 10 · 0) (ih (n / 10) (by omega) begins)
      rw [Nat.ofDigitChars_ten_toDigits] at zero
      have none : n / 10 = 0 := zero
      omega

theorem Decimal.Numeral.isInteger_ofNat (n : Nat) : (Numeral.ofNat n).IsInteger where
  bare := rfl
  digits _ h := Text.isDigit_of_mem_decimal h
  nonempty := Nat.toDigits_ne_nil
  leading := Text.head?_decimal n

/-- A written integer begins with a sign or a digit. -/
theorem Decimal.Numeral.IsInteger.exists_cons_render {n : Numeral} (h : n.IsInteger) :
    ∃ c cs, n.render = c :: cs ∧ (c = '-' ∨ c.isDigit = true) := by
  obtain ⟨d, ds, form⟩ := List.exists_cons_of_ne_nil h.nonempty
  have digit : d.isDigit = true := h.digits d (by rw [form]; exact List.mem_cons_self)
  cases sign : n.negative with
  | true => exact ⟨'-', _, by simp [Numeral.render, sign]; rfl, Or.inl rfl⟩
  | false => exact ⟨d, _, by simp [Numeral.render, sign, form]; rfl, Or.inr digit⟩

namespace Json

mutual

/-- Whether every string of a value spells something and every number is an integer. -/
def IsPlain : Json → Prop
  | null | bool _ => True
  | number n => n.IsInteger
  | string s => s.isSome = true
  | array items => ArePlain items
  | object members => MembersArePlain members

/-- Whether every item is plain. -/
def ArePlain : List Json → Prop
  | [] => True
  | j :: js => j.IsPlain ∧ ArePlain js

/-- Whether every member is plain and its name spells something. -/
def MembersArePlain : List (Option String × Json) → Prop
  | [] => True
  | m :: ms => m.1.isSome = true ∧ m.2.IsPlain ∧ MembersArePlain ms

end

theorem membersArePlain_iff {members : List (Option String × Json)} :
    MembersArePlain members ↔ ∀ m ∈ members, m.1.isSome = true ∧ m.2.IsPlain := by
  induction members with
  | nil => simp [MembersArePlain]
  | cons m ms ih => simp [MembersArePlain, ih, and_assoc]

theorem arePlain_iff {items : List Json} : ArePlain items ↔ ∀ j ∈ items, j.IsPlain := by
  induction items with
  | nil => simp [ArePlain]
  | cons j js ih => simp [ArePlain, ih]

theorem isPlain_nat (n : Nat) : (nat n).IsPlain := Numeral.isInteger_ofNat n

theorem isPlain_text (s : String) : (text s).IsPlain := rfl

theorem isPlain_record {members : List (String × Json)} (h : ∀ m ∈ members, m.2.IsPlain) :
    (record members).IsPlain := by
  refine membersArePlain_iff.mpr fun m hm => ?_
  obtain ⟨m, among, rfl⟩ := List.mem_map.mp hm
  exact ⟨rfl, h m among⟩

theorem isPlain_list {α : Type} {encode : α → Json} (h : ∀ a, (encode a).IsPlain)
    (values : List α) : (list encode values).IsPlain := by
  refine arePlain_iff.mpr fun j hj => ?_
  obtain ⟨a, _, rfl⟩ := List.mem_map.mp hj
  exact h a

theorem isPlain_option {α : Type} {encode : α → Json} (h : ∀ a, (encode a).IsPlain)
    (value : Option α) : (option encode value).IsPlain := by
  cases value with
  | none => trivial
  | some a => exact h a

theorem membersArePlain_insertMember {m : Option String × Json}
    {members : List (Option String × Json)} (first : m.1.isSome = true ∧ m.2.IsPlain)
    (plain : MembersArePlain members) : MembersArePlain (insertMember m members) := by
  induction members with
  | nil => exact ⟨first.1, first.2, trivial⟩
  | cons other ms ih =>
    obtain ⟨spells, value, rest⟩ := plain
    unfold insertMember
    split
    · exact ⟨first.1, first.2, spells, value, rest⟩
    · exact ⟨spells, value, ih rest⟩

mutual

/-- Putting members in order leaves a value plain. -/
theorem isPlain_sorted : ∀ {j : Json}, j.IsPlain → j.sorted.IsPlain
  | null, _ | bool _, _ => trivial
  | number _, plain => plain
  | string _, plain => plain
  | array _, plain => arePlain_sortedItems plain
  | object _, plain => membersArePlain_sortedMembers plain

theorem arePlain_sortedItems : ∀ {items : List Json}, ArePlain items →
    ArePlain (sortedItems items)
  | [], _ => trivial
  | _ :: _, ⟨plain, rest⟩ => ⟨isPlain_sorted plain, arePlain_sortedItems rest⟩

theorem membersArePlain_sortedMembers : ∀ {members : List (Option String × Json)},
    MembersArePlain members → MembersArePlain (sortedMembers members)
  | [], _ => trivial
  | (_, _) :: _, ⟨spells, plain, rest⟩ =>
    membersArePlain_insertMember ⟨spells, isPlain_sorted plain⟩ (membersArePlain_sortedMembers rest)

end

/-! ### Literals -/

theorem unit?_control : ∀ n < 0x20,
    unit? '0' '0' (Nat.digitChar (n / 16)) (Nat.digitChar (n % 16)) = some n := by
  decide

/-- An escaped character is read back. -/
theorem literal?_escape {c : Char} {cs rest : List Char} {units : List Nat}
    (h : literal? cs = some (units, rest)) :
    literal? (escape c ++ cs) = some (c.toNat :: units, rest) := by
  unfold escape
  split
  case h_8 _ quote slash _ _ _ _ _ =>
    split
    next control => simp [literal?, unit?_control c.toNat control, h]
    next visible =>
      have plain : ¬ (c.toNat < 0x20 ∨ c = '\\') := not_or.mpr ⟨visible, slash⟩
      rw [List.singleton_append, literal?, if_neg plain, h]
      · rfl
      · exact quote
      · exact fun _ _ _ _ _ same => absurd same slash
      · exact fun _ _ same => absurd same slash
  all_goals simp [literal?, escaped?, h]

/-- A literal is read to the quote at its end. -/
theorem literal?_flatMap (cs rest : List Char) :
    literal? (cs.flatMap escape ++ '"' :: rest) = some (cs.map Char.toNat, rest) := by
  induction cs with
  | nil => simp [literal?]
  | cons c cs ih =>
    rw [List.flatMap_cons, List.append_assoc]
    exact literal?_escape ih

/-- A character is no half of a surrogate pair. -/
theorem not_surrogate (c : Char) : isLeading c.toNat = false ∧ isTrailing c.toNat = false := by
  have valid := c.valid
  simp only [UInt32.isValidChar, Nat.isValidChar] at valid
  have same : c.toNat = c.val.toNat := rfl
  simp only [isLeading, isTrailing, Bool.and_eq_false_iff, decide_eq_false_iff_not, same]
  omega

/-- Characters spell themselves. -/
theorem spell?_map_toNat (cs : List Char) : spell? (cs.map Char.toNat) = some cs := by
  induction cs with
  | nil => rfl
  | cons c cs ih =>
    obtain ⟨leading, trailing⟩ := not_surrogate c
    cases cs with
    | nil => simp [spell?, leading, trailing, Char.ofNat_toNat]
    | cons d cs =>
      rw [List.map_cons] at ih
      simp [spell?, leading, trailing, ih, Char.ofNat_toNat]

/-! ### Numerals -/

/-- Whether a text may follow a value. -/
def Follows (rest : List Char) : Prop :=
  ∀ c ∈ rest.head?, c = ',' ∨ c = ']' ∨ c = '\x7d' ∨ isSpace c = true

theorem follows_nil : Follows [] := by
  intro c h
  cases h

theorem follows_cons {c : Char} (h : c = ',' ∨ c = ']' ∨ c = '\x7d') (cs : List Char) :
    Follows (c :: cs) := by
  rintro d ⟨⟩
  rcases h with rfl | rfl | rfl
  · exact Or.inl rfl
  · exact Or.inr (Or.inl rfl)
  · exact Or.inr (Or.inr (Or.inl rfl))

theorem isSpace_iff {c : Char} : isSpace c = true ↔ c = ' ' ∨ c = '\n' ∨ c = '\t' ∨ c = '\r' := by
  simp [isSpace, or_assoc]

/-- What follows a value goes on with no numeral. -/
theorem Follows.head {c : Char} {cs : List Char} (h : Follows (c :: cs)) :
    c.isDigit = false ∧ c ≠ '.' ∧ c ≠ 'e' ∧ c ≠ 'E' := by
  rcases h c rfl with rfl | rfl | rfl | space
  · decide
  · decide
  · decide
  · rcases isSpace_iff.mp space with rfl | rfl | rfl | rfl <;> decide

theorem digits?_append {ds rest : List Char} (digits : ∀ c ∈ ds, c.isDigit = true) (ne : ds ≠ [])
    (follows : Follows rest) : digits? (ds ++ rest) = some (ds, rest) := by
  have stop : rest.takeWhile Char.isDigit = [] := by
    cases rest with
    | nil => rfl
    | cons c cs => simp [follows.head.1]
  have run : (ds ++ rest).takeWhile Char.isDigit = ds := by
    rw [List.takeWhile_append_of_pos digits, stop, List.append_nil]
  simp [digits?, run, ne]

theorem fraction?_of_follows {rest : List Char} (follows : Follows rest) :
    fraction? rest = some (none, rest) := by
  unfold fraction?
  split
  · exact absurd rfl follows.head.2.1
  · rfl

theorem exponent?_of_follows {rest : List Char} (follows : Follows rest) :
    exponent? rest = some (none, rest) := by
  cases rest with
  | nil => rfl
  | cons c cs =>
    obtain ⟨_, _, e, E⟩ := follows.head
    simp [exponent?, e, E]

/-- The digits of an integer are read back. -/
theorem whole?_append {n : Numeral} (h : n.IsInteger) {rest : List Char} (follows : Follows rest) :
    whole? (n.whole ++ rest) = some (n.whole, rest) := by
  have run := digits?_append h.digits h.nonempty follows
  obtain ⟨d, ds, form⟩ := List.exists_cons_of_ne_nil h.nonempty
  by_cases zero : d = '0'
  · -- a leading zero is the only digit
    have only := h.leading (by rw [form, zero]; rfl)
    rw [only]
    rfl
  · rw [form, List.cons_append] at run ⊢
    rw [whole?]
    · exact run
    · exact fun _ same => absurd (List.cons.inj same).1 zero

/-- A written integer is read back. -/
theorem number?_render {n : Numeral} (h : n.IsInteger) {rest : List Char}
    (follows : Follows rest) : number? (n.render ++ rest) = some (n, rest) := by
  have whole := whole?_append h follows
  obtain ⟨negative, digits, fraction, exponent⟩ := n
  obtain ⟨noFraction, noExponent⟩ := Bool.and_eq_true_iff.mp h.bare
  obtain rfl : fraction = none := Option.isNone_iff_eq_none.mp noFraction
  obtain rfl : exponent = none := Option.isNone_iff_eq_none.mp noExponent
  have rest? := fraction?_of_follows follows
  have rest?' := exponent?_of_follows follows
  cases negative with
  | true => simp [number?, Numeral.render, whole, rest?, rest?']
  | false =>
    -- digits do not begin with a sign
    obtain ⟨d, ds, form⟩ := List.exists_cons_of_ne_nil h.nonempty
    have digit : d.isDigit = true := h.digits d (by rw [form]; exact List.mem_cons_self)
    have unsigned : d ≠ '-' := by
      rintro rfl
      cases digit
    dsimp only at form whole
    subst form
    rw [List.cons_append] at whole
    simp [number?, Numeral.render, unsigned, whole, rest?, rest?']

/-! ### Tokens -/

/-- Whether a text is cut into tokens. -/
def Cuts (cs : List Char) (ts : List Token) : Prop :=
  ∀ fuel, cs.length < fuel → tokensWithin? fuel cs = some ts

theorem Cuts.tokens?_eq {cs : List Char} {ts : List Token} (h : Cuts cs ts) :
    tokens? cs = some ts := h (cs.length + 1) (Nat.lt_succ_self _)

theorem cuts_nil : Cuts [] [] := by
  intro fuel h
  cases fuel with
  | zero => cases h
  | succ fuel => rfl

/-- One token after the other. -/
theorem Cuts.cons {c : Char} {cs rest : List Char} {t : Token} {ts : List Token}
    (later : Cuts rest ts) (token : token? (c :: cs) = some (t, rest))
    (visible : isSpace c = false) (shorter : rest.length ≤ cs.length) :
    Cuts (c :: cs) (t :: ts) := by
  intro fuel h
  cases fuel with
  | zero => cases h
  | succ fuel =>
    have enough : rest.length < fuel := by
      rw [List.length_cons] at h
      omega
    simp [tokensWithin?, visible, token, later fuel enough]

/-- The marks between values. -/
def Token.mark : Token → Option Char
  | .openArray => some '['
  | .closeArray => some ']'
  | .openObject => some '\x7b'
  | .closeObject => some '\x7d'
  | .colon => some ':'
  | .comma => some ','
  | _ => none

theorem Cuts.mark {c : Char} {t : Token} (h : t.mark = some c) {cs : List Char} {ts : List Token}
    (later : Cuts cs ts) : Cuts (c :: cs) (t :: ts) := by
  have token : token? (c :: cs) = some (t, cs) ∧ isSpace c = false := by
    cases t <;> cases h <;> exact ⟨rfl, by decide⟩
  exact later.cons token.1 token.2 (Nat.le_refl _)

theorem Cuts.quote {s : Option String} (spells : s.isSome = true) {cs : List Char}
    {ts : List Token} (later : Cuts cs ts) : Cuts (quote s ++ cs) (.string s :: ts) := by
  obtain ⟨text, rfl⟩ := Option.isSome_iff_exists.mp spells
  have form : Json.quote (some text) ++ cs = '"' :: (text.toList.flatMap escape ++ '"' :: cs) := by
    simp [Json.quote]
  have spelt : (spell? (text.toList.map Char.toNat)).map String.ofList = some text := by
    simp [spell?_map_toNat]
  rw [form]
  refine later.cons ?_ (by decide) (by simp; omega)
  simp [token?, literal?_flatMap, spelt]

/-- A text that begins as a numeral does begins with a number. -/
theorem token?_of_numeral {c : Char} (h : c = '-' ∨ c.isDigit = true) (cs : List Char) :
    token? (c :: cs) = (number? (c :: cs)).map fun (n, rest) => (.number n, rest) := by
  unfold token?
  split
  case h_11 => rfl
  all_goals
    rename_i form
    obtain ⟨rfl, _⟩ := List.cons.inj form
    rcases h with h | h <;> cases h

theorem Cuts.number {n : Numeral} (h : n.IsInteger) {cs : List Char} {ts : List Token}
    (follows : Follows cs) (later : Cuts cs ts) : Cuts (n.render ++ cs) (.number n :: ts) := by
  obtain ⟨c, digits, form, begins⟩ := h.exists_cons_render
  have visible : isSpace c = false := by
    rcases begins with rfl | digit
    · decide
    · refine Bool.eq_false_iff.mpr fun space => ?_
      rcases isSpace_iff.mp space with rfl | rfl | rfl | rfl <;> cases digit
  have read := number?_render h follows
  rw [form, List.cons_append] at read ⊢
  refine later.cons ?_ visible (by simp)
  rw [token?_of_numeral begins, read]
  rfl

theorem Cuts.truth (b : Bool) {cs : List Char} {ts : List Token} (later : Cuts cs ts) :
    Cuts (truth b ++ cs) (.bool b :: ts) := by
  cases b
  · exact later.cons rfl (by decide) (by simp; omega)
  · exact later.cons rfl (by decide) (by simp; omega)

/-! ### Values -/

mutual

/-- The tokens of a value. -/
def toTokens : Json → List Token
  | null => [.null]
  | bool b => [.bool b]
  | number n => [.number n]
  | string s => [.string s]
  | array items => .openArray :: itemTokens items
  | object members => .openObject :: memberTokens members

/-- The tokens of items and the closing bracket. -/
def itemTokens : List Json → List Token
  | [] => [.closeArray]
  | [j] => j.toTokens ++ [.closeArray]
  | j :: js => j.toTokens ++ .comma :: itemTokens js

/-- The tokens of members and the closing brace. -/
def memberTokens : List (Option String × Json) → List Token
  | [] => [.closeObject]
  | [m] => .string m.1 :: .colon :: (m.2.toTokens ++ [.closeObject])
  | m :: ms => .string m.1 :: .colon :: (m.2.toTokens ++ .comma :: memberTokens ms)

end

mutual

/-- A plain value is cut into its tokens. -/
theorem cuts_compact : ∀ {j : Json}, j.IsPlain → ∀ {cs : List Char} {ts : List Token}, Follows cs →
    Cuts cs ts → Cuts (j.compact ++ cs) (j.toTokens ++ ts)
  | null, _, _, _, _, later => later.cons rfl (by decide) (by simp; omega)
  | bool b, _, _, _, _, later => later.truth b
  | number _, plain, _, _, follows, later => later.number plain follows
  | string _, plain, _, _, _, later => later.quote plain
  | array _, plain, _, _, _, later => (cuts_compactItems plain later).mark rfl
  | object _, plain, _, _, _, later => (cuts_compactMembers plain later).mark rfl

theorem cuts_compactItems : ∀ {items : List Json}, ArePlain items → ∀ {cs : List Char}
    {ts : List Token}, Cuts cs ts → Cuts (compactItems items ++ cs) (itemTokens items ++ ts)
  | [], _, _, _, later => later.mark rfl
  | [j], ⟨plain, _⟩, cs, ts, later => by
    have close : Cuts (']' :: cs) (.closeArray :: ts) := later.mark rfl
    have item := cuts_compact plain (follows_cons (by decide) cs) close
    simpa [compactItems, itemTokens] using item
  | j :: k :: js, ⟨plain, rest⟩, cs, ts, later => by
    have items := (cuts_compactItems rest later).mark (t := .comma) rfl
    have item := cuts_compact plain (follows_cons (by decide) _) items
    simpa [compactItems, itemTokens] using item

theorem cuts_compactMembers : ∀ {members : List (Option String × Json)}, MembersArePlain members →
    ∀ {cs : List Char} {ts : List Token}, Cuts cs ts →
      Cuts (compactMembers members ++ cs) (memberTokens members ++ ts)
  | [], _, _, _, later => later.mark rfl
  | [(name, j)], ⟨spells, plain, _⟩, cs, ts, later => by
    have close : Cuts ('\x7d' :: cs) (.closeObject :: ts) := later.mark rfl
    have value := cuts_compact plain (follows_cons (by decide) cs) close
    have member := (value.mark (t := .colon) rfl).quote spells
    simpa [compactMembers, memberTokens] using member
  | (name, j) :: m :: ms, ⟨spells, plain, rest⟩, cs, ts, later => by
    have members := (cuts_compactMembers rest later).mark (t := .comma) rfl
    have value := cuts_compact plain (follows_cons (by decide) _) members
    have member := (value.mark (t := .colon) rfl).quote spells
    simpa [compactMembers, memberTokens] using member

end

/-! ### Line breaks -/

theorem newline_not_mem_escape (c : Char) : '\n' ∉ escape c := by
  unfold escape
  split
  case h_8 _ _ _ _ _ newline _ _ =>
    split
    next control =>
      have hex : ∀ n < 0x20, '\n' ∉ ['\\', 'u', '0', '0', Nat.digitChar (n / 16),
          Nat.digitChar (n % 16)] := by decide
      exact hex c.toNat control
    next => simpa using Ne.symm newline
  all_goals decide

theorem newline_not_mem_quote (s : Option String) : '\n' ∉ quote s := by
  simp [quote, newline_not_mem_escape]

theorem newline_not_mem_render {n : Numeral} (h : n.IsInteger) : '\n' ∉ n.render := by
  obtain ⟨noFraction, noExponent⟩ := Bool.and_eq_true_iff.mp h.bare
  have digits : '\n' ∉ n.whole := by
    intro among
    cases h.digits '\n' among
  simp [Numeral.render, Option.isNone_iff_eq_none.mp noFraction,
    Option.isNone_iff_eq_none.mp noExponent, digits]

mutual

/-- A plain value that is written on one line has no line break in it. -/
theorem newline_not_mem_compact : ∀ {j : Json}, j.IsPlain → '\n' ∉ j.compact
  | null, _ => by decide
  | bool b, _ => by cases b <;> decide
  | number _, plain => newline_not_mem_render plain
  | string s, _ => newline_not_mem_quote s
  | array _, plain => by
    have items := newline_not_mem_compactItems plain
    simpa [compact] using items
  | object _, plain => by
    have members := newline_not_mem_compactMembers plain
    simpa [compact] using members

theorem newline_not_mem_compactItems : ∀ {items : List Json}, ArePlain items →
    '\n' ∉ compactItems items
  | [], _ => by decide
  | [j], ⟨plain, _⟩ => by
    have item := newline_not_mem_compact plain
    simpa [compactItems] using item
  | j :: k :: js, ⟨plain, rest⟩ => by
    have item := newline_not_mem_compact plain
    have items := newline_not_mem_compactItems rest
    simpa [compactItems, item] using items

theorem newline_not_mem_compactMembers : ∀ {members : List (Option String × Json)},
    MembersArePlain members → '\n' ∉ compactMembers members
  | [], _ => by decide
  | [(name, j)], ⟨_, plain, _⟩ => by
    have value := newline_not_mem_compact plain
    simp [compactMembers, newline_not_mem_quote, value]
  | (name, j) :: m :: ms, ⟨_, plain, rest⟩ => by
    have value := newline_not_mem_compact plain
    have members := newline_not_mem_compactMembers rest
    simpa [compactMembers, newline_not_mem_quote, value] using members

end

/-- A plain value that is written on one line is cut into its tokens. -/
theorem tokens?_compact {j : Json} (plain : j.IsPlain) : tokens? j.compact = some j.toTokens := by
  have cuts := cuts_compact plain follows_nil cuts_nil
  rw [List.append_nil, List.append_nil] at cuts
  exact cuts.tokens?_eq

end Json

end WorldAccess
