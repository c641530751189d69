import WorldAccess.Text.CaseTable

/-!
# Lower-casing

The full Unicode mapping to small letters. Every character maps by itself except two: the capital
dotted I becomes two characters, and the capital sigma becomes the final small sigma at the end of a
word.

## Main definitions

* `Text.lower` — a text in small letters
* `Text.endsWord` — whether a capital sigma between two texts stands at the end of a word
-/

namespace WorldAccess.Text

/-- Whether a number lies in one of the ranges. -/
def inRanges (ranges : List (Nat × Nat)) (n : Nat) : Bool :=
  ranges.any fun r => r.1 ≤ n && n ≤ r.2

/-- Whether a character is a capital, small or title-case letter. -/
def isCased (c : Char) : Bool := inRanges casedRanges c.toNat

/-- Whether a character is passed over when the neighbours of a letter are looked for. -/
def isCaseIgnorable (c : Char) : Bool := inRanges caseIgnorableRanges c.toNat

/-- The small letter of a character, which is the character itself if it has none. -/
def smallLetter (c : Char) : Char :=
  let n := c.toNat
  match smallForms.find? fun r => r.first ≤ n && n ≤ r.last && (n - r.first) % r.step == 0 with
  | some r => Char.ofNat (r.small + (n - r.first))
  | none => c

/-- Whether the first character that is not passed over has case. -/
def meetsCased (cs : List Char) : Bool :=
  match cs.dropWhile isCaseIgnorable with
  | c :: _ => isCased c
  | [] => false

/-- Whether a word ends between `before`, given backwards, and `after`. -/
def endsWord (before after : List Char) : Bool := meetsCased before && !meetsCased after

/-- The small letters of one character between `before`, given backwards, and `after`. -/
def lowerOne (before : List Char) (c : Char) (after : List Char) : List Char :=
  if c = '\u0130' then ['i', '\u0307']
  else if c = '\u03a3' then [if endsWord before after then '\u03c2' else '\u03c3']
  else [smallLetter c]

/-- Lower-cases a text that follows `before`, given backwards. -/
def lowerFrom (before : List Char) : List Char → List Char
  | [] => []
  | c :: after => lowerOne before c after ++ lowerFrom (c :: before) after

/-- A text in small letters. -/
def lower (cs : List Char) : List Char := lowerFrom [] cs

end WorldAccess.Text
