/-!
# Blank characters, trimming and words

Names, ids, paths and settings are read with the blanks around them dropped. A blank is any
character with the Unicode property White_Space, of which there are twenty-five.

Kinds, fields and operations are written as one of a fixed list of lower-case words. They are read
without regard to the blanks around them or to the case of ASCII letters.

## Main definitions

* `Text.isBlank` — the property White_Space
* `Text.trim` — a text without the blanks at its two ends
* `Text.splitFirst`, `Text.splitAll` — a text cut at the first or at every occurrence of a character
* `Text.readWord?` — a word of a closed vocabulary
-/

namespace WorldAccess.Text

/-- Whether a character has the Unicode property White_Space. -/
def isBlank (c : Char) : Bool :=
  let n := c.toNat
  (9 ≤ n && n ≤ 13) || n == 0x20 || n == 0x85 || n == 0xA0 || n == 0x1680
    || (0x2000 ≤ n && n ≤ 0x200A) || n == 0x2028 || n == 0x2029 || n == 0x202F
    || n == 0x205F || n == 0x3000

/-- The text after its leading blanks. -/
def trimLeft (cs : List Char) : List Char := cs.dropWhile isBlank

/-- The text before its trailing blanks. -/
def trimRight (cs : List Char) : List Char := (cs.reverse.dropWhile isBlank).reverse

/-- The text without the blanks at its two ends. -/
def trim (cs : List Char) : List Char := trimRight (trimLeft cs)

/-- Cuts a text at the first occurrence of `sep`, which belongs to neither part. -/
def splitFirst (sep : Char) : List Char → Option (List Char × List Char)
  | [] => none
  | c :: cs =>
    if c = sep then some ([], cs)
    else (splitFirst sep cs).map fun (before, after) => (c :: before, after)

/-- Cuts a text at every occurrence of `sep`. There is always at least one part. -/
def splitAll (sep : Char) : List Char → List (List Char)
  | [] => [[]]
  | c :: cs =>
    if c = sep then [] :: splitAll sep cs
    else match splitAll sep cs with
      | [] => [[c]]
      | part :: parts => (c :: part) :: parts

/-- The text without every leading and every trailing occurrence of `sep`. -/
def stripBoth (sep : Char) (cs : List Char) : List Char :=
  ((cs.dropWhile (· == sep)).reverse.dropWhile (· == sep)).reverse

/-- A text with its ASCII capitals made small. -/
def lowerAscii (cs : List Char) : List Char := cs.map Char.toLower

/-- The first member of `all` whose word is `text`, blanks around it and ASCII case apart. -/
def readWord? {α : Type} (all : List α) (word : α → String) (text : String) : Option α :=
  let wanted := String.ofList (lowerAscii (trim text.toList))
  all.find? fun a => word a == wanted

/-- The first member of `all` whose word is exactly `text`. -/
def exactWord? {α : Type} (all : List α) (word : α → String) (text : String) : Option α :=
  all.find? fun a => word a == text

variable {cs ds : List Char}

/-- A text that does not begin with a blank has none to drop in front. -/
theorem trimLeft_of_head (first : ∀ c ∈ cs.head?, isBlank c = false) : trimLeft cs = cs := by
  cases cs with
  | nil => rfl
  | cons c cs =>
    rw [trimLeft, List.dropWhile_cons_of_neg]
    simp [first c rfl]

/-- A text that does not end in a blank has none to drop behind. -/
theorem trimRight_of_getLast (last : ∀ c ∈ cs.getLast?, isBlank c = false) : trimRight cs = cs := by
  have mirrored : trimLeft cs.reverse = cs.reverse :=
    trimLeft_of_head (by rw [List.head?_reverse]; exact last)
  rw [trimLeft] at mirrored
  rw [trimRight, mirrored, List.reverse_reverse]

theorem trimLeft_of_visible (nonempty : cs ≠ []) (visible : ∀ c ∈ cs, isBlank c = false)
    (ds : List Char) : trimLeft (cs ++ ds) = cs ++ ds := by
  obtain ⟨c, cs, rfl⟩ := List.exists_cons_of_ne_nil nonempty
  exact trimLeft_of_head (by simpa using visible c List.mem_cons_self)

theorem trimRight_of_visible (nonempty : ds ≠ []) (visible : ∀ d ∈ ds, isBlank d = false)
    (cs : List Char) : trimRight (cs ++ ds) = cs ++ ds := by
  refine trimRight_of_getLast fun d last => ?_
  rw [List.getLast?_append, List.getLast?_eq_some_getLast nonempty] at last
  cases last
  exact visible _ (List.getLast_mem nonempty)

/-- A text without blanks stays as it is. -/
theorem trim_of_forall_not_blank (visible : ∀ c ∈ cs, isBlank c = false) : trim cs = cs := by
  rw [trim, trimLeft_of_head fun c first => visible c (List.mem_of_head? first),
    trimRight_of_getLast fun c last => visible c (List.mem_of_getLast? last)]

end WorldAccess.Text
