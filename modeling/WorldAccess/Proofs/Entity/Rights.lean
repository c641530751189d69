import Mathlib.Data.List.TakeWhile
import WorldAccess.Entity.Rights

/-!
# Written rights are read back

A set of rights is written as its parts: the names of the rights that have one, and the other bits
together in hexadecimal. The parts are joined by bars between blanks. No part has a bar or a blank
in it, so the text falls apart into the same parts again, and these make the set.

## Main definitions

* `Rights.parts` — the parts of a written set, each with the rights it stands for

## Main results

* `Text.map_trim_splitAll` — joined parts fall apart again
* `Rights.parse?_render` — a written set is read back, whatever bits it has
-/

namespace WorldAccess

/-! ### Joined parts -/

namespace Text

variable {sep : Char} {cs front : List Char}

theorem splitAll_of_not_mem (h : sep ∉ cs) : splitAll sep cs = [cs] := by
  induction cs with
  | nil => rfl
  | cons c cs ih =>
    rw [List.mem_cons, not_or] at h
    obtain ⟨apart, later⟩ := h
    rw [splitAll, if_neg (Ne.symm apart), ih later]

theorem splitAll_append (h : sep ∉ front) (cs : List Char) :
    splitAll sep (front ++ sep :: cs) = front :: splitAll sep cs := by
  induction front with
  | nil => rw [List.nil_append, splitAll, if_pos rfl]
  | cons c front ih =>
    rw [List.mem_cons, not_or] at h
    obtain ⟨apart, later⟩ := h
    rw [List.cons_append, splitAll, if_neg (Ne.symm apart), ih later]

/-- Blanks around a text without blanks are dropped. -/
theorem trim_pad {lead tail : List Char} (before : ∀ c ∈ lead, isBlank c = true)
    (visible : ∀ c ∈ cs, isBlank c = false) (after : ∀ c ∈ tail, isBlank c = true) :
    trim (lead ++ cs ++ tail) = cs := by
  by_cases none : cs = []
  · subst none
    have blank : ∀ c ∈ lead ++ tail, isBlank c = true := by
      intro c among
      rcases List.mem_append.mp among with among | among
      · exact before c among
      · exact after c among
    rw [List.append_nil, trim, trimLeft, List.dropWhile_eq_nil_iff.mpr blank]
    rfl
  · have left : trimLeft (lead ++ (cs ++ tail)) = cs ++ tail := by
      rw [trimLeft, List.dropWhile_append_of_pos before]
      exact trimLeft_of_visible none visible tail
    have right : trimRight (cs ++ tail) = cs := by
      rw [trimRight, List.reverse_append, List.dropWhile_append_of_pos (by simpa using after)]
      exact trimRight_of_visible none visible []
    rw [List.append_assoc, trim, left, right]

/-- A text of which nothing is left has nothing but blanks in it. -/
theorem isBlank_of_trim_eq_nil (h : trim cs = []) : ∀ c ∈ cs, isBlank c = true := by
  have left : ∀ c ∈ trimLeft cs, isBlank c = true := by
    rw [trim, trimRight, List.reverse_eq_nil_iff, List.dropWhile_eq_nil_iff] at h
    simpa using h
  intro c among
  rw [← List.takeWhile_append_dropWhile (p := isBlank) (l := cs), List.mem_append] at among
  rcases among with taken | dropped
  · exact List.mem_takeWhile_imp taken
  · exact left c dropped

/-- Whether a text has neither a bar nor a blank in it. -/
def isBare (part : List Char) : Bool := part.all fun c => c != '|' && !isBlank c

theorem isBare_iff {part : List Char} :
    isBare part = true ↔ '|' ∉ part ∧ ∀ c ∈ part, isBlank c = false := by
  rw [isBare, List.all_eq_true]
  constructor
  · intro h
    refine ⟨fun bar => ?_, fun c among => ?_⟩
    · have unlike := h '|' bar
      simp at unlike
    · have unlike := h c among
      simpa using (Bool.and_eq_true_iff.mp unlike).2
  · rintro ⟨unbarred, visible⟩ c among
    have unlike : c ≠ '|' := by
      rintro rfl
      exact unbarred among
    simp [unlike, visible c among]

/-- Parts without bars and blanks that are joined by bars between blanks fall apart again. -/
theorem map_trim_splitAll (lead : List Char) {parts : List (List Char)} (ne : parts ≠ [])
    (bare : ∀ part ∈ parts, isBare part = true)
    (unbarred : '|' ∉ lead) (blank : ∀ c ∈ lead, isBlank c = true) :
    (splitAll '|' (lead ++ [' ', '|', ' '].intercalate parts)).map trim = parts := by
  induction parts generalizing lead with
  | nil => exact absurd rfl ne
  | cons part rest ih =>
    obtain ⟨first, later⟩ := List.forall_mem_cons.mp bare
    obtain ⟨first, visible⟩ := isBare_iff.mp first
    have front : '|' ∉ lead ++ part := by
      simp only [List.mem_append, not_or]
      exact ⟨unbarred, first⟩
    cases rest with
    | nil =>
      rw [List.intercalate_singleton, splitAll_of_not_mem front, List.map_singleton]
      have padded : trim (lead ++ part ++ []) = part := trim_pad blank visible (by simp)
      rw [List.append_nil] at padded
      rw [padded]
    | cons next rest =>
      -- the blank after the bar leads the next part
      have form : lead ++ [' ', '|', ' '].intercalate (part :: next :: rest) =
          (lead ++ part ++ [' ']) ++
            '|' :: ([' '] ++ [' ', '|', ' '].intercalate (next :: rest)) := by
        simp [List.intercalate_cons_cons]
      have space : ∀ c ∈ [' '], isBlank c = true := List.forall_mem_singleton.mpr rfl
      have others := ih [' '] (List.cons_ne_nil next rest) later (by decide) space
      rw [form, splitAll_append, List.map_cons, others, trim_pad blank visible space]
      simp only [List.mem_append, List.mem_singleton, not_or]
      exact ⟨⟨unbarred, first⟩, by decide⟩

end Text

/-! ### The parts of a set -/

namespace Rights

open Text

/-- The parts of a written set, each with the rights that it stands for. -/
def parts (x : Rights) : List (String × Rights) :=
  named.filter (fun entry => x.includes entry.2) ++
    if (x.without allNamed).isEmpty then []
    else [("0x" ++ String.ofList (Nat.toDigits 16 (x.without allNamed).bits.toNat),
      x.without allNamed)]

theorem render_eq (x : Rights) : x.render = " | ".intercalate (x.parts.map Prod.fst) := by
  unfold render parts
  dsimp only
  split
  · rw [List.append_nil]
  · rw [List.map_append]
    rfl

/-- Whether a text is a part that stands for some rights. -/
structure IsPart (part : List Char) (x : Rights) : Prop where
  read : readPart? part = some x
  bare : isBare part = true
  nonempty : part ≠ []

theorem isPart_of_mem {x : Rights} {entry : String × Rights} (h : entry ∈ x.parts) :
    IsPart entry.1.toList entry.2 := by
  rcases List.mem_append.mp h with name | rest
  · have all : ∀ entry ∈ named, readPart? entry.1.toList = some entry.2 ∧
        isBare entry.1.toList = true ∧ entry.1.toList ≠ [] := by decide +kernel
    obtain ⟨read, bare, nonempty⟩ := all entry (List.mem_filter.mp name).1
    exact ⟨read, bare, nonempty⟩
  · split at rest
    · cases rest
    · -- what the names leave over is a number; there are no more than 256 of them
      obtain rfl := List.mem_singleton.mp rest
      have all : ∀ n : Fin 256,
          readPart? ('0' :: 'x' :: Nat.toDigits 16 n) = some ⟨n.val.toUInt8⟩ ∧
            isBare ('0' :: 'x' :: Nat.toDigits 16 n) = true := by
        decide +kernel
      generalize x.without allNamed = y
      obtain ⟨read, bare⟩ := all ⟨y.bits.toNat, y.bits.toNat_lt⟩
      have form : ("0x" ++ String.ofList (Nat.toDigits 16 y.bits.toNat)).toList =
          '0' :: 'x' :: Nat.toDigits 16 y.bits.toNat := by simp
      rw [form]
      refine ⟨read.trans ?_, bare, List.cons_ne_nil _ _⟩
      exact congrArg some (congrArg Rights.mk UInt8.ofNat_toNat)

/-- The parts of a set make the set. -/
theorem foldl_union_parts (x : Rights) : (x.parts.map Prod.snd).foldl union empty = x := by
  have all : ∀ n : Fin 256, ((parts ⟨UInt8.ofNat n.val⟩).map Prod.snd).foldl union empty =
      ⟨UInt8.ofNat n.val⟩ := by decide +kernel
  have same := all ⟨x.bits.toNat, x.bits.toNat_lt⟩
  rw [UInt8.ofNat_toNat] at same
  exact same

/-- The rights of parts are put together as the parts are read. -/
theorem foldlM_readPart? {entries : List (String × Rights)}
    (h : ∀ entry ∈ entries, IsPart entry.1.toList entry.2) (start : Rights) :
    (entries.map (·.1.toList)).foldlM (fun r part => (readPart? part).map r.union) start =
      some ((entries.map Prod.snd).foldl union start) := by
  induction entries generalizing start with
  | nil => rfl
  | cons entry rest ih =>
    obtain ⟨first, later⟩ := List.forall_mem_cons.mp h
    rw [List.map_cons, List.foldlM_cons, first.read]
    exact ih later (start.union entry.2)

/-- Parts that are joined are read one after the other. -/
theorem parse?_intercalate {entries : List (String × Rights)}
    (h : ∀ entry ∈ entries, IsPart entry.1.toList entry.2) :
    parse? (" | ".intercalate (entries.map Prod.fst)) =
      some ((entries.map Prod.snd).foldl union empty) := by
  have chars : (" | ".intercalate (entries.map Prod.fst)).toList =
      [' ', '|', ' '].intercalate (entries.map (·.1.toList)) := by
    rw [String.toList_intercalate, List.map_map]
    rfl
  rw [parse?, chars]
  cases entries with
  | nil => rfl
  | cons first rest =>
    have bare : ∀ part ∈ (first :: rest).map (·.1.toList), isBare part = true := by
      intro part among
      obtain ⟨entry, listed, rfl⟩ := List.mem_map.mp among
      exact (h entry listed).bare
    have ne : (first :: rest).map (·.1.toList) ≠ [] := by simp
    have parts := map_trim_splitAll [] ne bare (by simp) (by simp)
    rw [List.nil_append] at parts
    generalize [' ', '|', ' '].intercalate ((first :: rest).map (·.1.toList)) = text at parts ⊢
    have written : (trim text).isEmpty = false := by
      rw [Bool.eq_false_iff]
      intro none
      -- a text of blanks would be one part, and an empty one
      have none := List.isEmpty_iff.mp none
      have unbarred : '|' ∉ text := by
        intro bar
        have blank := isBlank_of_trim_eq_nil none '|' bar
        revert blank
        decide
      rw [splitAll_of_not_mem unbarred, List.map_singleton, none, List.map_cons] at parts
      exact (h first List.mem_cons_self).nonempty (List.cons.inj parts).1.symm
    rw [written, if_neg Bool.false_ne_true, ← foldlM_readPart? h, ← parts, List.foldlM_map]

/-- A written set is read back. -/
theorem parse?_render (x : Rights) : parse? x.render = some x := by
  rw [render_eq, parse?_intercalate fun entry => isPart_of_mem, foldl_union_parts]

end Rights

end WorldAccess
