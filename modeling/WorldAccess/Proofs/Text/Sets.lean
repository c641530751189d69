import Mathlib.Data.Nat.Bitwise
import WorldAccess.Text.Case

/-!
# Sets and search trees that are quick to evaluate

What is true of long tables is checked entry by entry. So that this is quick, a set of numbers is the
bits of one number, and what has to be looked up stands in a search tree. The definitions use the
functions on numbers themselves, so that evaluating them does not go through instances.

## Main definitions

* `Text.contains` — membership in a set that is given as the bits of a number
* `Text.bits`, `Text.spans` — a list of numbers, or of ranges, as such a set
* `Text.ascends` — whether a list of numbers is in strictly increasing order
* `Text.Index` — a search tree

## Main results

* `Text.contains_bits`, `Text.contains_spans` — the members of a set
* `Text.Index.mem_of_get_of` — what is found in a search tree was put into it
-/

namespace WorldAccess.Text

variable {n m : Nat}

/-! ### Sets of numbers -/

/-- Whether a number is in a set, which is given as the bits of a number. -/
def contains (set n : Nat) : Bool := !(Nat.land set (Nat.shiftLeft 1 n)).beq 0

theorem contains_eq_testBit (set n : Nat) : contains set n = set.testBit n := by
  have bit : Nat.land set (Nat.shiftLeft 1 n) = (set.testBit n).toNat * 2 ^ n := by
    rw [← Nat.and_two_pow, ← Nat.one_mul (2 ^ n), ← Nat.shiftLeft_eq]
    rfl
  rw [contains, bit]
  cases set.testBit n with
  | false => rw [Bool.toNat_false, Nat.zero_mul]; rfl
  | true =>
    obtain ⟨k, power⟩ := Nat.exists_eq_succ_of_ne_zero (Nat.two_pow_pos n).ne'
    rw [Bool.toNat_true, Nat.one_mul, power]
    rfl

@[simp] theorem contains_zero (n : Nat) : contains 0 n = false := by
  rw [contains_eq_testBit, Nat.zero_testBit]

@[simp] theorem contains_or (a b n : Nat) :
    contains (a ||| b) n = (contains a n || contains b n) := by
  simp only [contains_eq_testBit, Nat.testBit_or]

@[simp] theorem contains_and (a b n : Nat) :
    contains (a &&& b) n = (contains a n && contains b n) := by
  simp only [contains_eq_testBit, Nat.testBit_and]

theorem contains_eq_false_of_and {a b : Nat} (apart : a &&& b = 0) (h : contains a n = true) :
    contains b n = false := by
  have both : contains (a &&& b) n = false := by rw [apart, contains_zero]
  rwa [contains_and, h, Bool.true_and] at both

theorem lt_of_contains {set : Nat} (bound : set < 1 <<< m) (h : contains set n = true) : n < m := by
  by_contra large
  rw [Nat.shiftLeft_eq, Nat.one_mul] at bound
  have high : set < 2 ^ n :=
    bound.trans_le (Nat.pow_le_pow_right Nat.two_pos (Nat.le_of_not_lt large))
  rw [contains_eq_testBit, Nat.testBit_lt_two_pow high] at h
  cases h

/-- The numbers of a list as the bits of one number. -/
def bits (ns : List Nat) : Nat := ns.foldr (fun n set => Nat.lor set (Nat.shiftLeft 1 n)) 0

theorem bits_cons (k : Nat) (ns : List Nat) : bits (k :: ns) = bits ns ||| 2 ^ k := by
  rw [← Nat.one_mul (2 ^ k), ← Nat.shiftLeft_eq]
  rfl

theorem contains_bits {ns : List Nat} : contains (bits ns) n = true ↔ n ∈ ns := by
  induction ns with
  | nil => simp [bits]
  | cons k ns ih =>
    rw [bits_cons, contains_or, Bool.or_eq_true, ih, contains_eq_testBit, Nat.testBit_two_pow,
      decide_eq_true_eq, List.mem_cons, or_comm, eq_comm]

/-- The numbers in a list of ranges as the bits of one number. -/
def spans (rs : List (Nat × Nat)) : Nat :=
  rs.foldr (fun r set => set ||| (1 <<< (r.2 + 1 - r.1) - 1) <<< r.1) 0

theorem contains_spans {rs : List (Nat × Nat)} : contains (spans rs) n = inRanges rs n := by
  induction rs with
  | nil => simp [spans, inRanges]
  | cons r rs ih =>
    rw [spans, inRanges] at ih
    rw [spans, inRanges, List.foldr_cons, List.any_cons, contains_or, ih, Bool.or_comm,
      contains_eq_testBit, Nat.shiftLeft_eq 1, Nat.one_mul, Nat.testBit_shiftLeft,
      Nat.testBit_two_pow_sub_one]
    congr 1
    rw [Bool.eq_iff_iff]
    simp only [Bool.and_eq_true, decide_eq_true_eq]
    omega

/-! ### Ascending lists -/

/-- Whether a list of numbers above a bound is in strictly increasing order. -/
def ascends : Nat → List Nat → Bool
  | _, [] => true
  | low, n :: ns => low.blt n && ascends n ns

theorem lt_of_ascends {low : Nat} {ns : List Nat} (h : ascends low ns = true) :
    ∀ n ∈ ns, low < n := by
  induction ns generalizing low with
  | nil => simp
  | cons k ns ih =>
    rw [ascends, Bool.and_eq_true, Nat.blt_eq] at h
    obtain ⟨above, rest⟩ := h
    exact List.forall_mem_cons.mpr ⟨above, fun n mem => above.trans (ih rest n mem)⟩

theorem nodup_of_ascends {low : Nat} {ns : List Nat} (h : ascends low ns = true) : ns.Nodup := by
  induction ns generalizing low with
  | nil => exact .nil
  | cons k ns ih =>
    rw [ascends, Bool.and_eq_true] at h
    exact List.nodup_cons.mpr ⟨fun mem => (lt_of_ascends h.2 k mem).false, ih h.2⟩

/-! ### Search trees -/

/-- A search tree of numbers with their values. -/
inductive Index where
  | leaf
  | node (left : Index) (key value : Nat) (right : Index)

namespace Index

/-- What stands in a tree, from left to right. -/
def toList : Index → List (Nat × Nat)
  | leaf => []
  | node left key value right => left.toList ++ (key, value) :: right.toList

/-- A tree of the given depth from the front of a list, and the rest of the list. -/
def build : Nat → List (Nat × Nat) → Index × List (Nat × Nat)
  | 0, ps => (leaf, ps)
  | depth + 1, ps =>
    match build depth ps with
    | (left, []) => (left, [])
    | (left, (key, value) :: rest) =>
      match build depth rest with
      | (right, rest) => (node left key value right, rest)

theorem toList_build (depth : Nat) (ps : List (Nat × Nat)) :
    (build depth ps).1.toList ++ (build depth ps).2 = ps := by
  induction depth generalizing ps with
  | zero => rfl
  | succ depth ih =>
    rw [build]
    split
    next left found => simpa [found] using ih ps
    next left key value rest found =>
      have front := ih ps
      rw [found] at front
      change (left.toList ++ (key, value) :: (build depth rest).1.toList) ++
        (build depth rest).2 = ps
      rw [List.append_assoc, List.cons_append, ih rest]
      exact front

/-- The search tree of a list that ascends and has fewer than 4096 members. -/
def of (ps : List (Nat × Nat)) : Index := (build 12 ps).1

/-- The value of a number, or zero. -/
def get (n : Nat) : Index → Nat
  | leaf => 0
  | node left key value right =>
    bif n.blt key then left.get n else bif n.beq key then value else right.get n

theorem mem_toList_of_get {t : Index} (h : t.get n ≠ 0) : (n, t.get n) ∈ t.toList := by
  induction t with
  | leaf => exact absurd rfl h
  | node left key value right left_ih right_ih =>
    rw [get] at h ⊢
    rw [toList, List.mem_append, List.mem_cons]
    cases less : n.blt key with
    | true =>
      rw [less] at h
      exact .inl (left_ih h)
    | false =>
      rw [less] at h
      cases same : n.beq key with
      | true => exact .inr (.inl (by rw [Nat.eq_of_beq_eq_true same]; rfl))
      | false =>
        rw [same] at h
        exact .inr (.inr (right_ih h))

theorem mem_of_get_of {ps : List (Nat × Nat)} (h : (of ps).get n ≠ 0) : (n, (of ps).get n) ∈ ps := by
  have stands := List.mem_append_left (build 12 ps).2 (mem_toList_of_get h)
  rwa [of, toList_build] at stands

end Index

/-- A search that only one member of a list can end ends there. -/
theorem find?_eq_some_of_unique {α : Type} {p : α → Bool} {l : List α} {a : α} (mem : a ∈ l)
    (holds : p a = true) (only : ∀ b ∈ l, p b = true → b = a) : l.find? p = some a := by
  cases found : l.find? p with
  | none => exact absurd holds (List.find?_eq_none.mp found a mem)
  | some b => rw [only b (List.mem_of_find?_eq_some found) (List.find?_some found)]

end WorldAccess.Text
