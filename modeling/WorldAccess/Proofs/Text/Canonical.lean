import Mathlib.Data.List.Chain
import Mathlib.Logic.Relation
import WorldAccess.Proofs.Text.Decomposition

/-!
# The canonical form of a text

A text that is taken apart with its marks in order is the canonical form of the text. The order is
reached by exchanging neighbouring marks of different classes, and no such exchange in the text makes
a difference to it.

## Main definitions

* `Text.Ordered` — each run of marks is in the order of the classes
* `Text.Swap` — two neighbouring marks of different classes change places
* `Text.canonical` — the canonical form

## Main results

* `Text.orderMarks_comm` — runs of marks of different classes may stand in either order
* `Text.swaps_orderMarks` — ordering the marks is a sequence of exchanges
* `Text.canonical_canonical` — the canonical form is its own
-/

namespace WorldAccess.Text

open Relation

variable {c d : Char} {cs ds es : List Char}

/-! ### Marks in order -/

theorem insertMark_nil (c : Char) : insertMark c [] = [c] := rfl

theorem insertMark_cons (c d : Char) (ds : List Char) : insertMark c (d :: ds) =
    if combiningClass d ≠ 0 ∧ combiningClass d < combiningClass c then d :: insertMark c ds
    else c :: d :: ds := rfl

theorem orderMarks_cons (c : Char) (cs : List Char) : orderMarks (c :: cs) =
    if combiningClass c = 0 then c :: orderMarks cs else insertMark c (orderMarks cs) := rfl

/-- Whether two characters are marks of different classes, so that their order says nothing. -/
def Apart (c d : Char) : Prop :=
  combiningClass c ≠ 0 ∧ combiningClass d ≠ 0 ∧ combiningClass c ≠ combiningClass d

theorem insertMark_comm (apart : Apart c d) (cs : List Char) :
    insertMark c (insertMark d cs) = insertMark d (insertMark c cs) := by
  obtain ⟨hc, hd, ne⟩ := apart
  induction cs with
  | nil =>
    simp only [insertMark_cons, insertMark_nil]
    split_ifs <;> first | rfl | omega
  | cons e es ih =>
    simp only [insertMark_cons]
    split_ifs <;> simp only [insertMark_cons] <;> split_ifs <;> first | rfl | rw [ih] | omega

theorem orderMarks_cons_congr (c : Char) (h : orderMarks ds = orderMarks es) :
    orderMarks (c :: ds) = orderMarks (c :: es) := by
  rw [orderMarks_cons, orderMarks_cons, h]

theorem orderMarks_append_congr (cs : List Char) (h : orderMarks ds = orderMarks es) :
    orderMarks (cs ++ ds) = orderMarks (cs ++ es) := by
  induction cs with
  | nil => exact h
  | cons c cs ih => exact orderMarks_cons_congr c ih

/-- A mark may stand in front of marks of other classes or behind them. -/
theorem orderMarks_pass (apart : ∀ d ∈ ds, Apart c d) (es : List Char) :
    orderMarks (c :: (ds ++ es)) = orderMarks (ds ++ c :: es) := by
  induction ds with
  | nil => rfl
  | cons d ds ih =>
    obtain ⟨near, rest⟩ := List.forall_mem_cons.mp apart
    have exchanged : orderMarks (c :: d :: (ds ++ es)) = orderMarks (d :: c :: (ds ++ es)) := by
      simp only [orderMarks_cons, if_neg near.1, if_neg near.2.1, insertMark_comm near]
    exact exchanged.trans (orderMarks_cons_congr d (ih rest))

/-- Two runs of marks of different classes may stand in either order. -/
theorem orderMarks_comm (apart : ∀ c ∈ cs, ∀ d ∈ ds, Apart c d) (es : List Char) :
    orderMarks (cs ++ (ds ++ es)) = orderMarks (ds ++ (cs ++ es)) := by
  induction cs with
  | nil => rfl
  | cons c cs ih =>
    obtain ⟨near, rest⟩ := List.forall_mem_cons.mp apart
    exact (orderMarks_cons_congr c (ih rest)).trans (orderMarks_pass near (cs ++ es))

/-- Whether each run of marks is in the order of the classes. -/
def Ordered (cs : List Char) : Prop :=
  cs.IsChain fun c d => combiningClass d = 0 ∨ combiningClass c ≤ combiningClass d

theorem insertMark_of_ordered (h : Ordered (c :: cs)) : insertMark c cs = c :: cs := by
  cases cs with
  | nil => rfl
  | cons d ds =>
    have near := (List.isChain_cons_cons.mp h).1
    rw [insertMark_cons, if_neg (by omega)]

theorem orderMarks_of_ordered (h : Ordered cs) : orderMarks cs = cs := by
  induction cs with
  | nil => rfl
  | cons c cs ih =>
    rw [orderMarks_cons, ih h.tail, insertMark_of_ordered h, ite_self]

theorem eq_or_mem_head?_insertMark (mem : d ∈ (insertMark c cs).head?) : d = c ∨ d ∈ cs.head? := by
  cases cs with
  | nil => exact .inl (by simpa [insertMark_nil] using mem.symm)
  | cons e es =>
    rw [insertMark_cons] at mem
    split at mem
    · exact .inr mem
    · exact .inl (Option.some_inj.mp mem).symm

theorem Ordered.insertMark (h : Ordered cs) : Ordered (insertMark c cs) := by
  induction cs with
  | nil => exact List.isChain_singleton c
  | cons d ds ih =>
    rw [insertMark_cons]
    split
    next before =>
      refine List.isChain_cons.mpr ⟨fun e mem => ?_, ih h.tail⟩
      rcases eq_or_mem_head?_insertMark mem with rfl | later
      · exact .inr before.2.le
      · exact (List.isChain_cons.mp h).1 e later
    next behind => exact List.isChain_cons_cons.mpr ⟨by omega, h⟩

theorem ordered_orderMarks (cs : List Char) : Ordered (orderMarks cs) := by
  induction cs with
  | nil => exact List.isChain_nil
  | cons c cs ih =>
    rw [orderMarks_cons]
    split
    next starter => exact List.isChain_cons.mpr ⟨fun d _ => .inr (starter ▸ Nat.zero_le _), ih⟩
    · exact ih.insertMark

theorem perm_insertMark (c : Char) (cs : List Char) : (insertMark c cs).Perm (c :: cs) := by
  induction cs with
  | nil => exact .refl [c]
  | cons d ds ih =>
    rw [insertMark_cons]
    split
    · exact (ih.cons d).trans (.swap c d ds)
    · exact .refl (c :: d :: ds)

theorem perm_orderMarks (cs : List Char) : (orderMarks cs).Perm cs := by
  induction cs with
  | nil => exact .refl []
  | cons c cs ih =>
    rw [orderMarks_cons]
    split
    · exact ih.cons c
    · exact (perm_insertMark c _).trans (ih.cons c)

/-! ### Exchanges -/

/-- Two neighbouring marks of different classes change places. -/
inductive Swap : List Char → List Char → Prop
  | mk (cs : List Char) {c d : Char} (apart : Apart c d) (ds : List Char) :
    Swap (cs ++ c :: d :: ds) (cs ++ d :: c :: ds)

theorem Swap.cons (c : Char) (h : Swap cs ds) : Swap (c :: cs) (c :: ds) := by
  cases h with
  | mk front apart rest => exact .mk (c :: front) apart rest

theorem swaps_insertMark (mark : combiningClass c ≠ 0) (cs : List Char) :
    ReflTransGen Swap (c :: cs) (insertMark c cs) := by
  induction cs with
  | nil => exact .refl
  | cons d ds ih =>
    rw [insertMark_cons]
    split
    next before =>
      have apart : Apart c d := ⟨mark, before.1, before.2.ne'⟩
      exact .head (.mk [] apart ds) (ih.lift (d :: ·) fun _ _ => .cons d)
    · exact .refl

/-- Ordering the marks is a sequence of exchanges. -/
theorem swaps_orderMarks (cs : List Char) : ReflTransGen Swap cs (orderMarks cs) := by
  induction cs with
  | nil => exact .refl
  | cons c cs ih =>
    have rest : ReflTransGen Swap (c :: cs) (c :: orderMarks cs) :=
      ih.lift (c :: ·) fun _ _ => .cons c
    rw [orderMarks_cons]
    split
    · exact rest
    next mark => exact rest.trans (swaps_insertMark mark _)

/-- What no exchange changes is the same before and after a sequence of them. -/
theorem eq_of_swaps {α : Type} {f : List Char → α} (same : ∀ cs ds, Swap cs ds → f cs = f ds)
    (h : ReflTransGen Swap cs ds) : f cs = f ds := by
  induction h with
  | refl => rfl
  | tail _ swap ih => exact ih.trans (same _ _ swap)

/-! ### The canonical form -/

/-- A text taken apart with its marks in order. -/
def canonical (cs : List Char) : List Char := orderMarks (decomposed cs)

theorem Apart.parts (apart : Apart c d) {p q : Char} (part : p ∈ decompose c)
    (part' : q ∈ decompose d) : Apart p q := by
  obtain ⟨mark, mark', ne⟩ := apart
  rw [Apart, combiningClass_of_mem_decompose mark part, combiningClass_of_mem_decompose mark' part']
  exact ⟨mark, mark', ne⟩

/-- An exchange of two marks makes no difference to the canonical form. -/
theorem canonical_exchange (apart : Apart c d) (cs : List Char) :
    canonical (c :: d :: cs) = canonical (d :: c :: cs) := by
  simp only [canonical, decomposed_cons]
  exact orderMarks_comm (fun p part q part' => apart.parts part part') _

theorem canonical_append_congr (cs : List Char) (h : canonical ds = canonical es) :
    canonical (cs ++ ds) = canonical (cs ++ es) := by
  rw [canonical, canonical, decomposed_append, decomposed_append]
  exact orderMarks_append_congr _ h

/-- The canonical form is its own. -/
theorem canonical_canonical (cs : List Char) : canonical (canonical cs) = canonical cs := by
  have flat : decomposed (canonical cs) = canonical cs :=
    decomposed_of_flat fun c mem => decompose_of_mem_decomposed ((perm_orderMarks _).mem_iff.mp mem)
  rw [canonical, flat]
  exact orderMarks_of_ordered (ordered_orderMarks _)

theorem length_canonical (cs : List Char) : (canonical cs).length = (decomposed cs).length :=
  (perm_orderMarks _).length_eq

theorem eq_nil_of_canonical (h : canonical cs = []) : cs = [] := by
  refine eq_nil_of_decomposed (List.eq_nil_of_length_eq_zero ?_)
  rw [← length_canonical, h, List.length_nil]

end WorldAccess.Text
