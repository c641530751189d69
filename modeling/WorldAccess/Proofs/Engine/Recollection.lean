import Mathlib.Data.List.Basic
import WorldAccess.Engine.Session

/-!
# A ring of verdicts is a bounded queue

A session remembers verdicts in a ring whose oldest slot is overwritten. Seen from outside it is a
queue: verdicts in the order in which their questions were first asked, where a question that is
asked again keeps its place, and a new one drives the oldest out once there are sixty-four. The ring
is the queue turned by the place that is written next, and each use of the ring is the same use of
the queue, turned again.

## Main definitions

* `Recollection` with `lookup?`, `store` — the queue
* `Decisions.Use` — what is done with a ring or a queue
* `Decisions.Turned` — a ring and the queue that it stands for

## Main results

* `Recollection.Bounded.store` — questions stay distinct, and the queue stays bounded
* `Decisions.Turned.store` — storing in the ring is storing in the queue
* `Decisions.turned_run` — a run of uses
* `Decisions.run_eq_recollection` — what a ring holds and answers
-/

namespace WorldAccess

/-- Verdicts in the order in which their questions were first asked. -/
abbrev Recollection := List (Question × Vote)

namespace Decisions

/-- What is done with a ring or a queue of verdicts. -/
inductive Use where
  | store (q : Question) (v : Vote)
  | lookup (q : Question)
  | clear

/-- What the lookups among uses in sequence give, where `use` says what becomes of the verdicts and
`look` how they are looked up. -/
def Use.answers {σ : Type} (use : σ → Use → σ) (look : σ → Question → Option Vote) (s : σ) :
    List Use → List (Option Vote)
  | [] => []
  | .lookup q :: uses => look s q :: answers use look s uses
  | u :: uses => answers use look (use s u) uses

/-- A ring after a use. A lookup leaves it as it is. -/
def use (d : Decisions) : Use → Decisions
  | .store q v => d.store q v
  | .lookup _ => d
  | .clear => .empty

/-- A ring after uses in sequence. -/
def run (d : Decisions) (uses : List Use) : Decisions := uses.foldl use d

end Decisions

namespace Recollection

variable {l l' : Recollection} {q : Question} {v : Vote}

/-- The questions in their order. -/
def questions (l : Recollection) : List Question := l.map Prod.fst

/-- The verdict on a question. -/
def lookup? (l : Recollection) (q : Question) : Option Vote := List.lookup q l

/-- Stores a verdict: in place of the one on the same question if there is one, and otherwise at the
end, where the oldest gives way if there is no more room. -/
def store (l : Recollection) (q : Question) (v : Vote) : Recollection :=
  if q ∈ l.questions then l.map fun slot => if slot.1 = q then (q, v) else slot
  else (if l.length < Decisions.capacity then l else l.tail) ++ [(q, v)]

/-- A queue after a use. -/
def use (l : Recollection) : Decisions.Use → Recollection
  | .store q v => l.store q v
  | .lookup _ => l
  | .clear => []

/-- A queue after uses in sequence. -/
def run (l : Recollection) (uses : List Decisions.Use) : Recollection := uses.foldl use l

/-! ### Looking up -/

theorem lookup?_eq_some_iff (distinct : l.questions.Nodup) :
    l.lookup? q = some v ↔ (q, v) ∈ l := by
  rw [lookup?, List.lookup_eq_some_iff]
  constructor
  · rintro ⟨before, after, rfl, _⟩
    simp
  · intro among
    obtain ⟨before, after, rfl⟩ := List.append_of_mem among
    refine ⟨before, after, rfl, fun slot earlier => ?_⟩
    -- a slot before it on the same question would be a repetition
    have apart : slot.1 ≠ q := by
      simp only [questions, List.map_append, List.map_cons] at distinct
      exact fun same => (List.nodup_append.mp distinct).2.2 _ (List.mem_map_of_mem earlier) q
        List.mem_cons_self same
    simpa using apart.symm

/-- The order in which distinct questions are kept does not matter to lookups. -/
theorem lookup?_of_perm (distinct : l.questions.Nodup) (perm : l.Perm l') (q : Question) :
    l'.lookup? q = l.lookup? q := by
  have distinct' : l'.questions.Nodup := (perm.map Prod.fst).nodup_iff.mp distinct
  ext v
  rw [lookup?_eq_some_iff distinct, lookup?_eq_some_iff distinct', perm.mem_iff]

/-! ### Bounds -/

/-- Whether a queue has no question twice and at most as many as a session remembers. -/
structure Bounded (l : Recollection) : Prop where
  distinct : l.questions.Nodup
  length_le : l.length ≤ Decisions.capacity

theorem bounded_nil : Bounded [] := ⟨List.nodup_nil, Nat.zero_le _⟩

/-- Storing in place of a verdict on the same question does not change the questions. -/
theorem questions_replaced (l : Recollection) (q : Question) (v : Vote) :
    questions (l.map fun slot => if slot.1 = q then (q, v) else slot) = l.questions := by
  rw [questions, questions, List.map_map]
  refine List.map_congr_left fun slot _ => ?_
  by_cases same : slot.1 = q <;> simp [same]

theorem Bounded.store (b : l.Bounded) (q : Question) (v : Vote) : (l.store q v).Bounded := by
  obtain ⟨distinct, few⟩ := b
  unfold Recollection.store
  split
  next asked =>
    refine ⟨?_, by simpa using few⟩
    rw [questions_replaced]
    exact distinct
  next new =>
    -- what is kept is all of the queue or all but its oldest
    have keep : ∀ kept : Recollection, kept.Sublist l → kept.length < Decisions.capacity →
        Bounded (kept ++ [(q, v)]) := by
      intro kept sub short
      have among := sub.map Prod.fst
      refine ⟨?_, by simpa using Nat.succ_le_of_lt short⟩
      rw [questions, List.map_append]
      refine List.nodup_append.mpr ⟨distinct.sublist among, by simp, ?_⟩
      rintro p kept _ asked rfl
      rw [List.mem_singleton.mp asked] at kept
      exact new (among.subset kept)
    split
    next room => exact keep l (List.Sublist.refl l) room
    next full =>
      refine keep l.tail (List.tail_sublist l) ?_
      rw [List.length_tail]
      have : 0 < Decisions.capacity := by decide
      omega

theorem Bounded.use (b : l.Bounded) (u : Decisions.Use) : (l.use u).Bounded := by
  cases u with
  | store q v => exact b.store q v
  | lookup q => exact b
  | clear => exact bounded_nil

end Recollection

namespace Decisions

variable {d : Decisions} {l : Recollection} {q : Question} {v : Vote}

/-- Whether a ring is a queue turned by the place that is written next, which is the end as long as
the ring grows. -/
structure Turned (d : Decisions) (l : Recollection) : Prop where
  next_lt : d.next < capacity
  next_eq : d.size < capacity → d.next = d.size
  inOrder : l = d.slots.drop d.next ++ d.slots.take d.next

theorem turned_empty : empty.Turned [] := ⟨by decide, fun _ => rfl, rfl⟩

theorem lookup?_eq (d : Decisions) (q : Question) :
    d.lookup? q = Recollection.lookup? d.slots q := by
  obtain ⟨slots, next⟩ := d
  unfold lookup? Recollection.lookup?
  induction slots with
  | nil => rfl
  | cons slot slots ih =>
    obtain ⟨p, v⟩ := slot
    by_cases same : p = q
    · simp [same]
    · have apart : (q == p) = false := by simpa using Ne.symm same
      simpa [same, List.lookup_cons, apart] using ih

/-- The first verdict on a question is the only one if questions are distinct. -/
theorem replace_eq_map {slots : Recollection} (distinct : slots.questions.Nodup) :
    replace q v slots = slots.map fun slot => if slot.1 = q then (q, v) else slot := by
  induction slots with
  | nil => rfl
  | cons slot slots ih =>
    obtain ⟨fresh, distinct⟩ := List.nodup_cons.mp distinct
    unfold replace
    split
    next same =>
      have later : ∀ other ∈ slots, other.1 ≠ q := by
        rintro other among rfl
        exact fresh (same ▸ List.mem_map_of_mem among)
      have kept : (slots.map fun slot => if slot.1 = q then (q, v) else slot) = slots := by
        conv_rhs => rw [← List.map_id slots]
        exact List.map_congr_left fun other among => if_neg (later other among)
      rw [List.map_cons, if_pos same, kept]
    next apart => rw [List.map_cons, if_neg apart, ih distinct]

/-- A turn by the whole length is none. -/
theorem turn_mod {slots : Recollection} {n : Nat} (le : n ≤ capacity)
    (whole : n = capacity → slots.length = capacity) :
    slots.drop (n % capacity) ++ slots.take (n % capacity) = slots.drop n ++ slots.take n := by
  rcases Nat.lt_or_eq_of_le le with short | rfl
  · rw [Nat.mod_eq_of_lt short]
  · rw [Nat.mod_self, ← whole rfl]
    simp

namespace Turned

theorem perm (h : d.Turned l) : d.slots.Perm l := by
  rw [h.inOrder]
  exact (List.take_append_drop d.next d.slots ▸ List.perm_append_comm :)

theorem questions_perm (h : d.Turned l) : (d.slots.map Prod.fst).Perm l.questions :=
  h.perm.map Prod.fst

theorem lookup? (h : d.Turned l) (b : l.Bounded) (q : Question) :
    d.lookup? q = l.lookup? q := by
  rw [lookup?_eq, Recollection.lookup?_of_perm b.distinct h.perm.symm]

theorem size_eq (h : d.Turned l) : d.size = l.length := h.perm.length_eq

/-- Storing in a ring is storing in the queue that it stands for. -/
theorem store (h : d.Turned l) (b : l.Bounded) (q : Question) (v : Vote) :
    (d.store q v).Turned (l.store q v) := by
  have asked_iff : (d.slots.any fun slot => slot.1 == q) = true ↔ q ∈ l.questions := by
    rw [← h.questions_perm.mem_iff]
    simp
  have distinct : (d.slots.map Prod.fst).Nodup := h.questions_perm.nodup_iff.mpr b.distinct
  obtain ⟨below, growing, inOrder⟩ := id h
  unfold Decisions.store Recollection.store
  by_cases asked : q ∈ l.questions
  · -- both replace a verdict in its place
    rw [if_pos (asked_iff.mpr asked), if_pos asked]
    refine ⟨below, ?_, ?_⟩
    · simpa [size] using growing
    · rw [replace_eq_map distinct, inOrder]
      simp
  · rw [if_neg (mt asked_iff.mp asked), if_neg asked]
    have same : d.slots.length = l.length := h.size_eq
    have positive : 0 < capacity := by decide
    refine ⟨Nat.mod_lt _ positive, ?_, ?_⟩
    · -- only a ring that is not full grows
      dsimp only [size]
      split
      next room =>
        rw [List.length_append, List.length_singleton, growing room]
        exact fun short => Nat.mod_eq_of_lt short
      next full => simpa using fun short => absurd short full
    · by_cases room : l.length < capacity
      · have atEnd : d.next = d.slots.length := growing (by rw [h.size_eq]; exact room)
        have unturned : l = d.slots := by rw [inOrder, atEnd]; simp
        rw [if_pos room, if_pos (same ▸ room), turn_mod (by omega) (by simp; omega), atEnd,
          List.drop_of_length_le (by simp), List.take_of_length_le (by simp), unturned,
          List.nil_append]
      · -- the oldest verdict stands where the next one is written
        have whole : d.slots.length = capacity := by have := b.length_le; omega
        have tail : l.tail = d.slots.drop (d.next + 1) ++ d.slots.take d.next := by
          rw [inOrder, List.drop_eq_getElem_cons (by omega), List.cons_append, List.tail_cons]
        have split : d.slots.set d.next (q, v) =
            d.slots.take d.next ++ [(q, v)] ++ d.slots.drop (d.next + 1) := by
          rw [List.set_eq_take_append_cons_drop, if_pos (by omega), List.append_cons]
        have written : (d.slots.take d.next ++ [(q, v)]).length = d.next + 1 := by
          rw [List.length_append, List.length_take, List.length_singleton]
          omega
        rw [if_neg room, if_neg (same ▸ room), turn_mod (by omega) (by simp; omega), split, tail,
          List.drop_left' written, List.take_left' written, List.append_assoc]

theorem use (h : d.Turned l) (b : l.Bounded) (u : Use) : (d.use u).Turned (l.use u) := by
  cases u with
  | store q v => exact h.store b q v
  | lookup q => exact h
  | clear => exact turned_empty

end Turned

/-- A ring goes on standing for a queue, whatever is done with both. -/
theorem turned_run (h : d.Turned l) (b : l.Bounded) (uses : List Use) :
    (d.run uses).Turned (l.run uses) ∧ (l.run uses).Bounded := by
  induction uses generalizing d l with
  | nil => exact ⟨h, b⟩
  | cons u uses ih => exact ih (h.use b u) (b.use u)

theorem Turned.answers_eq (h : d.Turned l) (b : l.Bounded) (uses : List Use) :
    Use.answers Decisions.use Decisions.lookup? d uses =
      Use.answers Recollection.use Recollection.lookup? l uses := by
  induction uses generalizing d l with
  | nil => rfl
  | cons u uses ih =>
    cases u with
    | store q v => exact ih (h.store b q v) (b.store q v)
    | lookup q => exact congrArg₂ List.cons (h.lookup? b q) (ih h b)
    | clear => exact ih turned_empty Recollection.bounded_nil

/-- Whatever is stored, looked up and cleared in a ring that was empty at first, its questions stay
distinct, it holds at most sixty-four verdicts, and the place that is written next is one of the
sixty-four. Read from that place around, it holds the verdicts of the queue in their order, it gives
every lookup what the queue gives, and so it has given every lookup on the way. -/
theorem run_eq_recollection (uses : List Use) :
    let d := empty.run uses
    let l := Recollection.run [] uses
    (d.slots.map Prod.fst).Nodup ∧ d.size ≤ capacity ∧ d.next < capacity ∧ d.next ≤ d.size ∧
      d.slots.drop d.next ++ d.slots.take d.next = l ∧ (∀ q, d.lookup? q = l.lookup? q) ∧
      Use.answers Decisions.use Decisions.lookup? empty uses =
        Use.answers Recollection.use Recollection.lookup? [] uses := by
  intro d l
  obtain ⟨turned, bounded⟩ := turned_run turned_empty Recollection.bounded_nil uses
  have size_le : d.size ≤ capacity := turned.size_eq ▸ bounded.length_le
  refine ⟨turned.questions_perm.nodup_iff.mpr bounded.distinct, size_le, turned.next_lt, ?_,
    turned.inOrder.symm, turned.lookup? bounded,
    turned_empty.answers_eq Recollection.bounded_nil uses⟩
  -- a ring that is not full is written at its end
  rcases Nat.lt_or_eq_of_le size_le with growing | full
  · exact Nat.le_of_eq (turned.next_eq growing)
  · exact full ▸ Nat.le_of_lt turned.next_lt

end Decisions

end WorldAccess
