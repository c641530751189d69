import WorldAccess.Proofs.Engine.Additions
import WorldAccess.Proofs.Engine.Privilege

/-!
# What votes come to

Votes are folded from the left, and the fold stops at the first vote that is final. So a denial
counts if it comes before the first acceptance for good, whatever has been accepted so far, and does
not count after it. This module says what the verdict is without the fold: which votes there are,
and which of them come first.

## Main definitions

* `Vote.accepts`, `Vote.denies` — the two directions of a vote
* `Vote.untilAlways` — the votes before the first acceptance for good
* `Vote.Carry` — votes that come to an acceptance

## Main results

* `Vote.foldAll_eq_accept_iff` — a fold that goes on from an aggregate
* `Vote.foldAll_snd_of_first`, `Vote.foldAll_snd_of_none` — how far a fold goes
* `Vote.verdict_and_consulted` — the verdict on a list of votes, and what is looked at for it
-/

namespace WorldAccess.Vote

/-- Whether a vote is for a request. -/
def accepts : Vote → Bool
  | accept | acceptAlways => true
  | deny | denyAlways | skip => false

/-- Whether a vote is against a request. -/
def denies : Vote → Bool
  | deny | denyAlways => true
  | accept | acceptAlways | skip => false

/-- The votes before the first acceptance for good, which are all of them if there is none. -/
def untilAlways (votes : List Vote) : List Vote := votes.takeWhile (· != acceptAlways)

/-- Whether votes come to an acceptance: one of them is for the request, and none before the first
acceptance for good is against it. -/
def Carry (votes : List Vote) : Prop :=
  (∃ v ∈ votes, v.accepts = true) ∧ ∀ v ∈ untilAlways votes, v.denies = false

instance (votes : List Vote) : Decidable (Carry votes) := inferInstanceAs (Decidable (_ ∧ _))

theorem untilAlways_cons_acceptAlways (votes : List Vote) :
    untilAlways (acceptAlways :: votes) = [] := rfl

theorem untilAlways_cons {v : Vote} (ne : v ≠ acceptAlways) (votes : List Vote) :
    untilAlways (v :: votes) = v :: untilAlways votes :=
  List.takeWhile_cons_of_pos (by simpa using ne)

/-- A fold that goes on from an aggregate without denial accepts iff something has been accepted, or
one of the votes is for the request, and no denial comes before the first acceptance for good. -/
theorem foldAll_eq_accept_iff {a : Vote} (undenied : a = skip ∨ a = accept) (votes : List Vote) :
    (foldAll a votes).1 = accept ↔
      (a = accept ∨ ∃ v ∈ votes, v.accepts = true) ∧ ∀ v ∈ untilAlways votes, v.denies = false := by
  induction votes generalizing a with
  | nil => simp [foldAll, untilAlways]
  | cons v votes ih =>
    cases v
    case acceptAlways => simp [foldAll, foldInto, untilAlways_cons_acceptAlways, accepts]
    case deny | denyAlways => simp [foldAll, foldInto, untilAlways_cons, denies]
    case accept =>
      -- from here on something has been accepted
      have later := ih (Or.inr rfl)
      rw [foldAll, foldInto_accept undenied]
      simpa [untilAlways_cons, accepts, denies] using later
    case skip =>
      have later := ih undenied
      simpa [foldAll, foldInto, untilAlways_cons, accepts, denies] using later

/-- A verdict is acceptance iff the votes come to one. -/
theorem verdict_eq_accept_iff (votes : List Vote) : verdict votes = accept ↔ Carry votes := by
  have folded := foldAll_eq_accept_iff (Or.inl rfl) votes
  simp only [reduceCtorEq, false_or] at folded
  rw [Carry, ← folded, verdict]
  split
  next none => simp [none]
  next => rfl

/-- A fold looks at the first final vote and at no vote after it. -/
theorem foldAll_snd_of_first {v : Vote} (final : v.isFinal = true) {before : List Vote}
    (unsettled : ∀ u ∈ before, u.isFinal = false) (after : List Vote) (a : Vote) :
    (foldAll a (before ++ v :: after)).2 = before.length + 1 := by
  induction before generalizing a with
  | nil => simp [foldAll, foldInto_snd, final]
  | cons u before ih =>
    obtain ⟨first, rest⟩ := List.forall_mem_cons.mp unsettled
    simp [foldAll, foldInto_snd, first, ih rest]

/-- A fold looks at all votes if none is final. -/
theorem foldAll_snd_of_none {votes : List Vote} (unsettled : ∀ v ∈ votes, v.isFinal = false)
    (a : Vote) : (foldAll a votes).2 = votes.length := by
  induction votes generalizing a with
  | nil => rfl
  | cons v votes ih =>
    obtain ⟨first, rest⟩ := List.forall_mem_cons.mp unsettled
    simp [foldAll, foldInto_snd, first, ih rest]

/-- The verdict on a list of votes is acceptance if one of them accepts, for the moment or for good,
and none denies before the first acceptance for good, or at all if there is none; otherwise it is
denial. What is looked at for it is all votes up to the first that is final and that one, whatever
follows, and all votes if none is final. -/
theorem verdict_and_consulted (votes : List Vote) :
    verdict votes = (if Carry votes then accept else deny) ∧
      ((∃ before v after, votes = before ++ v :: after ∧ (∀ u ∈ before, u.isFinal = false) ∧
          v.isFinal = true ∧ consulted votes = before.length + 1 ∧
          ∀ later, verdict (before ++ v :: later) = verdict votes) ∨
        (∀ v ∈ votes, v.isFinal = false) ∧ consulted votes = votes.length) := by
  refine ⟨?_, ?_⟩
  · have accepted := verdict_eq_accept_iff votes
    split
    next carried => exact accepted.mpr carried
    next refused =>
      exact (verdict_eq_accept_or_deny votes).resolve_left fun h => refused (accepted.mp h)
  · cases found : votes.find? isFinal with
    | none =>
      have unsettled : ∀ v ∈ votes, v.isFinal = false := by
        simpa using List.find?_eq_none.mp found
      exact Or.inr ⟨unsettled, foldAll_snd_of_none unsettled skip⟩
    | some v =>
      obtain ⟨final, before, after, split, earlier⟩ := List.find?_eq_some_iff_append.mp found
      have unsettled : ∀ u ∈ before, u.isFinal = false := by simpa using earlier
      refine Or.inl ⟨before, v, after, split, unsettled, final, ?_, fun later => ?_⟩
      · rw [split]
        exact foldAll_snd_of_first final unsettled after skip
      · -- a final vote ends the fold, so that what follows does not count
        have settled : ∃ u ∈ before ++ [v], u.isFinal = true := ⟨v, by simp, final⟩
        rw [split, List.append_cons before v later, List.append_cons before v after,
          verdict_append_of_settled settled, verdict_append_of_settled settled]

example : verdict [skip, accept, acceptAlways, deny] = accept ∧
    consulted [skip, accept, acceptAlways, deny] = 3 := by decide

end WorldAccess.Vote
