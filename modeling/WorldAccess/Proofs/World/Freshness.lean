import Mathlib.Data.List.Induction
import WorldAccess.Proofs.World.Lists

/-!
# Kept grant lists are fresh

Grant lists are kept while the store changes behind them. In a run in which the engine stays
subscribed, a kept list that is out of date has the event that will clear it waiting in the queue.
So once nothing waits, every kept list is as good as when it was resolved, in everything that such
an event is sent for. The induction over runs is done once: what holds of a list when it is filled,
and goes on holding through every command that announces nothing to clear it, holds of every kept
list when the queue is empty.

An edit that takes the recorded changes away before they are announced is not heard of. The last
theorem shows a list that is left stale by such an edit.

## Main definitions

* `World.memberTakenAway` — a run in which a member is removed without an announcement

## Main results

* `World.kept_traced` — the induction over runs
* `World.kept_members_enabled` — the form of a kept list, and its members
* `World.memberTakenAway_stale` — the failure for edits that take their changes away
-/

namespace WorldAccess

open GrantLists

namespace World

variable {w w₀ : World} {c : Command} {commands : List Command} {site : SiteId} {cap : Capability}
  {head : EntityId} {tail : List EntityId}

/-- The head of a kept list lies in the list's site. -/
theorem Reachable.site_head (h : w.Reachable) (kept : w.kept site cap = head :: tail) :
    head.site = site := by
  have new : ∀ withBus config extras, (start withBus config extras).kept site cap = [] :=
    fun _ config extras => kept_startEngine _ config extras site cap
  -- besides the claim, the induction carries that the store is well-formed
  suffices all : w.store.WellFormed ∧
      ∀ head tail, w.kept site cap = head :: tail → head.site = site from all.2 head tail kept
  refine h.induction (P := fun w => w.store.WellFormed ∧
      ∀ head tail, w.kept site cap = head :: tail → head.site = site) ?_ ?_
  · intro withBus config extras
    refine ⟨Store.wellFormed_empty, fun head tail kept => ?_⟩
    rw [new] at kept
    cases kept
  · rintro w c ⟨wf, ih⟩
    refine ⟨wellFormed_perform wf c, fun head tail kept => ?_⟩
    cases kept_perform w c site cap with
    | same same => exact ih head tail (same ▸ kept)
    | cleared cleared =>
      rw [cleared] at kept
      cases kept
    | filled _ filled _ =>
      obtain ⟨⟨_, _, here, _⟩, _⟩ := resolve_sole wf (filled ▸ kept)
      exact here

/-- The induction over watched runs that begin without any lists: what holds of a list when it is
filled, and goes on holding as long as nothing that clears it is announced, holds of a kept list
unless an event that clears it still waits. -/
theorem kept_traced (reachable : w₀.Reachable) (fresh : w₀.kept site cap = [])
    {T : List Command → EntityId → List EntityId → Prop}
    (filled : ∀ past c head tail, past ++ [c] <+: commands →
      (w₀.run past).kept site cap = [] →
      resolve (w₀.run past).store site cap = head :: tail →
      (w₀.run (past ++ [c])).store = (w₀.run past).store →
      (w₀.run (past ++ [c])).kept site cap = head :: tail → T (past ++ [c]) head tail)
    (stays : ∀ past c head tail, past ++ [c] <+: commands →
      (w₀.run (past ++ [c])).kept site cap = head :: tail →
      (∀ event ∈ (w₀.run past).announced c, event.clears head = false) →
      T past head tail → T (past ++ [c]) head tail)
    (watched : w₀.isWatchedAlong commands = true)
    (kept : (w₀.run commands).kept site cap = head :: tail) :
    T commands head tail ∨ (w₀.run commands).Doomed head := by
  induction commands using List.reverseRec generalizing head tail with
  | nil =>
    rw [run_nil, fresh] at kept
    cases kept
  | append_singleton past c ih =>
    obtain ⟨watchedPast, watchedAfter⟩ := isWatchedAlong_append watched
    obtain ⟨now, later⟩ := Bool.and_eq_true_iff.mp watchedAfter
    have earlier : ∀ {head tail}, (w₀.run past).kept site cap = head :: tail →
        T past head tail ∨ (w₀.run past).Doomed head := by
      intro head tail
      refine ih (fun p d h t pre => ?_) (fun p d h t pre => ?_) watchedPast
      · exact filled p d h t (pre.trans (List.prefix_append _ _))
      · exact stays p d h t (pre.trans (List.prefix_append _ _))
    -- the last command has cleared the list, filled it, or left it as it was
    cases kept_perform (w₀.run past) c site cap with
    | cleared cleared =>
      rw [run_concat, cleared] at kept
      cases kept
    | filled empty found store =>
      rw [← run_concat] at found store
      exact Or.inl (filled past c head tail List.prefix_rfl empty (found ▸ kept) store kept)
    | same same =>
      rw [← run_concat] at same
      have before := same ▸ kept
      rcases earlier before with traced | doomed
      · -- what the last command announces to clear the list now waits
        by_cases told : ∃ event ∈ (w₀.run past).announced c, event.clears head = true
        · obtain ⟨event, told, clears⟩ := told
          rw [run_concat]
          exact Or.inr (doomed_of_announced now told clears)
        · have untold : ∀ event ∈ (w₀.run past).announced c, event.clears head = false :=
            fun event h => Bool.eq_false_iff.mpr fun clears => told ⟨event, h, clears⟩
          exact Or.inl (stays past c head tail List.prefix_rfl kept untold traced)
      · -- an event that waited has been delivered, and the list is cleared, or it still waits
        have here := (reachable.run past).site_head before
        rcases doomed.perform now later before here with gone | doomed
        · rw [run_concat, gone] at kept
          cases kept
        · rw [run_concat]
          exact Or.inr doomed

/-- In a watched run whose edits keep their changes, a kept list still says what it said of the
store, unless the event that clears it waits. -/
theorem supports_or_doomed (reachable : w₀.Reachable) (fresh : w₀.kept site cap = [])
    (watched : w₀.isWatchedAlong commands = true) (keeps : ∀ c ∈ commands, c.KeepsChanges)
    (kept : (w₀.run commands).kept site cap = head :: tail) :
    (w₀.run commands).store.Supports site cap head tail ∨ (w₀.run commands).Doomed head := by
  refine kept_traced reachable fresh
    (T := fun past head tail => (w₀.run past).store.Supports site cap head tail) ?_ ?_ watched kept
  · -- a list that has just been filled says what the store calls for
    intro past c head tail _ _ found store _
    rw [store]
    exact supports_resolve (reachable.run past).wellFormed found
  · -- a move that would make the list wrong would have been announced
    intro past c head tail pre _ untold supports
    have kept : c.KeepsChanges := keeps c (pre.mem (by simp))
    rw [run_concat]
    rcases supports.of_moves (moves_perform (w₀.run past) c) kept with still | ⟨event, told, clears⟩
    · exact still
    · rw [untold event told] at clears
      cases clears

/-- In a watched run whose edits keep their changes, once nothing waits, a kept list that is not
empty begins with a stored entity of the list's site, and goes on with ids in strictly increasing
order that are enabled members of that entity. -/
theorem kept_members_enabled (reachable : w₀.Reachable) (fresh : w₀.kept site cap = [])
    (watched : w₀.isWatchedAlong commands = true) (keeps : ∀ c ∈ commands, c.KeepsChanges)
    (quiet : (w₀.run commands).queue = []) (kept : (w₀.run commands).kept site cap ≠ []) :
    ∃ backing members, (w₀.run commands).kept site cap = backing :: members ∧
      backing.site = site ∧ ((w₀.run commands).store.entity? backing).isSome = true ∧
      members.Pairwise (compare · · = .lt) ∧
      ∀ m ∈ members, (w₀.run commands).store.isMember backing m = true := by
  obtain ⟨backing, members, form⟩ := List.exists_cons_of_ne_nil kept
  rcases supports_or_doomed reachable fresh watched keeps form with supports | doomed
  · obtain ⟨increasing, enabled⟩ := supports.members (reachable.run commands).wellFormed
    obtain ⟨e, stored, here, _, _⟩ := supports
    exact ⟨backing, members, form, here, by rw [stored]; rfl, increasing, enabled⟩
  · exact absurd doomed (not_doomed_of_quiet quiet)

/-- A run in which a list is kept, a group becomes a member of its head, and the list is cleared and
filled anew. -/
def memberGranted : List Command :=
  [.registerSite 2 "main", .create .epoch 2 .capability "BUILDER" .none,
    .create .epoch 2 .group "masons" .none, .groupsFor 2 .builder,
    .edit .epoch ⟨⟨2, 1⟩, 0⟩ [.edit (.addMember ⟨2, 2⟩)], .deliver, .deliver, .deliver,
    .groupsFor 2 .builder]

theorem kept_members_enabled_memberGranted :
    ((start true {} []).run memberGranted).kept 2 .builder = [⟨2, 1⟩, ⟨2, 2⟩] ∧
      ∃ backing members, ((start true {} []).run memberGranted).kept 2 .builder =
          backing :: members ∧
        backing.site = 2 ∧
        (((start true {} []).run memberGranted).store.entity? backing).isSome = true ∧
        members.Pairwise (compare · · = .lt) ∧
        ∀ m ∈ members, ((start true {} []).run memberGranted).store.isMember backing m = true :=
  ⟨by decide +kernel,
    kept_members_enabled ⟨true, {}, [], [], rfl⟩ (kept_startEngine _ _ _ _ _) (by decide +kernel)
      (by simp [memberGranted, Command.KeepsChanges]) (List.isEmpty_iff.mp (by decide +kernel))
      (by decide +kernel)⟩

/-- The same run, after which the group is removed by an edit that takes its changes away. -/
def memberTakenAway : List Command :=
  memberGranted ++ [.edit .epoch ⟨⟨2, 1⟩, 0⟩ [.edit (.removeMember ⟨2, 2⟩), .takeChanges]]

/-- Without the condition on edits the last theorem fails: nothing waits and the engine is
subscribed, but the list still names a group that is no member any more. -/
theorem memberTakenAway_stale :
    (start true {} []).isWatchedAlong memberTakenAway = true ∧
      ((start true {} []).run memberTakenAway).queue.isEmpty = true ∧
      ((start true {} []).run memberTakenAway).kept 2 .builder = [⟨2, 1⟩, ⟨2, 2⟩] ∧
      ((start true {} []).run memberTakenAway).store.isMember ⟨2, 1⟩ ⟨2, 2⟩ = false := by
  decide +kernel

end World

end WorldAccess
