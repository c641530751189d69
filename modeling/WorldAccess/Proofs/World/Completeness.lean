import WorldAccess.Proofs.World.Freshness

/-!
# What kept grant lists leave out

A grant list names those enabled members of its head that are stored as groups when the list is
filled. The engine hears of what changes about the head, and of nothing that happens to the members
themselves: it does not ask for it. So a kept list names an enabled member of its head exactly when
that member was a stored group at the moment the list was filled, whatever has become of it since.

A group that is stored only after the list was filled is missed, although it has been a member all
along. The last theorem shows such a list, and one that misses a member because an edit took its
changes away.

## Main definitions

* `World.FilledAt` — a list was filled at a moment of a run and has been kept unchanged since
* `World.TracedTo` — what is known of that moment
* `World.Misses` — a kept list does not name a member that it should by the store of now

## Main results

* `World.tracedTo_or_doomed` — every kept list was filled at some moment
* `World.mem_kept_iff_isGroup` — which enabled members of its head a kept list names
* `World.groupStoredLate_missed` — the members that it does not name
-/

namespace WorldAccess.World

open GrantLists

variable {w₀ : World} {c : Command} {past rest commands : List Command} {site : SiteId}
  {cap : Capability} {head : EntityId} {tail list : List EntityId}

/-- A list that was empty after `past` was filled by the command after it, and has been the same
ever since. -/
structure FilledAt (w₀ : World) (past : List Command) (c : Command) (rest : List Command)
    (site : SiteId) (cap : Capability) (list : List EntityId) : Prop where
  before : (w₀.run past).kept site cap = []
  since : ∀ more, more <+: rest → (w₀.run (past ++ c :: more)).kept site cap = list

theorem filledAt_nil (before : (w₀.run past).kept site cap = [])
    (after : (w₀.run (past ++ [c])).kept site cap = list) :
    w₀.FilledAt past c [] site cap list := by
  refine ⟨before, fun more pre => ?_⟩
  rw [List.prefix_nil.mp pre]
  exact after

theorem FilledAt.concat (h : w₀.FilledAt past c rest site cap list) {d : Command}
    (still : (w₀.run (past ++ c :: rest ++ [d])).kept site cap = list) :
    w₀.FilledAt past c (rest ++ [d]) site cap list := by
  refine ⟨h.before, fun more pre => ?_⟩
  rcases List.prefix_concat_iff.mp pre with rfl | pre
  · have form : past ++ c :: (rest ++ [d]) = past ++ c :: rest ++ [d] := by simp
    rw [form]
    exact still
  · exact h.since more pre

/-- What is known of a list that is kept: when it was filled, what the store called for then, and
that its head still is a capability entity with the roster of that time. -/
def TracedTo (w₀ : World) (site : SiteId) (cap : Capability) (commands : List Command)
    (head : EntityId) (tail : List EntityId) : Prop :=
  ∃ past c rest, commands = past ++ c :: rest ∧
    w₀.FilledAt past c rest site cap (head :: tail) ∧
    resolve (w₀.run past).store site cap = head :: tail ∧
    ∃ e₀ e, (w₀.run past).store.entity? head = some e₀ ∧
      (w₀.run commands).store.entity? head = some e ∧ e.BearsNameOf cap ∧ e.group = e₀.group

/-- In a watched run whose edits keep their changes, every kept list was filled at some moment, and
its head has kept its roster, unless the event that clears the list waits. -/
theorem tracedTo_or_doomed (reachable : w₀.Reachable) (fresh : w₀.kept site cap = [])
    (watched : w₀.isWatchedAlong commands = true) (keeps : ∀ c ∈ commands, c.KeepsChanges)
    (kept : (w₀.run commands).kept site cap = head :: tail) :
    w₀.TracedTo site cap commands head tail ∨ (w₀.run commands).Doomed head := by
  refine kept_traced reachable fresh (T := w₀.TracedTo site cap) ?_ ?_ watched kept
  · -- the moment at which the list is filled
    intro past c head tail _ empty found store kept
    obtain ⟨⟨e, stored, _, bears, _⟩, _⟩ := resolve_sole (reachable.run past).wellFormed found
    refine ⟨past, c, [], rfl, filledAt_nil empty kept, found, e, e, stored, ?_, bears, rfl⟩
    rw [store]
    exact stored
  · -- a move that changes the head's roster would have been announced
    rintro past d head tail pre kept untold ⟨early, c, rest, rfl, filledAt, found, e₀, e, stored₀,
      stored, bears, same⟩
    have keepsChanges : d.KeepsChanges := keeps d (pre.mem (by simp))
    have moves := moves_perform (w₀.run (early ++ c :: rest)) d
    rcases Store.bearsNameOf_of_moves moves keepsChanges stored bears with
      ⟨e', stored', bears', group⟩ | ⟨event, told, clears⟩
    · rw [← run_concat] at stored'
      exact ⟨early, c, rest ++ [d], by simp, filledAt.concat kept, found, e₀, e', stored₀, stored',
        bears', group.trans same⟩
    · rw [untold event told] at clears
      cases clears

/-- In a watched run whose edits keep their changes, once nothing waits, a kept list was filled at
some moment and has not changed since, and it names an enabled member of its head exactly when that
member was a stored group or capability at that moment. -/
theorem mem_kept_iff_isGroup (reachable : w₀.Reachable) (fresh : w₀.kept site cap = [])
    (watched : w₀.isWatchedAlong commands = true) (keeps : ∀ c ∈ commands, c.KeepsChanges)
    (quiet : (w₀.run commands).queue = []) {members : List EntityId}
    (kept : (w₀.run commands).kept site cap = head :: members) :
    ∃ past c rest, commands = past ++ c :: rest ∧
      w₀.FilledAt past c rest site cap (head :: members) ∧
      ∀ m, (w₀.run commands).store.isMember head m = true →
        (m ∈ members ↔ (w₀.run past).store.isGroup m = true) := by
  obtain ⟨past, c, rest, form, filledAt, found, e₀, e, stored₀, stored, _, same⟩ :=
    (tracedTo_or_doomed reachable fresh watched keeps kept).resolve_right
      (not_doomed_of_quiet quiet)
  refine ⟨past, c, rest, form, filledAt, fun m enabled => ?_⟩
  -- the members of then are the members of now
  obtain ⟨_, e₁, got, rfl⟩ := resolve_eq_cons found
  have wf := (reachable.run past).wellFormed
  obtain rfl : e₀ = e₁ := Option.some_inj.mp ((wf.get?_eq stored₀).symm.trans got)
  have listed := (Store.isMember_iff (reachable.run commands).wellFormed stored).mp enabled
  rw [same] at listed
  constructor
  · intro named
    exact (List.mem_filter.mp named).2
  · intro isGroup
    exact List.mem_filter.mpr ⟨listed, isGroup⟩

theorem mem_kept_iff_isGroup_memberGranted :
    ((start true {} []).run memberGranted).kept 2 .builder = [⟨2, 1⟩, ⟨2, 2⟩] ∧
      ∃ past c rest, memberGranted = past ++ c :: rest ∧
        (start true {} []).FilledAt past c rest 2 .builder [⟨2, 1⟩, ⟨2, 2⟩] ∧
        ∀ m, ((start true {} []).run memberGranted).store.isMember ⟨2, 1⟩ m = true →
          (m ∈ [(⟨2, 2⟩ : EntityId)] ↔ ((start true {} []).run past).store.isGroup m = true) := by
  have kept : ((start true {} []).run memberGranted).kept 2 .builder = [⟨2, 1⟩, ⟨2, 2⟩] := by
    decide +kernel
  refine ⟨kept, mem_kept_iff_isGroup ⟨true, {}, [], [], rfl⟩ (kept_startEngine _ _ _ _ _)
    (by decide +kernel) ?_ (List.isEmpty_iff.mp (by decide +kernel)) kept⟩
  simp [memberGranted, Command.KeepsChanges]

/-- Whether after a watched run, with nothing waiting, a kept list does not name an enabled member of
its head that is a stored group or capability. -/
def Misses (w₀ : World) (commands : List Command) (site : SiteId) (cap : Capability)
    (m : EntityId) : Prop :=
  w₀.isWatchedAlong commands = true ∧ (w₀.run commands).queue = [] ∧
    ∃ head tail, (w₀.run commands).kept site cap = head :: tail ∧
      (w₀.run commands).store.kind? head = some .capability ∧
      (w₀.run commands).store.isMember head m = true ∧
      (w₀.run commands).store.isGroup m = true ∧ m ∉ tail

/-- A run in which an id becomes a member of a list's head, the list is filled, and only then a
group is stored under the id. -/
def groupStoredLate : List Command :=
  [.registerSite 2 "main", .create .epoch 2 .capability "BUILDER" .none,
    .edit .epoch ⟨⟨2, 1⟩, 0⟩ [.edit (.addMember ⟨2, 2⟩)], .deliver, .deliver,
    .groupsFor 2 .builder, .create .epoch 2 .group "masons" .none, .deliver]

/-- A run in which a stored group becomes a member of a list's head by an edit that takes its
changes away. -/
def memberUnheard : List Command :=
  [.registerSite 2 "main", .create .epoch 2 .capability "BUILDER" .none,
    .create .epoch 2 .group "masons" .none, .deliver, .deliver, .groupsFor 2 .builder,
    .edit .epoch ⟨⟨2, 1⟩, 0⟩ [.edit (.addMember ⟨2, 2⟩), .takeChanges]]

/-- A member that is stored as a group after the list was filled is missed, and so is one whose
membership was not announced. -/
theorem groupStoredLate_missed :
    (start true {} []).Misses groupStoredLate 2 .builder ⟨2, 2⟩ ∧
      (start true {} []).Misses memberUnheard 2 .builder ⟨2, 2⟩ := by
  refine ⟨⟨?_, ?_, ⟨2, 1⟩, [], ?_⟩, ⟨?_, ?_, ⟨2, 1⟩, [], ?_⟩⟩
  case refine_2 | refine_5 => exact List.isEmpty_iff.mp (by decide +kernel)
  all_goals decide +kernel

end WorldAccess.World
