import WorldAccess.Proofs.World.Freshness

/-!
# Where kept grant lists lapse

A list is resolved from the one entity that backs a capability, and an entity that is marked deleted
backs nothing. A kept list may lapse in two ways although the engine hears of every event that it
asks for. Its head may be marked deleted, which is announced as a change of that field alone, and
the engine does not ask for it. And another entity may come to back the capability, which concerns
that entity and not the head. Here each lapse is traced back to the moment it happened, so that its
conditions are exact.

## Main definitions

* `World.QuietlyFlagged` — an entity was marked deleted unheard and has been so ever since
* `World.KeptSince` — a list was kept when its head alone backed the capability, and since then

## Main results

* `World.backs_head_iff` — the head of a kept list backs the capability unless it was quietly
  flagged
* `World.groupsFor_eq_nil_iff` — two backing entities grant nothing unless a list of one has been
  kept
* `World.capabilityFlagged_lapse`, `World.capabilityDoubled_lapse` — both lapses happen
-/

namespace WorldAccess.World

open GrantLists

variable {w₀ : World} {c : Command} {commands : List Command} {site : SiteId} {cap : Capability}
  {head : EntityId} {tail : List EntityId}

/-! ### Heads that are marked deleted -/

/-- Whether the entity stored under an id is marked deleted. -/
def isFlagged (w : World) (id : EntityId) : Bool := (w.store.entity? id).any (·.deleted)

theorem not_backs_of_isFlagged {w : World} {id : EntityId} (flagged : w.isFlagged id = true) :
    ¬ w.store.Backs site cap id := by
  rintro ⟨e, stored, _, _, current⟩
  simp [isFlagged, stored, current] at flagged

/-- Whether at some moment of a run an entity came to be marked deleted without an event that clears
the lists it heads, and has been so ever since. -/
def QuietlyFlagged (w₀ : World) (commands : List Command) (id : EntityId) : Prop :=
  ∃ past c rest, commands = past ++ c :: rest ∧
    (w₀.run past).isFlagged id = false ∧
    (∀ event ∈ (w₀.run past).announced c, event.clears id = false) ∧
    ∀ more, more <+: rest → (w₀.run (past ++ c :: more)).isFlagged id = true

theorem QuietlyFlagged.isFlagged {id : EntityId} (h : w₀.QuietlyFlagged commands id) :
    (w₀.run commands).isFlagged id = true := by
  obtain ⟨past, d, rest, rfl, _, _, since⟩ := h
  exact since rest List.prefix_rfl

theorem QuietlyFlagged.concat {id : EntityId} (h : w₀.QuietlyFlagged commands id)
    (still : (w₀.run (commands ++ [c])).isFlagged id = true) :
    w₀.QuietlyFlagged (commands ++ [c]) id := by
  obtain ⟨past, d, rest, rfl, before, untold, since⟩ := h
  have form : past ++ d :: rest ++ [c] = past ++ d :: (rest ++ [c]) := by simp
  refine ⟨past, d, rest ++ [c], form, before, untold, fun more pre => ?_⟩
  rcases List.prefix_concat_iff.mp pre with rfl | pre
  · rw [← form]
    exact still
  · exact since more pre

/-- In a watched run, a kept list whose head is marked deleted has been so since a moment that was
not heard of, unless the event that clears it waits. -/
theorem quietlyFlagged_or_doomed (reachable : w₀.Reachable) (fresh : w₀.kept site cap = [])
    (watched : w₀.isWatchedAlong commands = true)
    (kept : (w₀.run commands).kept site cap = head :: tail)
    (flagged : (w₀.run commands).isFlagged head = true) :
    w₀.QuietlyFlagged commands head ∨ (w₀.run commands).Doomed head := by
  have traced := kept_traced reachable fresh
    (T := fun past head _ => (w₀.run past).isFlagged head = true → w₀.QuietlyFlagged past head)
    ?_ ?_ watched kept
  · exact traced.imp_left fun quietly => quietly flagged
  · -- a list is not resolved from an entity that is marked deleted
    intro past c head tail _ _ found store _ flagged
    obtain ⟨⟨e, stored, _, _, current⟩, _⟩ :=
      resolve_sole (reachable.run past).wellFormed found
    simp [isFlagged, store, stored, current] at flagged
  · intro past c head tail _ _ untold quietly flagged
    -- the mark was there before, or the last command has made it
    cases before : (w₀.run past).isFlagged head with
    | true => exact (quietly before).concat flagged
    | false =>
      refine ⟨past, c, [], rfl, before, untold, fun more pre => ?_⟩
      rw [List.prefix_nil.mp pre]
      exact flagged

/-- In a watched run whose edits keep their changes, once nothing waits, the head of a kept list
still backs the capability, unless it has been quietly marked deleted; and then it does not. -/
theorem backs_head_iff (reachable : w₀.Reachable) (fresh : w₀.kept site cap = [])
    (watched : w₀.isWatchedAlong commands = true) (keeps : ∀ c ∈ commands, c.KeepsChanges)
    (quiet : (w₀.run commands).queue = [])
    (kept : (w₀.run commands).kept site cap = head :: tail) :
    (w₀.run commands).store.Backs site cap head ↔ ¬ w₀.QuietlyFlagged commands head := by
  have undoomed : ¬ (w₀.run commands).Doomed head := not_doomed_of_quiet quiet
  obtain ⟨e, stored, here, bears, _⟩ :=
    (supports_or_doomed reachable fresh watched keeps kept).resolve_right undoomed
  constructor
  · intro backs quietly
    exact not_backs_of_isFlagged quietly.isFlagged backs
  · intro unflagged
    refine ⟨e, stored, here, bears, Bool.eq_false_iff.mpr fun deleted => unflagged ?_⟩
    have flagged : (w₀.run commands).isFlagged head = true := by simp [isFlagged, stored, deleted]
    exact (quietlyFlagged_or_doomed reachable fresh watched kept flagged).resolve_right undoomed

/-- A run in which a capability is backed and its list is kept. -/
def capabilityKept : List Command :=
  [.registerSite 2 "main", .create .epoch 2 .capability "BUILDER" .none, .deliver,
    .groupsFor 2 .builder]

/-- The same run, after which the backing entity is marked deleted. -/
def capabilityFlagged : List Command :=
  capabilityKept ++ [.edit .epoch ⟨⟨2, 1⟩, 0⟩ [.edit (.setDeleted true)], .deliver]

theorem backs_head_iff_capabilityFlagged :
    ((start true {} []).run capabilityFlagged).kept 2 .builder = [⟨2, 1⟩] ∧
      (((start true {} []).run capabilityFlagged).store.Backs 2 .builder ⟨2, 1⟩ ↔
        ¬ (start true {} []).QuietlyFlagged capabilityFlagged ⟨2, 1⟩) := by
  have kept : ((start true {} []).run capabilityFlagged).kept 2 .builder = [⟨2, 1⟩] := by
    decide +kernel
  refine ⟨kept, backs_head_iff ⟨true, {}, [], [], rfl⟩ (kept_startEngine _ _ _ _ _)
    (by decide +kernel) ?_ (List.isEmpty_iff.mp (by decide +kernel)) kept⟩
  simp [capabilityFlagged, capabilityKept, Command.KeepsChanges]

/-- A kept list survives the mark on its head: nothing waits and the engine is subscribed, but the
head backs nothing. -/
theorem capabilityFlagged_lapse :
    (start true {} []).isWatchedAlong capabilityFlagged = true ∧
      ((start true {} []).run capabilityFlagged).queue.isEmpty = true ∧
      ((start true {} []).run capabilityFlagged).kept 2 .builder = [⟨2, 1⟩] ∧
      ¬ ((start true {} []).run capabilityFlagged).store.Backs 2 .builder ⟨2, 1⟩ :=
  ⟨by decide +kernel, by decide +kernel, by decide +kernel,
    not_backs_of_isFlagged (by decide +kernel)⟩

/-! ### Second backing entities -/

/-- Whether since some moment of a run, at which an entity alone backed a capability, a list that it
heads has been kept, and nothing has been announced that clears the list. -/
def KeptSince (w₀ : World) (commands : List Command) (site : SiteId) (cap : Capability)
    (head : EntityId) : Prop :=
  ∃ past rest, commands = past ++ rest ∧ (w₀.run past).store.SolelyBacks site cap head ∧
    (∀ more, more <+: rest → ∃ tail, (w₀.run (past ++ more)).kept site cap = head :: tail) ∧
    ∀ more c, more ++ [c] <+: rest →
      ∀ event ∈ (w₀.run (past ++ more)).announced c, event.clears head = false

theorem KeptSince.concat (h : w₀.KeptSince commands site cap head)
    (still : (w₀.run (commands ++ [c])).kept site cap = head :: tail)
    (untold : ∀ event ∈ (w₀.run commands).announced c, event.clears head = false) :
    w₀.KeptSince (commands ++ [c]) site cap head := by
  obtain ⟨past, rest, rfl, sole, kept, silent⟩ := h
  refine ⟨past, rest ++ [c], List.append_assoc past rest [c], sole, fun more pre => ?_,
    fun more d pre => ?_⟩
  · rcases List.prefix_concat_iff.mp pre with rfl | pre
    · exact ⟨tail, by rw [← List.append_assoc]; exact still⟩
    · exact kept more pre
  · rcases List.prefix_concat_iff.mp pre with same | pre
    · obtain ⟨rfl, last⟩ := List.append_inj' same rfl
      obtain rfl : d = c := List.head_eq_of_cons_eq last
      exact untold
    · exact silent more d pre

/-- In a watched run a list has been kept since its head alone backed the capability, unless the
event that clears it waits. -/
theorem keptSince_or_doomed (reachable : w₀.Reachable) (fresh : w₀.kept site cap = [])
    (watched : w₀.isWatchedAlong commands = true)
    (kept : (w₀.run commands).kept site cap = head :: tail) :
    w₀.KeptSince commands site cap head ∨ (w₀.run commands).Doomed head := by
  refine kept_traced reachable fresh (T := fun past head _ => w₀.KeptSince past site cap head)
    ?_ ?_ watched kept
  · -- a list that has just been filled
    intro past c head tail _ _ found store kept
    have sole := resolve_sole (reachable.run past).wellFormed found
    refine ⟨past ++ [c], [], by simp, store ▸ sole, fun more pre => ⟨tail, ?_⟩,
      fun more d pre => ?_⟩
    · rw [List.prefix_nil.mp pre, List.append_nil]
      exact kept
    · simp at pre
  · intro past c head tail _ kept untold since
    exact since.concat kept untold

/-- A world with two backing entities answers with what it keeps. -/
theorem groupsFor_of_two {w : World} (wf : w.store.WellFormed) {a b : EntityId}
    (ha : w.store.Backs site cap a) (hb : w.store.Backs site cap b) (ne : a ≠ b) :
    (w.groupsFor site cap).2 = w.kept site cap := by
  unfold groupsFor kept grants Engine.listsOf
  cases w.engine with
  | none => simp
  | some e =>
    simp only [Option.map_some, Option.getD_some, groupsFor_snd, resolve_eq_nil_of_ne wf ha hb ne]
    split
    next empty => exact (List.isEmpty_iff.mp empty).symm
    next => rfl

/-- In a watched run, once nothing waits, two entities that back a capability grant it to nobody,
unless the list of one that backed it alone has been kept, because nothing announced since then
concerned that one; and then the list is granted. -/
theorem groupsFor_eq_nil_iff (reachable : w₀.Reachable) (fresh : w₀.kept site cap = [])
    (watched : w₀.isWatchedAlong commands = true) (quiet : (w₀.run commands).queue = [])
    {a b : EntityId} (ha : (w₀.run commands).store.Backs site cap a)
    (hb : (w₀.run commands).store.Backs site cap b) (ne : a ≠ b) :
    ((w₀.run commands).groupsFor site cap).2 = [] ↔
      ¬ ∃ head, w₀.KeptSince commands site cap head := by
  rw [groupsFor_of_two (reachable.run commands).wellFormed ha hb ne]
  constructor
  · -- a list that is kept to the end is the answer
    rintro empty ⟨head, past, rest, rfl, _, kept, _⟩
    obtain ⟨tail, form⟩ := kept rest List.prefix_rfl
    rw [empty] at form
    cases form
  · intro unkept
    cases kept : (w₀.run commands).kept site cap with
    | nil => rfl
    | cons head tail =>
      have since := keptSince_or_doomed reachable fresh watched kept
      exact absurd ⟨head, since.resolve_right (not_doomed_of_quiet quiet)⟩ unkept

/-- A run in which a second entity comes to back a capability whose list is kept. -/
def capabilityDoubled : List Command :=
  capabilityKept ++ [.create .epoch 2 .capability "BUILDER" .none, .deliver]

/-- The same run, after which the first of the two gets another spelling of its name. -/
def capabilityRespelled : List Command :=
  capabilityDoubled ++ [.edit .epoch ⟨⟨2, 1⟩, 0⟩ [.edit (.setName " builder ")], .deliver]

/-- What the search by name finds backs the capability. -/
theorem backs_of_mem_find {id : EntityId}
    (found : id ∈ ((start true {} []).run commands).store.find site (some .capability)
      cap.entityName true) : ((start true {} []).run commands).store.Backs site cap id :=
  (Store.mem_find_iff (Reachable.wellFormed ⟨true, {}, [], commands, rfl⟩)).mp found

theorem groupsFor_eq_nil_iff_capabilityRespelled :
    (((start true {} []).run capabilityRespelled).groupsFor 2 .builder).2 = [] ∧
      ((((start true {} []).run capabilityRespelled).groupsFor 2 .builder).2 = [] ↔
        ¬ ∃ head, (start true {} []).KeptSince capabilityRespelled 2 .builder head) :=
  ⟨by decide +kernel,
    groupsFor_eq_nil_iff ⟨true, {}, [], [], rfl⟩ (kept_startEngine _ _ _ _ _) (by decide +kernel)
      (List.isEmpty_iff.mp (by decide +kernel)) (a := ⟨2, 1⟩) (b := ⟨2, 2⟩)
      (backs_of_mem_find (by decide +kernel)) (backs_of_mem_find (by decide +kernel))
      (by decide)⟩

/-- A kept list survives a second backing entity: nothing waits and the engine is subscribed, but
the capability is granted although two entities back it. -/
theorem capabilityDoubled_lapse :
    (start true {} []).isWatchedAlong capabilityDoubled = true ∧
      ((start true {} []).run capabilityDoubled).queue.isEmpty = true ∧
      ((start true {} []).run capabilityDoubled).store.Backs 2 .builder ⟨2, 1⟩ ∧
      ((start true {} []).run capabilityDoubled).store.Backs 2 .builder ⟨2, 2⟩ ∧
      (((start true {} []).run capabilityDoubled).groupsFor 2 .builder).2 = [⟨2, 1⟩] :=
  ⟨by decide +kernel, by decide +kernel, backs_of_mem_find (by decide +kernel),
    backs_of_mem_find (by decide +kernel), by decide +kernel⟩

end WorldAccess.World
