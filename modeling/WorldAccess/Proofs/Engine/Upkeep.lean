import WorldAccess.Engine.Basic
import WorldAccess.Proofs.Event.Ledger

/-!
# How a watch keeps itself up

A watch over grant lists consists of two subscriptions, and it knows them by their numbers. The bus
may take them from it at any time, and the watch learns of that later, from a notice in the queue.
Then it takes up another subscription with the same interest. So at any time each entry of the watch
is a subscription in force or one whose notice waits, and there is no other subscription of its own.

## Main definitions

* `Watch.Complete` — a watch has one entry of each interest
* `Watch.Spares` — an act leaves the subscriptions of a watch to it
* `Watch.Tended` — a watch knows its subscriptions, by the ledger of the bus
* `Watch.Released` — no subscription is left of a watch

## Main results

* `Watch.Tended.act`, `Watch.Tended.take`, `Watch.Tended.replace` — a watch is kept up
* `Watch.tended_register`, `Watch.Tended.unregister` — its beginning and its end
* `Watch.Tended.live_or_noticed`, `Watch.Tended.owner` — what its entries are
-/

namespace WorldAccess.Watch

open Std

variable {L : Type} {me : L} {D : List (Deed L)} {Q : List (Message L)} {b : Bus L} {watch : Watch}
  {id : SubscriptionId} {interest : Interest}

/-- Whether a watch has exactly two entries, one for changes of capability entities and one for the
deletion of sites. -/
def Complete (watch : Watch) : Prop :=
  ∃ m d, m ≠ d ∧ ∀ (id : SubscriptionId) (interest : Interest),
    watch.entries[id]? = some interest ↔
      id = m ∧ interest = membership ∨ id = d ∧ interest = .siteDeleted

theorem Complete.unique (h : watch.Complete) {other : SubscriptionId}
    (entry : watch.entries[id]? = some interest) (entry' : watch.entries[other]? = some interest) :
    id = other := by
  obtain ⟨m, d, -, entries⟩ := h
  rcases (entries id interest).mp entry with ⟨rfl, rfl⟩ | ⟨rfl, rfl⟩
  · exact (((entries other membership).mp entry').resolve_right fun same => nomatch same.2).1.symm
  · exact (((entries other .siteDeleted).mp entry').resolve_left fun same => nomatch same.2).1.symm

/-- The watch with another number in the place of one of its entries. -/
def replaced (watch : Watch) (id next : SubscriptionId) (interest : Interest) : Watch :=
  ⟨(watch.entries.erase id).insert next interest⟩

theorem getElem?_replaced (watch : Watch) (id next other : SubscriptionId) (interest : Interest) :
    (watch.replaced id next interest).entries[other]? =
      if next = other then some interest
      else if id = other then none
      else watch.entries[other]? := by
  rw [replaced, ExtTreeMap.getElem?_insert, ExtTreeMap.getElem?_erase]
  simp only [Std.compare_eq_iff_eq]

/-- Of two entries the one is replaced, and the other one stays. -/
theorem getElem?_replaced_iff {stays next : SubscriptionId} {kept : Interest}
    (entries : ∀ (other : SubscriptionId) (i : Interest), watch.entries[other]? = some i ↔
      other = id ∧ i = interest ∨ other = stays ∧ i = kept)
    (apart : stays ≠ id) (new : stays ≠ next) (other : SubscriptionId) (i : Interest) :
    (watch.replaced id next interest).entries[other]? = some i ↔
      other = next ∧ i = interest ∨ other = stays ∧ i = kept := by
  rw [getElem?_replaced]
  split
  next same => simp [← same, new.symm, eq_comm]
  next different =>
    split
    next same => simp [← same, apart.symm, Ne.symm (same ▸ different)]
    next old => simp [entries, Ne.symm different, Ne.symm old]

/-- The replacement of an entry leaves one entry of each interest. -/
theorem Complete.replaced (h : watch.Complete) {next : SubscriptionId}
    (entry : watch.entries[id]? = some interest)
    (new : ∀ (other : SubscriptionId), watch.entries[other]?.isSome = true → other ≠ next) :
    (watch.replaced id next interest).Complete := by
  obtain ⟨m, d, apart, entries⟩ := h
  rcases (entries id interest).mp entry with ⟨rfl, rfl⟩ | ⟨rfl, rfl⟩
  · have old : d ≠ next := new d (by rw [(entries d _).mpr (Or.inr ⟨rfl, rfl⟩)]; rfl)
    exact ⟨next, d, old.symm, getElem?_replaced_iff entries apart.symm old⟩
  · have old : m ≠ next := new m (by rw [(entries m _).mpr (Or.inl ⟨rfl, rfl⟩)]; rfl)
    have swapped := fun other i => (entries other i).trans or_comm
    exact ⟨m, next, old, fun other i =>
      (getElem?_replaced_iff swapped apart old other i).trans or_comm⟩

/-- Whether an act leaves it to a watch of `me` to enter and to give up its subscriptions. -/
def Spares (watch : Watch) (me : L) : Act L → Prop
  | .subscribe _ l => l ≠ me
  | .unsubscribe id => watch.entries[id]? = none
  | .forceRemove _ | .publish _ => True

/-- A watch of `me` has entries of both interests. It has an entry for every subscription of `me` in
force, and its entries have neither been given up nor has it been told of their end. -/
structure Tended (me : L) (D : List (Deed L)) (Q : List (Message L)) (b : Bus L) (watch : Watch) :
    Prop extends Bus.Ledger D Q b where
  complete : watch.Complete
  owned : ∀ id interest, Registered D id interest me → watch.entries[id]? = some interest
  accounted : ∀ id interest, watch.entries[id]? = some interest →
    .entered id interest me ∈ D ∧ .left id ∉ D ∧ .removed id me ∉ Q

/-- No subscription of `me` is in force. -/
structure Released (me : L) (D : List (Deed L)) (Q : List (Message L)) (b : Bus L) :
    Prop extends Bus.Ledger D Q b where
  gone : ∀ id interest, ¬ Registered D id interest me

/-! ### What the entries are -/

namespace Tended

/-- An entry is a subscription in force, or the notice of its removal waits. -/
theorem live_or_noticed (h : watch.Tended me D Q b) (entry : watch.entries[id]? = some interest) :
    b.subscriptions[id]? = some ⟨interest, me⟩ ∨ .removed id me ∈ b.queue := by
  obtain ⟨entered, unleft, untold⟩ := h.accounted id interest entry
  by_cases ended : id ∈ D.filterMap Deed.ended?
  · obtain ⟨d, among, ends⟩ := List.mem_filterMap.mp ended
    -- the watch has not left, so the bus took the subscription, and the notice has not been taken
    have ownNotice : ∀ l, d.takenDown? = some (id, l) → .removed id me ∈ b.queue := by
      intro l takes
      obtain ⟨interest', entered'⟩ := h.own (id, l) (List.mem_filterMap.mpr ⟨d, among, takes⟩)
      obtain ⟨-, rfl⟩ := h.entered_unique entered entered'
      have sent : .removed id me ∈ D.filterMap Deed.message? :=
        List.mem_filterMap.mpr ⟨d, among, Deed.message?_eq_removed_iff.mpr takes⟩
      rw [h.sent, List.mem_append] at sent
      exact sent.resolve_left untold
    cases d with
    | entered | published => cases ends
    | left other =>
      obtain rfl := Option.some.inj ends
      exact absurd among unleft
    | forced other l | closed other l =>
      obtain rfl := Option.some.inj ends
      exact Or.inr (ownNotice l rfl)
  · exact Or.inl ((h.registered id interest me).mpr ⟨entered, ended⟩)

theorem owner (h : watch.Tended me D Q b)
    (subscribed : b.subscriptions[id]? = some ⟨interest, me⟩) :
    watch.entries[id]? = some interest :=
  h.owned id interest ((h.registered id interest me).mp subscribed)

/-- A subscription of somebody else is not in the watch. -/
theorem entries_of_other (h : watch.Tended me D Q b) {l : L} (other : l ≠ me)
    (subscribed : b.subscriptions[id]? = some ⟨interest, l⟩) : watch.entries[id]? = none := by
  cases entry : watch.entries[id]? with
  | none => rfl
  | some interest' =>
    have entered := ((h.registered id interest l).mp subscribed).1
    have own := (h.accounted id interest' entry).1
    exact absurd (h.entered_unique entered own).2 other

theorem lt_nextId_of_entry (h : watch.Tended me D Q b)
    (entry : watch.entries[id]? = some interest) : id < b.nextId :=
  h.below id (Bus.mem_given (h.accounted id interest entry).1)

/-! ### Keeping the watch up -/

/-- Acts of others leave the watch as it is. -/
theorem act (h : watch.Tended me D Q b) {a : Act L} (spares : watch.Spares me a) :
    watch.Tended me (D ++ b.deeds a) Q (b.act a) where
  toLedger := h.toLedger.act a
  complete := h.complete
  owned id interest registered := by
    obtain ⟨entered, unended, -⟩ := Bus.registered_append.mp registered
    rcases entered with before | now
    · exact h.owned id interest ⟨before, unended⟩
    · obtain ⟨rfl, -⟩ := Bus.entered_mem_deeds.mp now
      exact absurd rfl spares
  accounted id interest entry := by
    obtain ⟨entered, unleft, untold⟩ := h.accounted id interest entry
    refine ⟨List.mem_append_left _ entered, fun left => ?_, untold⟩
    rcases List.mem_append.mp left with before | now
    · exact unleft before
    · obtain ⟨rfl, -⟩ := Bus.left_mem_deeds.mp now
      rw [spares] at entry
      cases entry

theorem acts (h : watch.Tended me D Q b) {as : List (Act L)}
    (spares : ∀ a ∈ as, watch.Spares me a) :
    watch.Tended me (D ++ deedsOf (b.turns as)) Q (b.acts as) :=
  Bus.acts_keep (P := fun D b => watch.Tended me D Q b)
    (fun _ _ _ spares h => h.act spares) spares h

/-- Acts of others end a subscription of the watch only when they make the bus end it. -/
theorem subscribed_act_iff (h : watch.Tended me D Q b) {a : Act L} (spares : watch.Spares me a)
    (unlimited : interest.scopedSite? = none) :
    (b.act a).subscriptions[id]? = some ⟨interest, me⟩ ↔
      b.subscriptions[id]? = some ⟨interest, me⟩ ∧ a ≠ .forceRemove id := by
  rw [(h.act spares).registered, Bus.registered_append, h.registered]
  constructor
  · rintro ⟨entered | entered, unended, still⟩
    · refine ⟨⟨entered, unended⟩, fun forced => still ?_⟩
      have subscribed := (h.registered id interest me).mpr ⟨entered, unended⟩
      exact (Bus.ended_mem_deeds subscribed).mpr (Or.inr (Or.inl forced))
    -- an act of the watch itself, which is not among those of others
    · obtain ⟨rfl, -⟩ := Bus.entered_mem_deeds.mp entered
      exact absurd rfl spares
  · rintro ⟨⟨entered, unended⟩, unforced⟩
    refine ⟨Or.inl entered, unended, fun ends => ?_⟩
    have subscribed := (h.registered id interest me).mpr ⟨entered, unended⟩
    rcases (Bus.ended_mem_deeds subscribed).mp ends with rfl | forced | ⟨site, -, limited⟩
    · have entry := h.owner subscribed
      rw [spares] at entry
      cases entry
    · exact unforced forced
    · rw [unlimited] at limited
      cases limited

theorem subscribed_acts_iff (h : watch.Tended me D Q b) {as : List (Act L)}
    (spares : ∀ a ∈ as, watch.Spares me a) (unlimited : interest.scopedSite? = none) :
    (b.acts as).subscriptions[id]? = some ⟨interest, me⟩ ↔
      b.subscriptions[id]? = some ⟨interest, me⟩ ∧ .forceRemove id ∉ as := by
  induction as generalizing D b with
  | nil => simp
  | cons a as ih =>
    obtain ⟨first, rest⟩ := List.forall_mem_cons.mp spares
    rw [Bus.acts_cons, ih (h.act first) rest, h.subscribed_act_iff first unlimited, List.mem_cons,
      not_or, and_assoc, ne_comm]

/-- A message that is not about an entry is taken from the queue. -/
theorem take (h : watch.Tended me D Q b) {m : Message L} {rest : List (Message L)}
    (waiting : b.queue = m :: rest)
    (foreign : ∀ id, m = .removed id me → watch.entries[id]? = none) :
    watch.Tended me D (Q ++ [m]) { b with queue := rest } where
  toLedger := h.toLedger.take waiting
  complete := h.complete
  owned := h.owned
  accounted id interest entry := by
    obtain ⟨entered, unleft, untold⟩ := h.accounted id interest entry
    refine ⟨entered, unleft, fun told => ?_⟩
    rcases List.mem_append.mp told with before | now
    · exact untold before
    · rw [foreign id (List.mem_singleton.mp now).symm] at entry
      cases entry

/-- The notice of an entry is taken from the queue, and the watch replaces the entry. -/
theorem replace (h : watch.Tended me D Q b) {rest : List (Message L)}
    (waiting : b.queue = .removed id me :: rest) (entry : watch.entries[id]? = some interest) :
    (watch.replaced id b.nextId interest).Tended me (D ++ [.entered b.nextId interest me])
      (Q ++ [.removed id me]) (Bus.subscribe { b with queue := rest } interest me).1 := by
  have taken := h.toLedger.take waiting
  have sent : .removed id me ∈ D.filterMap Deed.message? := by
    rw [taken.sent]
    simp
  have ended := Bus.ended_of_removed sent
  -- the next number has not been given, so nothing can have ended under it
  have unused : ∀ other, other ∈ D.filterMap Deed.ended? → other ≠ b.nextId :=
    fun other among => Nat.ne_of_lt (h.ended other among)
  refine ⟨taken.enter interest me, ?complete, ?owned, ?accounted⟩
  case complete =>
    refine h.complete.replaced entry fun other isEntry => ?_
    obtain ⟨i, entry⟩ := Option.isSome_iff_exists.mp isEntry
    exact Nat.ne_of_lt (h.lt_nextId_of_entry entry)
  case owned =>
    intro other i registered
    obtain ⟨entered, unended, -⟩ := Bus.registered_concat.mp registered
    rw [getElem?_replaced]
    -- an old subscription is not the one that has ended, and the new one is the new entry
    rcases entered with before | now
    · have old : b.nextId ≠ other := (Nat.ne_of_lt (h.below other (Bus.mem_given before))).symm
      have inForce : id ≠ other := fun same => unended (same ▸ ended)
      rw [if_neg old, if_neg inForce]
      exact h.owned other i ⟨before, unended⟩
    · cases now
      rw [if_pos rfl]
  case accounted =>
    intro other i entry'
    rw [getElem?_replaced] at entry'
    split at entry'
    next same =>
      -- the new entry
      obtain rfl := Option.some.inj entry'
      subst same
      refine ⟨by simp, fun left => ?_, fun told => ?_⟩
      · have left : .left b.nextId ∈ D := by simpa using left
        exact unused _ (List.mem_filterMap.mpr ⟨_, left, rfl⟩) rfl
      · have told : .removed b.nextId me ∈ D.filterMap Deed.message? :=
          taken.sent ▸ List.mem_append_left _ told
        exact unused _ (Bus.ended_of_removed told) rfl
    next different =>
      split at entry'
      next => cases entry'
      next apart =>
        -- an entry that is neither the new one nor the replaced one
        obtain ⟨entered, unleft, untold⟩ := h.accounted other i entry'
        refine ⟨List.mem_append_left _ entered, by simpa using unleft, fun told => ?_⟩
        rcases List.mem_append.mp told with before | now
        · exact untold before
        · cases List.mem_singleton.mp now
          exact apart rfl

end Tended

/-! ### Beginning and end -/

namespace Released

/-- Acts of others leave nothing of the watch. -/
theorem act (h : Released me D Q b) {a : Act L} (others : ∀ interest, a ≠ .subscribe interest me) :
    Released me (D ++ b.deeds a) Q (b.act a) where
  toLedger := h.toLedger.act a
  gone id interest registered := by
    obtain ⟨entered, unended, -⟩ := Bus.registered_append.mp registered
    rcases entered with before | now
    · exact h.gone id interest ⟨before, unended⟩
    · exact others interest (Bus.entered_mem_deeds.mp now).1

theorem acts (h : Released me D Q b) {as : List (Act L)}
    (others : ∀ a ∈ as, ∀ interest, a ≠ .subscribe interest me) :
    Released me (D ++ deedsOf (b.turns as)) Q (b.acts as) :=
  Bus.acts_keep (P := fun D b => Released me D Q b) (fun _ _ _ others h => h.act others) others h

theorem take (h : Released me D Q b) {m : Message L} {rest : List (Message L)}
    (waiting : b.queue = m :: rest) : Released me D (Q ++ [m]) { b with queue := rest } :=
  ⟨h.toLedger.take waiting, h.gone⟩

end Released

/-- A watch that is registered anew has its two subscriptions. -/
theorem tended_register (h : Released me D Q b) :
    (register b me).1.Tended me
      (D ++ [.entered b.nextId membership me] ++ [.entered (b.nextId + 1) .siteDeleted me]) Q
      (register b me).2 := by
  have entries : ∀ other : SubscriptionId, (register b me).1.entries[other]? =
      if b.nextId + 1 = other then some .siteDeleted
      else if b.nextId = other then some membership
      else none := by
    intro other
    simp [register, subscribe, Bus.subscribe, ExtTreeMap.getElem?_insert]
  refine ⟨(h.enter membership me).enter .siteDeleted me, ?_, ?_, ?_⟩
  · refine ⟨b.nextId, b.nextId + 1, (Nat.succ_ne_self _).symm, fun other i => ?_⟩
    rw [entries]
    split
    next same => simp [← same, eq_comm]
    next different =>
      split
      next same => simp [← same, eq_comm]
      next apart => simp [Ne.symm different, Ne.symm apart]
  · intro other i registered
    obtain ⟨entered, unended, -⟩ := Bus.registered_concat.mp registered
    rw [entries]
    rcases entered with before | now
    · obtain ⟨entered, unended, -⟩ := Bus.registered_concat.mp ⟨before, unended⟩
      rcases entered with before | now
      · exact absurd ⟨before, unended⟩ (h.gone other i)
      · cases now
        rw [if_neg (Nat.succ_ne_self _), if_pos rfl]
    · cases now
      rw [if_pos rfl]
  · intro other i entry
    -- nothing has happened to the new numbers
    have unused : b.nextId ≤ other → other ∉ D.filterMap Deed.ended? :=
      fun new among => Nat.not_lt.mpr new (h.ended other among)
    have unleft : b.nextId ≤ other → .left other ∉ D :=
      fun new left => unused new (List.mem_filterMap.mpr ⟨_, left, rfl⟩)
    have untold : b.nextId ≤ other → .removed other me ∉ Q :=
      fun new told => unused new (Bus.ended_of_removed (h.sent ▸ List.mem_append_left _ told))
    rw [entries] at entry
    split at entry
    next same =>
      subst same
      obtain rfl := Option.some.inj entry
      exact ⟨by simp, by simpa using unleft (Nat.le_succ _), untold (Nat.le_succ _)⟩
    next =>
      split at entry
      next same =>
        subst same
        obtain rfl := Option.some.inj entry
        exact ⟨by simp, by simpa using unleft (Nat.le_refl _), untold (Nat.le_refl _)⟩
      next => cases entry

/-- Subscriptions that are given up one after the other are gone, and no others are. -/
theorem getElem?_acts_unsubscribe (b : Bus L) (ids : List SubscriptionId) :
    (b.acts (ids.map .unsubscribe)).subscriptions[id]? =
      if id ∈ ids then none else b.subscriptions[id]? := by
  induction ids generalizing b with
  | nil => simp
  | cons first ids ih =>
    rw [List.map_cons, Bus.acts_cons, ih, Bus.act, Bus.unsubscribe, ExtTreeMap.getElem?_erase]
    simp only [Std.compare_eq_iff_eq, List.mem_cons]
    grind

theorem unregister_eq (watch : Watch) (b : Bus L) :
    watch.unregister b = ({}, b.acts (watch.ids.map .unsubscribe)) := by
  rw [unregister, Bus.acts, List.foldl_map]
  rfl

/-- A watch that is given up leaves nothing, whatever notices wait. -/
theorem Tended.unregister (h : watch.Tended me D Q b) :
    Released me (D ++ deedsOf (b.turns (watch.ids.map .unsubscribe))) Q (watch.unregister b).2 := by
  rw [unregister_eq]
  have ledger : Bus.Ledger (D ++ deedsOf (b.turns (watch.ids.map .unsubscribe))) Q
      (b.acts (watch.ids.map .unsubscribe)) :=
    Bus.acts_keep (P := fun D b => Bus.Ledger D Q b) (A := fun _ => True) (fun _ _ a _ h => h.act a)
      (fun _ _ => trivial) h.toLedger
  refine ⟨ledger, fun id interest registered => ?_⟩
  have still := (ledger.registered id interest me).mpr registered
  rw [getElem?_acts_unsubscribe] at still
  split at still
  next => cases still
  next given =>
    have entry := h.owner still
    refine given (ExtTreeMap.mem_keys.mpr (ExtTreeMap.isSome_getElem?_iff_mem.mp ?_))
    rw [entry]
    rfl

end WorldAccess.Watch
