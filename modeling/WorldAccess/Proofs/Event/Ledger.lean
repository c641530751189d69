import Mathlib.Data.List.Pairwise
import WorldAccess.Proofs.Event.Queue

/-!
# Accounts of a bus

Everything that is done to a running bus from outside and by listeners is an *act*, and what comes
of an act is written down as *deeds*: a subscription was entered, its subscriber left, it was taken
down, an event was published. The *ledger* of a bus is the list of all deeds since the bus was new.
It accounts for the state of the bus: who is subscribed, which numbers have been given, and,
together with the messages that have been taken from the queue, what waits.

## Main definitions

* `Act`, `Bus.act`, `Bus.acts` — what is done to a bus
* `Deed`, `Bus.deeds` — what comes of it
* `Turn`, `Bus.turns` — acts together with what came of each
* `Registered` — the subscriptions that are in force by the deeds
* `Act.Brings` — what comes of an act, said in terms of the deeds before it
* `Bus.Ledger` — the deeds and the messages taken account for a bus

## Main results

* `Bus.ledger_new` — a new bus has done nothing
* `Bus.Ledger.act` — the account is kept up
* `Bus.acts_keep` — from one act to acts in sequence
* `Bus.Ledger.brings` — what comes of an act follows from the account
* `Bus.Ledger.notice_ended`, `Bus.Ledger.lt_nextId` — what a bus with a ledger is like
* `Bus.Ledger.published`, `Bus.Ledger.takenDown` — what has been published and what has been told
-/

namespace WorldAccess

open Std

/-- What is done to a bus. -/
inductive Act (L : Type) where
  | subscribe (interest : Interest) (listener : L)
  | unsubscribe (id : SubscriptionId)
  | forceRemove (id : SubscriptionId)
  | publish (event : Event)

/-- What comes of an act. A subscription is *forced* when the bus is made to end it, and *closed*
when it ends with the site that it is limited to. -/
inductive Deed (L : Type) where
  | entered (id : SubscriptionId) (interest : Interest) (listener : L)
  | left (id : SubscriptionId)
  | forced (id : SubscriptionId) (listener : L)
  | published (event : Event)
  | closed (id : SubscriptionId) (listener : L)

/-- The subscription, with its listener, of whose removal a message tells. -/
def Message.notice? {L : Type} : Message L → Option (SubscriptionId × L)
  | event _ => none
  | removed id l => some (id, l)

namespace Deed

variable {L : Type}

/-- The number that a deed gives. -/
def given? : Deed L → Option SubscriptionId
  | entered id _ _ => some id
  | _ => none

/-- The subscription that a deed ends. -/
def ended? : Deed L → Option SubscriptionId
  | left id | forced id _ | closed id _ => some id
  | _ => none

/-- The subscription that a deed ends against the subscriber's wish, and its listener. -/
def takenDown? : Deed L → Option (SubscriptionId × L)
  | forced id l | closed id l => some (id, l)
  | _ => none

/-- The event that a deed publishes. -/
def published? : Deed L → Option Event
  | published event => some event
  | _ => none

/-- The message that a deed puts into the queue. -/
def message? : Deed L → Option (Message L)
  | forced id l | closed id l => some (.removed id l)
  | published event => some (.event event)
  | _ => none

variable {d : Deed L} {id : SubscriptionId} {l : L}

/-- The notices in the queue are of subscriptions that are taken down. -/
theorem message?_eq_removed_iff :
    d.message? = some (.removed id l) ↔ d.takenDown? = some (id, l) := by
  cases d <;> simp [message?, takenDown?]

theorem ended?_of_takenDown? (h : d.takenDown? = some (id, l)) : d.ended? = some id := by
  cases d <;> simp_all [takenDown?, ended?]

theorem given?_of_ended? (h : d.ended? = some id) : d.given? = none := by
  cases d <;> simp_all [ended?, given?]

end Deed

/-- Whether a subscription is in force by the deeds: it was entered and has not ended. -/
def Registered {L : Type} (deeds : List (Deed L)) (id : SubscriptionId) (interest : Interest)
    (listener : L) : Prop :=
  .entered id interest listener ∈ deeds ∧ id ∉ deeds.filterMap Deed.ended?

/-- An act and what came of it. -/
structure Turn (L : Type) where
  act : Act L
  deeds : List (Deed L)

/-- What has come of turns taken in sequence. -/
def deedsOf {L : Type} (turns : List (Turn L)) : List (Deed L) := turns.flatMap Turn.deeds

/-- The event that an act publishes. -/
def Act.published? {L : Type} : Act L → Option Event
  | publish event => some event
  | _ => none

/-- What an act brings after the deeds `D`: a subscription of the subscriber who asks for it, the
end of one that is in force, the publication of an event, and with the deletion of a site the end of
all subscriptions in force that are limited to it; and nothing else. -/
structure Act.Brings {L : Type} (D : List (Deed L)) (a : Act L) (deeds : List (Deed L)) : Prop where
  entered : ∀ interest l, (∃ id, .entered id interest l ∈ deeds) ↔ a = .subscribe interest l
  left : ∀ id, .left id ∈ deeds ↔ a = .unsubscribe id ∧ ∃ interest l, Registered D id interest l
  forced : ∀ id l, .forced id l ∈ deeds ↔
    a = .forceRemove id ∧ ∃ interest, Registered D id interest l
  published : deeds.filterMap Deed.published? = a.published?.toList
  closed : ∀ id l, .closed id l ∈ deeds ↔ ∃ site interest,
    a = .publish (.siteDeleted site) ∧ interest.scopedSite? = some site ∧ Registered D id interest l

namespace Bus

variable {L : Type} {b b' : Bus L} {D : List (Deed L)} {Q : List (Message L)}
  {id : SubscriptionId} {interest : Interest} {l : L}

/-- The notices that wait. -/
def notices (b : Bus L) : List (SubscriptionId × L) := b.queue.filterMap Message.notice?

/-- The bus after an act. -/
def act (b : Bus L) : Act L → Bus L
  | .subscribe interest l => (b.subscribe interest l).1
  | .unsubscribe id => (b.unsubscribe id).1
  | .forceRemove id => (b.forceRemove id).1
  | .publish event => b.publish event

/-- The bus after acts in sequence. -/
def acts (b : Bus L) (as : List (Act L)) : Bus L := as.foldl act b

/-- The subscriptions limited to a site and their listeners, lowest first. -/
def limitedTo (b : Bus L) (site : SiteId) : List (SubscriptionId × L) :=
  (b.subscriptions.toList.filter fun s => s.2.interest.scopedSite? == some site).map
    fun s => (s.1, s.2.listener)

/-- What comes of an act. -/
def deeds (b : Bus L) : Act L → List (Deed L)
  | .subscribe interest l => [.entered b.nextId interest l]
  | .unsubscribe id => if b.isSubscribed id then [.left id] else []
  | .forceRemove id => (b.subscriptions[id]?.map fun s => .forced id s.listener).toList
  | .publish event =>
    .published event :: match event with
      | .siteDeleted site => (b.limitedTo site).map fun s => .closed s.1 s.2
      | .entityChanged _ => []

/-- Acts in sequence and what comes of each. -/
def turns (b : Bus L) : List (Act L) → List (Turn L)
  | [] => []
  | a :: as => ⟨a, b.deeds a⟩ :: (b.act a).turns as

@[simp] theorem acts_nil (b : Bus L) : b.acts [] = b := rfl

@[simp] theorem acts_cons (b : Bus L) (a : Act L) (as : List (Act L)) :
    b.acts (a :: as) = (b.act a).acts as := rfl

theorem acts_append (b : Bus L) (as bs : List (Act L)) : b.acts (as ++ bs) = (b.acts as).acts bs :=
  List.foldl_append

/-- The events of the store are acts of publishing. -/
theorem acts_publish (b : Bus L) (events : List Event) :
    b.acts (events.map .publish) = b.publishAll events := by
  rw [acts, List.foldl_map]
  rfl

theorem isSubscribed_eq (b : Bus L) (id : SubscriptionId) :
    b.isSubscribed id = b.subscriptions[id]?.isSome :=
  ExtTreeMap.contains_eq_isSome_getElem?

theorem erase_of_getElem?_eq_none (h : b.subscriptions[id]? = none) :
    b.subscriptions.erase id = b.subscriptions := by
  refine ExtTreeMap.ext_getElem? fun other => ?_
  rw [ExtTreeMap.getElem?_erase]
  split
  next same => rw [← Std.compare_eq_iff_eq.mp same, h]
  next => rfl

theorem scopedTo_eq (b : Bus L) (site : SiteId) :
    b.scopedTo site = (b.limitedTo site).map Prod.fst := by
  rw [limitedTo, List.map_map]
  rfl

theorem mem_limitedTo {site : SiteId} {p : SubscriptionId × L} :
    p ∈ b.limitedTo site ↔
      ∃ interest, b.subscriptions[p.1]? = some ⟨interest, p.2⟩ ∧
        interest.scopedSite? = some site := by
  obtain ⟨id, l⟩ := p
  simp only [limitedTo, List.mem_map, List.mem_filter, Prod.exists, Prod.mk.injEq, beq_iff_eq,
    ExtTreeMap.mem_toList_iff_getElem?_eq_some]
  constructor
  · rintro ⟨_, s, ⟨subscribed, limited⟩, rfl, rfl⟩
    exact ⟨s.interest, subscribed, limited⟩
  · rintro ⟨interest, subscribed, limited⟩
    exact ⟨id, ⟨interest, l⟩, ⟨subscribed, limited⟩, rfl, rfl⟩

/-- What is listed of the subscriptions has every number once. -/
theorem nodup_ids (b : Bus L) (p : SubscriptionId × Subscription L → Bool) :
    (((b.subscriptions.toList.filter p).map fun s => (s.1, s.2.listener)).map Prod.fst).Nodup := by
  rw [List.map_map]
  have distinct : (b.subscriptions.toList.map Prod.fst).Nodup := by
    rw [ExtTreeMap.map_fst_toList_eq_keys]
    exact ExtTreeMap.nodup_keys
  exact distinct.sublist (List.filter_sublist.map Prod.fst)

theorem nodup_limitedTo (b : Bus L) (site : SiteId) : ((b.limitedTo site).map Prod.fst).Nodup :=
  b.nodup_ids _

theorem nodup_interested (b : Bus L) (event : Event) : ((b.interested event).map Prod.fst).Nodup :=
  b.nodup_ids _

theorem subscriptions_enqueue (b : Bus L) (m : Message L) :
    (b.enqueue m).subscriptions = b.subscriptions := by
  unfold enqueue
  split <;> rfl

/-! ### What comes of an act -/

theorem entered_mem_deeds {a : Act L} :
    .entered id interest l ∈ b.deeds a ↔ a = .subscribe interest l ∧ id = b.nextId := by
  cases a with
  | subscribe other l' =>
    simp only [deeds, List.mem_singleton, Deed.entered.injEq, Act.subscribe.injEq]
    constructor
    · rintro ⟨rfl, rfl, rfl⟩
      exact ⟨⟨rfl, rfl⟩, rfl⟩
    · rintro ⟨⟨rfl, rfl⟩, rfl⟩
      exact ⟨rfl, rfl, rfl⟩
  | unsubscribe _ => simp [deeds]
  | forceRemove other => cases subscribed : b.subscriptions[other]? <;> simp [deeds, subscribed]
  | publish event => cases event <;> simp [deeds]

theorem left_mem_deeds {a : Act L} :
    .left id ∈ b.deeds a ↔ a = .unsubscribe id ∧ b.isSubscribed id = true := by
  cases a with
  | subscribe _ _ => simp [deeds]
  | unsubscribe other =>
    simp only [deeds, List.mem_ite_nil_right, List.mem_singleton, Deed.left.injEq,
      Act.unsubscribe.injEq]
    constructor
    · rintro ⟨subscribed, rfl⟩
      exact ⟨rfl, subscribed⟩
    · rintro ⟨rfl, subscribed⟩
      exact ⟨subscribed, rfl⟩
  | forceRemove other => cases subscribed : b.subscriptions[other]? <;> simp [deeds, subscribed]
  | publish event => cases event <;> simp [deeds]

theorem forced_mem_deeds {a : Act L} :
    .forced id l ∈ b.deeds a ↔
      a = .forceRemove id ∧ ∃ interest, b.subscriptions[id]? = some ⟨interest, l⟩ := by
  cases a with
  | subscribe _ _ => simp [deeds]
  | unsubscribe _ => simp [deeds]
  | forceRemove other =>
    simp only [deeds, Option.mem_toList, Option.map_eq_some_iff, Deed.forced.injEq,
      Act.forceRemove.injEq]
    constructor
    · rintro ⟨s, subscribed, rfl, rfl⟩
      exact ⟨rfl, s.interest, subscribed⟩
    · rintro ⟨rfl, interest, subscribed⟩
      exact ⟨⟨interest, l⟩, subscribed, rfl, rfl⟩
  | publish event => cases event <;> simp [deeds]

theorem closed_mem_deeds {a : Act L} :
    .closed id l ∈ b.deeds a ↔
      ∃ site, a = .publish (.siteDeleted site) ∧ (id, l) ∈ b.limitedTo site := by
  cases a with
  | subscribe _ _ => simp [deeds]
  | unsubscribe _ => simp [deeds]
  | forceRemove other => cases subscribed : b.subscriptions[other]? <;> simp [deeds, subscribed]
  | publish event => cases event <;> simp [deeds]

/-- A subscription in force ends when it is given up, when the bus is made to end it, and with the
site that it is limited to. -/
theorem ended_mem_deeds {a : Act L} {s : Subscription L}
    (subscribed : b.subscriptions[id]? = some s) :
    id ∈ (b.deeds a).filterMap Deed.ended? ↔
      a = .unsubscribe id ∨ a = .forceRemove id ∨
        ∃ site, a = .publish (.siteDeleted site) ∧ s.interest.scopedSite? = some site := by
  rw [List.mem_filterMap]
  constructor
  · rintro ⟨d, among, ends⟩
    -- each deed that ends something comes of one act
    cases d with
    | entered | published => cases ends
    | left other =>
      obtain rfl := Option.some.inj ends
      exact Or.inl (left_mem_deeds.mp among).1
    | forced other l =>
      obtain rfl := Option.some.inj ends
      exact Or.inr (Or.inl (forced_mem_deeds.mp among).1)
    | closed other l =>
      obtain rfl := Option.some.inj ends
      obtain ⟨site, asked, limited⟩ := closed_mem_deeds.mp among
      obtain ⟨interest, here, limited⟩ := mem_limitedTo.mp limited
      obtain rfl := Option.some.inj (subscribed.symm.trans here)
      exact Or.inr (Or.inr ⟨site, asked, limited⟩)
  · rintro (rfl | rfl | ⟨site, rfl, limited⟩)
    · refine ⟨.left id, left_mem_deeds.mpr ⟨rfl, ?_⟩, rfl⟩
      rw [isSubscribed_eq, subscribed]
      rfl
    · exact ⟨.forced id s.listener, forced_mem_deeds.mpr ⟨rfl, s.interest, subscribed⟩, rfl⟩
    · have among : (id, s.listener) ∈ b.limitedTo site :=
        mem_limitedTo.mpr ⟨s.interest, subscribed, limited⟩
      exact ⟨.closed id s.listener, closed_mem_deeds.mpr ⟨site, rfl, among⟩, rfl⟩

theorem filterMap_published?_deeds (b : Bus L) (a : Act L) :
    (b.deeds a).filterMap Deed.published? = a.published?.toList := by
  cases a with
  | subscribe _ _ => rfl
  | unsubscribe other =>
    rw [deeds]
    split <;> rfl
  | forceRemove other =>
    rw [deeds]
    cases b.subscriptions[other]? <;> rfl
  | publish event => cases event <;> simp [deeds, Deed.published?, Act.published?]

/-- What single acts keep of the deeds and the bus, acts in sequence keep. -/
theorem acts_keep {P : List (Deed L) → Bus L → Prop} {A : Act L → Prop}
    (step : ∀ D b a, A a → P D b → P (D ++ b.deeds a) (b.act a)) {as : List (Act L)}
    (all : ∀ a ∈ as, A a) (h : P D b) : P (D ++ deedsOf (b.turns as)) (b.acts as) := by
  induction as generalizing D b with
  | nil => simpa [turns, deedsOf] using h
  | cons a as ih =>
    obtain ⟨first, rest⟩ := List.forall_mem_cons.mp all
    rw [turns, deedsOf, List.flatMap_cons, ← List.append_assoc]
    exact ih rest (step D b a first h)

/-! ### The ledger -/

/-- The deeds `D` since the bus was new and the messages `Q` taken from its queue account for a
running bus. Numbers are given in increasing order, a subscription is in force exactly when the
deeds say so and ends once at most, its end is told to its own listener, and what the deeds put into
the queue has been taken from it or still waits. -/
structure Ledger (D : List (Deed L)) (Q : List (Message L)) (b : Bus L) : Prop where
  running : b.running = true
  given : (D.filterMap Deed.given?).Pairwise (· < ·)
  below : ∀ id ∈ D.filterMap Deed.given?, id < b.nextId
  registered : ∀ id interest l,
    b.subscriptions[id]? = some ⟨interest, l⟩ ↔ Registered D id interest l
  once : (D.filterMap Deed.ended?).Nodup
  ended : ∀ id ∈ D.filterMap Deed.ended?, id < b.nextId
  own : ∀ p ∈ D.filterMap Deed.takenDown?, ∃ interest, .entered p.1 interest p.2 ∈ D
  sent : D.filterMap Deed.message? = Q ++ b.queue

/-- Nothing has been done to a new bus. -/
theorem ledger_new : Ledger [] [] ({} : Bus L) where
  running := rfl
  given := .nil
  below _ h := nomatch h
  registered id interest l := by simp [Registered]
  once := .nil
  ended _ h := nomatch h
  own _ h := nomatch h
  sent := rfl

theorem mem_given (h : .entered id interest l ∈ D) : id ∈ D.filterMap Deed.given? :=
  List.mem_filterMap.mpr ⟨_, h, rfl⟩

/-- The last deed adds to a list of what deeds are about what it is about. -/
theorem filterMap_concat {α : Type} (f : Deed L → Option α) (D : List (Deed L)) (d : Deed L) :
    (D ++ [d]).filterMap f = D.filterMap f ++ (f d).toList := by
  cases h : f d <;> simp [h]

/-- Where deeds are about nothing twice, what a deed is about tells which deed it is. -/
theorem eq_of_nodup_filterMap {α : Type} {f : Deed L → Option α} {a : α} {d d' : Deed L}
    (distinct : (D.filterMap f).Nodup) (among : d ∈ D) (among' : d' ∈ D) (about : f d = some a)
    (about' : f d' = some a) : d = d' := by
  by_contra different
  have symmetric : Std.Symm fun d d' : Deed L =>
      ∀ a, f d = some a → ∀ a', f d' = some a' → a ≠ a' :=
    ⟨fun _ _ apart a about a' about' => (apart a' about' a about).symm⟩
  exact (List.pairwise_filterMap.mp distinct).forall among among' different a about a about' rfl

theorem registered_append {E : List (Deed L)} :
    Registered (D ++ E) id interest l ↔
      (.entered id interest l ∈ D ∨ .entered id interest l ∈ E) ∧
        id ∉ D.filterMap Deed.ended? ∧ id ∉ E.filterMap Deed.ended? := by
  rw [Registered, List.filterMap_append, List.mem_append, List.mem_append, not_or]

/-- What a message tells the end of has ended. -/
theorem ended_of_removed (told : .removed id l ∈ D.filterMap Deed.message?) :
    id ∈ D.filterMap Deed.ended? := by
  obtain ⟨d, among, carries⟩ := List.mem_filterMap.mp told
  have takes := Deed.message?_eq_removed_iff.mp carries
  exact List.mem_filterMap.mpr ⟨d, among, Deed.ended?_of_takenDown? takes⟩

theorem registered_concat {d : Deed L} :
    Registered (D ++ [d]) id interest l ↔
      (.entered id interest l ∈ D ∨ d = .entered id interest l) ∧
        id ∉ D.filterMap Deed.ended? ∧ d.ended? ≠ some id := by
  rw [Registered, filterMap_concat, List.mem_append, List.mem_append, List.mem_singleton, not_or,
    Option.mem_toList, eq_comm (a := d)]

namespace Ledger

theorem lt_nextId (h : Ledger D Q b) {s : Subscription L}
    (subscribed : b.subscriptions[id]? = some s) : id < b.nextId :=
  h.below id (mem_given ((h.registered id s.interest s.listener).mp subscribed).1)

/-- What has ended is not subscribed. -/
theorem getElem?_of_ended (h : Ledger D Q b) (ended : id ∈ D.filterMap Deed.ended?) :
    b.subscriptions[id]? = none := by
  cases subscribed : b.subscriptions[id]? with
  | none => rfl
  | some s => exact absurd ended ((h.registered id s.interest s.listener).mp subscribed).2

/-- A subscription whose removal waits to be told is not in force. -/
theorem notice_ended (h : Ledger D Q b) (waits : .removed id l ∈ b.queue) :
    b.subscriptions[id]? = none ∧ id < b.nextId := by
  have ended := ended_of_removed (h.sent ▸ List.mem_append_right Q waits)
  exact ⟨h.getElem?_of_ended ended, h.ended id ended⟩

/-- A number is given to one subscription. -/
theorem entered_unique (h : Ledger D Q b) {interest' : Interest} {l' : L}
    (entered : .entered id interest l ∈ D) (entered' : .entered id interest' l' ∈ D) :
    interest = interest' ∧ l = l' := by
  have same := eq_of_nodup_filterMap (h.given.imp Nat.ne_of_lt) entered entered' rfl rfl
  exact ⟨(Deed.entered.inj same).2.1, (Deed.entered.inj same).2.2⟩

/-- What is published has been taken or waits. -/
theorem published (h : Ledger D Q b) :
    D.filterMap Deed.published? = Q.filterMap Message.event? ++ b.pending := by
  rw [pending, ← List.filterMap_append, ← h.sent, List.filterMap_filterMap]
  congr 1
  funext d
  cases d <;> rfl

/-- Of what is taken down the notice has been taken or waits. -/
theorem takenDown (h : Ledger D Q b) :
    D.filterMap Deed.takenDown? = Q.filterMap Message.notice? ++ b.notices := by
  rw [notices, ← List.filterMap_append, ← h.sent, List.filterMap_filterMap]
  congr 1
  funext d
  cases d <;> rfl

theorem nodup_takenDown (h : Ledger D Q b) :
    ((D.filterMap Deed.takenDown?).map Prod.fst).Nodup := by
  rw [List.Nodup, List.pairwise_map, List.pairwise_filterMap]
  refine (List.pairwise_filterMap.mp h.once).imp fun distinct p takes p' takes' => ?_
  exact distinct p.1 (Deed.ended?_of_takenDown? takes) p'.1 (Deed.ended?_of_takenDown? takes')

/-- No deed ends what another one has ended. -/
theorem apart (h : Ledger D Q b) {d d' : Deed L} (among : d ∈ D) (among' : d' ∈ D) (ne : d ≠ d')
    (ends : d.ended? = some id) : d'.ended? ≠ some id :=
  fun ends' => ne (eq_of_nodup_filterMap h.once among among' ends ends')

/-! ### Keeping the account -/

/-- A subscription is entered under the next number. -/
theorem enter (h : Ledger D Q b) (interest : Interest) (l : L) :
    Ledger (D ++ [.entered b.nextId interest l]) Q (b.subscribe interest l).1 := by
  refine ⟨h.running, ?given, ?below, ?registered, ?once, ?ended, ?own, ?sent⟩
  case given =>
    rw [filterMap_concat, List.pairwise_append]
    refine ⟨h.given, List.pairwise_singleton _ _, fun id among next isNext => ?_⟩
    rw [List.mem_singleton.mp isNext]
    exact h.below id among
  case below =>
    intro id among
    rw [filterMap_concat, List.mem_append] at among
    rcases among with before | now
    · exact Nat.lt_succ_of_lt (h.below id before)
    · rw [List.mem_singleton.mp now]
      exact Nat.lt_succ_self b.nextId
  case registered =>
    intro id interest' l'
    rw [registered_concat, subscribe, ExtTreeMap.getElem?_insert]
    split
    next same =>
      -- the number is new
      obtain rfl := Std.compare_eq_iff_eq.mp same
      have unended : b.nextId ∉ D.filterMap Deed.ended? :=
        fun among => Nat.lt_irrefl _ (h.ended _ among)
      have unused : .entered b.nextId interest' l' ∉ D :=
        fun among => Nat.lt_irrefl _ (h.below _ (mem_given among))
      simp [unended, unused, Deed.ended?]
    next other =>
      have apart : b.nextId ≠ id := fun same => other (Std.compare_eq_iff_eq.mpr same)
      rw [h.registered, Registered]
      simp [apart, Deed.ended?]
  case once =>
    rw [filterMap_concat]
    simpa [Deed.ended?] using h.once
  case ended =>
    rw [filterMap_concat]
    intro id among
    exact Nat.lt_succ_of_lt (h.ended id (by simpa [Deed.ended?] using among))
  case own =>
    rw [filterMap_concat]
    intro p among
    obtain ⟨interest, entered⟩ := h.own p (by simpa [Deed.takenDown?] using among)
    exact ⟨interest, List.mem_append_left _ entered⟩
  case sent =>
    rw [filterMap_concat, h.sent]
    exact List.append_nil _

/-- A subscription that is in force ends. -/
theorem finish (h : Ledger D Q b) {s : Subscription L}
    (subscribed : b.subscriptions[id]? = some s) {d : Deed L} (ends : d.ended? = some id)
    (own : ∀ p ∈ d.takenDown?, p = (id, s.listener)) (running : b'.running = true)
    (nextId : b'.nextId = b.nextId) (erased : b'.subscriptions = b.subscriptions.erase id)
    (queue : b'.queue = b.queue ++ d.message?.toList) : Ledger (D ++ [d]) Q b' := by
  have gives := Deed.given?_of_ended? ends
  have registered := (h.registered id s.interest s.listener).mp subscribed
  refine ⟨running, ?given, ?below, ?registered, ?once, ?ended, ?own, ?sent⟩
  case given =>
    rw [filterMap_concat, gives]
    simpa using h.given
  case below =>
    rw [filterMap_concat, gives, nextId]
    simpa using h.below
  case registered =>
    intro other interest l
    have unentered : d ≠ .entered other interest l := by
      rintro rfl
      cases ends
    rw [erased, ExtTreeMap.getElem?_erase, registered_concat, ends]
    -- only the subscription that ends is erased
    split
    next same => simp [Std.compare_eq_iff_eq.mp same]
    next different =>
      have apart : id ≠ other := fun same => different (Std.compare_eq_iff_eq.mpr same)
      rw [h.registered, Registered]
      simp [apart, unentered]
  case once =>
    rw [filterMap_concat, ends, List.nodup_append]
    refine ⟨h.once, List.pairwise_singleton _ _, fun other among last isLast => ?_⟩
    -- what is in force has not ended before
    rintro rfl
    rw [List.mem_singleton.mp isLast] at among
    exact registered.2 among
  case ended =>
    intro other among
    rw [filterMap_concat, ends, List.mem_append] at among
    rw [nextId]
    rcases among with before | now
    · exact h.ended other before
    · rw [List.mem_singleton.mp now]
      exact h.lt_nextId subscribed
  case own =>
    intro p among
    rw [filterMap_concat, List.mem_append] at among
    rcases among with before | now
    · obtain ⟨interest, entered⟩ := h.own p before
      exact ⟨interest, List.mem_append_left _ entered⟩
    · rw [own p (Option.mem_toList.mp now)]
      exact ⟨s.interest, List.mem_append_left _ registered.1⟩
  case sent => rw [filterMap_concat, h.sent, queue, List.append_assoc]

/-- The message at the head of the queue is taken. -/
theorem take (h : Ledger D Q b) {m : Message L} {rest : List (Message L)}
    (waiting : b.queue = m :: rest) : Ledger D (Q ++ [m]) { b with queue := rest } :=
  { h with sent := by rw [h.sent, waiting, List.append_assoc]; rfl }

/-- An event is published. -/
theorem tell (h : Ledger D Q b) (event : Event) :
    Ledger (D ++ [.published event]) Q (b.enqueue (.event event)) := by
  have queued : b.enqueue (.event event) = { b with queue := b.queue ++ [.event event] } := by
    rw [enqueue, if_pos h.running]
  rw [queued]
  refine ⟨h.running, ?given, ?below, ?registered, ?once, ?ended, ?own, ?sent⟩
  case given =>
    rw [filterMap_concat]
    simpa [Deed.given?] using h.given
  case below =>
    rw [filterMap_concat]
    simpa [Deed.given?] using h.below
  case registered =>
    intro id interest l
    rw [h.registered, registered_concat, Registered]
    simp [Deed.ended?]
  case once =>
    rw [filterMap_concat]
    simpa [Deed.ended?] using h.once
  case ended =>
    rw [filterMap_concat]
    simpa [Deed.ended?] using h.ended
  case own =>
    rw [filterMap_concat]
    intro p among
    obtain ⟨interest, entered⟩ := h.own p (by simpa [Deed.takenDown?] using among)
    exact ⟨interest, List.mem_append_left _ entered⟩
  case sent =>
    rw [filterMap_concat, h.sent, List.append_assoc]
    rfl

/-! ### Acts -/

/-- A subscription that is in force is taken down. -/
theorem takeDown (h : Ledger D Q b) {s : Subscription L}
    (subscribed : b.subscriptions[id]? = some s) {d : Deed L}
    (takes : d.takenDown? = some (id, s.listener)) :
    Ledger (D ++ [d]) Q (b.forceRemove id).1 := by
  have ends := Deed.ended?_of_takenDown? takes
  have tells := Deed.message?_eq_removed_iff.mpr takes
  have removed : (b.forceRemove id).1 =
      { b with
        subscriptions := b.subscriptions.erase id
        queue := b.queue ++ [.removed id s.listener] } := by
    simp [forceRemove, subscribed, enqueue, h.running]
  rw [removed]
  refine h.finish subscribed ends (fun p own => ?_) h.running rfl rfl (by rw [tells]; rfl)
  exact (Option.some.inj (takes.symm.trans own)).symm

/-- Subscriptions that are in force are taken down one after the other. -/
theorem close (h : Ledger D Q b) {ps : List (SubscriptionId × L)}
    (subscribed : ∀ p ∈ ps, ∃ interest, b.subscriptions[p.1]? = some ⟨interest, p.2⟩)
    (distinct : (ps.map Prod.fst).Nodup) :
    Ledger (D ++ ps.map fun p => .closed p.1 p.2) Q
      ((ps.map Prod.fst).foldl (fun b id => (b.forceRemove id).1) b) := by
  induction ps generalizing D b with
  | nil => simpa using h
  | cons p ps ih =>
    obtain ⟨here, later⟩ := List.forall_mem_cons.mp subscribed
    obtain ⟨interest, here⟩ := here
    obtain ⟨new, distinct⟩ := List.nodup_cons.mp distinct
    have first := h.takeDown here (d := .closed p.1 p.2) rfl
    rw [List.map_cons, List.append_cons]
    refine ih first (fun q among => ?_) distinct
    -- the others are still in force
    have apart : p.1 ≠ q.1 := fun same => new (same ▸ List.mem_map_of_mem among)
    obtain ⟨interest', there⟩ := later q among
    refine ⟨interest', ?_⟩
    simp only [forceRemove, here, subscriptions_enqueue, ExtTreeMap.getElem?_erase]
    simpa [apart] using there

theorem act (h : Ledger D Q b) (a : Act L) : Ledger (D ++ b.deeds a) Q (b.act a) := by
  cases a with
  | subscribe interest l => exact h.enter interest l
  | unsubscribe id =>
    cases subscribed : b.subscriptions[id]? with
    | none =>
      have same : b.act (.unsubscribe id) = b := by
        rw [Bus.act, unsubscribe, erase_of_getElem?_eq_none subscribed]
      have nothing : b.deeds (.unsubscribe id) = [] := by
        simp [deeds, isSubscribed_eq, subscribed]
      rw [same, nothing, List.append_nil]
      exact h
    | some s =>
      have leaving : b.deeds (.unsubscribe id) = [.left id] := by
        simp [deeds, isSubscribed_eq, subscribed]
      rw [leaving]
      exact h.finish subscribed rfl (fun _ own => nomatch own) h.running rfl rfl
        (List.append_nil _).symm
  | forceRemove id =>
    cases subscribed : b.subscriptions[id]? with
    | none =>
      have same : b.act (.forceRemove id) = b := by simp only [Bus.act, forceRemove, subscribed]
      have nothing : b.deeds (.forceRemove id) = [] := by simp [deeds, subscribed]
      rw [same, nothing, List.append_nil]
      exact h
    | some s =>
      have forcing : b.deeds (.forceRemove id) = [.forced id s.listener] := by
        simp [deeds, subscribed]
      rw [forcing]
      exact h.takeDown subscribed rfl
  | publish event =>
    have told := h.tell event
    cases event with
    | entityChanged _ => exact told
    | siteDeleted site =>
      have limited : ∀ p ∈ b.limitedTo site, ∃ interest,
          (b.enqueue (.event (.siteDeleted site))).subscriptions[p.1]? = some ⟨interest, p.2⟩ := by
        intro p among
        obtain ⟨interest, subscribed, _⟩ := mem_limitedTo.mp among
        exact ⟨interest, by rwa [subscriptions_enqueue]⟩
      have unchanged :
          (b.enqueue (.event (.siteDeleted site))).scopedTo site = b.scopedTo site := by
        rw [scopedTo, subscriptions_enqueue, scopedTo]
      -- the event is queued first, then the notices
      have closed := told.close limited (nodup_limitedTo b site)
      rw [← List.append_cons, ← scopedTo_eq, ← unchanged] at closed
      exact closed

/-- The deeds before an act tell what comes of it. -/
theorem brings (h : Ledger D Q b) (a : Act L) : a.Brings D (b.deeds a) where
  entered interest l := by
    simp only [entered_mem_deeds]
    exact ⟨fun ⟨_, asked, _⟩ => asked, fun asked => ⟨b.nextId, asked, rfl⟩⟩
  left id := by
    rw [left_mem_deeds, isSubscribed_eq, Option.isSome_iff_exists]
    refine and_congr_right fun _ => ⟨?_, ?_⟩
    · rintro ⟨s, subscribed⟩
      exact ⟨s.interest, s.listener, (h.registered id s.interest s.listener).mp subscribed⟩
    · rintro ⟨interest, l, registered⟩
      exact ⟨⟨interest, l⟩, (h.registered id interest l).mpr registered⟩
  forced id l := by
    rw [forced_mem_deeds]
    exact and_congr_right fun _ => exists_congr fun interest => h.registered id interest l
  published := filterMap_published?_deeds b a
  closed id l := by
    simp only [closed_mem_deeds, mem_limitedTo, h.registered]
    constructor
    · rintro ⟨site, asked, interest, registered, limited⟩
      exact ⟨site, interest, asked, limited, registered⟩
    · rintro ⟨site, interest, asked, limited, registered⟩
      exact ⟨site, asked, interest, registered, limited⟩

end Ledger

end Bus

end WorldAccess
