import WorldAccess.Event.Bus

/-!
# What waits in the queue

Messages join the queue at its end and leave it at its head, one with each delivery. So whatever
else is done to a bus, what waits in it goes on waiting. An event that is published on a running bus
waits there afterwards, and a subscriber is called for every event its interest covers.

## Main definitions

* `Message.event?`, `Bus.pending` — the events among what waits
* `Bus.Extends` — one bus has everything in its queue that another had
* `Bus.Adds` — one bus has come from another by the publication of events
* `Bus.hasSubscriber` — a listener has subscribed with an interest
* `Reaction.Keeps` — what listeners keep to in each of their calls

## Main results

* `Bus.adds_publish`, `Bus.adds_forceRemove` and others — what each operation publishes
* `Bus.Adds.mem_queue` — what is published on a running bus waits
* `Bus.pending_deliver`, `Bus.mem_queue_deliver` — a delivery takes at most the head
* `Bus.deliver_keeps`, `Bus.deliverMany_keeps` — what listeners keep to, deliveries keep to
-/

namespace WorldAccess

open Std

/-- The event that a message carries; the notice of a removal carries none. -/
def Message.event? {L : Type} : Message L → Option Event
  | .event told => some told
  | .removed _ _ => none

theorem Message.event?_eq_some_iff {L : Type} {m : Message L} {told : Event} :
    m.event? = some told ↔ m = .event told := by
  cases m <;> simp [event?]

namespace Bus

variable {L S : Type} {b b' b'' : Bus L} {events events' : List Event}

/-- One bus has grown out of another: it runs if that one did, and its queue begins with that one's.
-/
structure Extends (b b' : Bus L) : Prop where
  running : b'.running = b.running
  queue : b.queue <+: b'.queue

theorem Extends.refl (b : Bus L) : b.Extends b := ⟨rfl, List.prefix_rfl⟩

theorem Extends.trans (h : b.Extends b') (h' : b'.Extends b'') : b.Extends b'' :=
  ⟨h'.running.trans h.running, h.queue.trans h'.queue⟩

/-- The events that wait. -/
def pending (b : Bus L) : List Event := b.queue.filterMap Message.event?

theorem mem_pending {event : Event} : event ∈ b.pending ↔ .event event ∈ b.queue := by
  refine List.mem_filterMap.trans ⟨?_, fun waits => ⟨.event event, waits, rfl⟩⟩
  rintro ⟨m, waits, carries⟩
  rwa [← Message.event?_eq_some_iff.mp carries]

/-- One bus has grown out of another by the publication of events. If the bus runs, they wait behind
the events that waited before. -/
structure Adds (b b' : Bus L) (events : List Event) : Prop extends b.Extends b' where
  pending : b'.pending = b.pending ++ if b.running then events else []

theorem Adds.refl (b : Bus L) : b.Adds b [] := ⟨.refl b, by simp⟩

theorem Adds.trans (h : b.Adds b' events) (h' : b'.Adds b'' events') :
    b.Adds b'' (events ++ events') := by
  refine ⟨h.toExtends.trans h'.toExtends, ?_⟩
  rw [h'.pending, h.pending, h.running, List.append_assoc]
  split <;> rfl

/-- What is published on a running bus waits there. -/
theorem Adds.mem_queue (h : b.Adds b' events) (running : b.running = true) {event : Event}
    (told : event ∈ events) : .event event ∈ b'.queue := by
  rw [← mem_pending, h.pending, if_pos running]
  exact List.mem_append_right _ told

/-- What publishes nothing in any step publishes nothing over a list of steps. -/
theorem adds_foldl {α : Type} {f : Bus L → α → Bus L}
    (step : ∀ (b : Bus L) (a : α), b.Adds (f b a) [])
    (as : List α) (b : Bus L) : b.Adds (as.foldl f b) [] := by
  induction as generalizing b with
  | nil => exact .refl b
  | cons a as ih => exact (step b a).trans (ih (f b a))

/-! ### Operations -/

/-- Whatever is done to the subscriptions alone, the queue is as it was. -/
theorem adds_of_eq (running : b'.running = b.running) (queue : b'.queue = b.queue) :
    b.Adds b' [] := by
  refine ⟨⟨running, queue ▸ List.prefix_rfl⟩, ?_⟩
  rw [Bus.pending, queue, ite_self, List.append_nil, Bus.pending]

theorem adds_subscribe (b : Bus L) (interest : Interest) (l : L) :
    b.Adds (b.subscribe interest l).1 [] := adds_of_eq rfl rfl

theorem adds_unsubscribe (b : Bus L) (id : SubscriptionId) :
    b.Adds (b.unsubscribe id).1 [] := adds_of_eq rfl rfl

theorem adds_enqueue (b : Bus L) (m : Message L) : b.Adds (b.enqueue m) m.event?.toList := by
  unfold enqueue
  split
  next running =>
    refine ⟨⟨rfl, List.prefix_append _ _⟩, ?_⟩
    rw [Bus.pending, List.filterMap_append, if_pos running]
    cases m <;> rfl
  next stopped => exact ⟨.refl b, by rw [if_neg stopped, List.append_nil]⟩

theorem adds_forceRemove (b : Bus L) (id : SubscriptionId) : b.Adds (b.forceRemove id).1 [] := by
  unfold forceRemove
  split
  · exact .refl b
  next s _ =>
    have removed : b.Adds { b with subscriptions := b.subscriptions.erase id } [] :=
      adds_of_eq rfl rfl
    exact removed.trans (adds_enqueue _ (.removed id s.listener))

theorem adds_publish (b : Bus L) (event : Event) : b.Adds (b.publish event) [event] := by
  have queued := adds_enqueue b (.event event)
  unfold publish
  cases event with
  | entityChanged _ => exact queued
  | siteDeleted site =>
    -- the notices to subscriptions of the site come after the event
    exact queued.trans (adds_foldl adds_forceRemove _ _)

theorem adds_publishAll (b : Bus L) (events : List Event) :
    b.Adds (b.publishAll events) events := by
  induction events generalizing b with
  | nil => exact .refl b
  | cons event events ih => exact (adds_publish b event).trans (ih _)

/-! ### Subscribers -/

/-- Whether a listener has subscribed with an interest. -/
def hasSubscriber [DecidableEq L] (b : Bus L) (l : L) (interest : Interest) : Bool :=
  b.subscriptions.toList.any fun s => s.2.listener = l ∧ s.2.interest = interest

/-- A subscriber is called for what its interest covers. -/
theorem exists_mem_interested [DecidableEq L] {l : L} {interest : Interest} {event : Event}
    (h : b.hasSubscriber l interest = true) (covers : interest.covers event = true) :
    ∃ id, (id, l) ∈ b.interested event := by
  obtain ⟨⟨id, s⟩, hs, same⟩ := List.any_eq_true.mp h
  obtain ⟨rfl, rfl⟩ := of_decide_eq_true same
  have subscribed := ExtTreeMap.mem_toList_iff_getElem?_eq_some.mp hs
  exact ⟨id, mem_interested.mpr ⟨s.interest, subscribed, covers⟩⟩

end Bus

/-! ### Deliveries -/

/-- Listeners that in each of their calls keep to a relation between before and after. -/
structure Reaction.Keeps {L S : Type} (r : Reaction L S) (R : Bus L × S → Bus L × S → Prop) :
    Prop where
  refl : ∀ state, R state state
  trans : ∀ {a b c}, R a b → R b c → R a c
  onEvent : ∀ l id event state, R state (r.onEvent l id event state)
  onRemoved : ∀ l id state, R state (r.onRemoved l id state)

namespace Bus

variable {L S : Type} {b : Bus L} {r : Reaction L S}

/-- What listeners keep to in each call, the delivery of a message keeps to. -/
theorem handle_keeps {R : Bus L × S → Bus L × S → Prop} (keeps : r.Keeps R) (m : Message L)
    (state : Bus L × S) : R state (handle r m state) := by
  cases m with
  | removed id l => exact keeps.onRemoved l id state
  | event event =>
    simp only [handle]
    -- the induction is on who is called, whatever the calls do to the subscriptions
    generalize state.1.interested event = called
    induction called generalizing state with
    | nil => exact keeps.refl state
    | cons s rest ih => exact keeps.trans (keeps.onEvent s.2 s.1 event state) (ih _)

/-- The event at the head of the queue, if that is one. -/
def next? (b : Bus L) : Option Event := b.queue.head?.bind Message.event?

/-- Listeners who publish nothing leave what waits behind the head as it was. -/
theorem pending_deliver (keeps : r.Keeps fun a b => a.1.Adds b.1 []) (b : Bus L) (s : S) :
    (b.deliver r s).1.running = b.running ∧
      b.next?.toList ++ (b.deliver r s).1.pending = b.pending := by
  unfold deliver next?
  cases waiting : b.queue with
  | nil => exact ⟨rfl, rfl⟩
  | cons m rest =>
    have handled := handle_keeps keeps m ({ b with queue := rest }, s)
    refine ⟨handled.running, ?_⟩
    rw [handled.pending, ite_self, List.append_nil, pending, pending, waiting]
    cases m <;> rfl

/-- A delivery takes at most the head of the queue. -/
theorem mem_queue_deliver (keeps : r.Keeps fun a b => a.1.Adds b.1 []) {m first : Message L}
    {rest : List (Message L)} (waiting : b.queue = first :: rest) (h : m ∈ rest) (s : S) :
    m ∈ (b.deliver r s).1.queue := by
  unfold deliver
  rw [waiting]
  exact (handle_keeps keeps first ({ b with queue := rest }, s)).queue.mem h

section State

variable {R : S → S → Prop}

theorem deliver_keeps (keeps : r.Keeps fun a b => R a.2 b.2) (b : Bus L) (s : S) :
    R s (b.deliver r s).2 := by
  unfold deliver
  split
  · exact keeps.refl (b, s)
  next m rest _ => exact handle_keeps keeps m ({ b with queue := rest }, s)

theorem deliverMany_keeps (keeps : r.Keeps fun a b => R a.2 b.2) (n : Nat) (b : Bus L) (s : S) :
    R s (deliverMany r n b s).2 := by
  induction n generalizing b s with
  | zero => exact keeps.refl (b, s)
  | succ n ih =>
    have first := deliver_keeps keeps b s
    exact keeps.trans (a := (b, s)) (b := b.deliver r s) first (ih _ _)

end State

end Bus

end WorldAccess
