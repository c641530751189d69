import Std.Data.ExtTreeMap
import WorldAccess.Event.Basic

/-!
# The event bus

Events wait in a queue and are delivered one at a time. On delivery, an event is handed to every
subscription that exists at that moment and is interested in it, lowest number first; the listeners
may subscribe and unsubscribe meanwhile. A subscription that the bus removes is told so through the
same queue. A subscriber that leaves of its own accord is not.

The bus is generic in its listeners. What a listener does is given on delivery by a `Reaction`,
which may change the bus and a state of its own.

## Main definitions

* `Bus`, `Bus.subscribe`, `Bus.unsubscribe`, `Bus.forceRemove`, `Bus.publish`
* `Bus.deliver` — the delivery of the next message; `Bus.drain` — of all that wait
* `Bus.shutdown` — after which nothing is queued any more
-/

namespace WorldAccess

open Std

/-- The number of a subscription. Numbers are given in order. They are unbounded here and stand for
a counter of 64 bits, so that no number is given again: the counter itself would come back to its
first numbers after 2^64 subscriptions. -/
abbrev SubscriptionId := Nat

/-- An interest and who has it. -/
structure Subscription (L : Type) where
  interest : Interest
  listener : L

/-- What waits in the queue: an event, or the notice that a subscription was removed. -/
inductive Message (L : Type) where
  | event (event : Event)
  | removed (id : SubscriptionId) (listener : L)
deriving DecidableEq

/-- The state of a bus. -/
structure Bus (L : Type) where
  nextId : SubscriptionId := 1
  subscriptions : ExtTreeMap SubscriptionId (Subscription L) := ∅
  queue : List (Message L) := []
  running : Bool := true

/-- What listeners do when they are called, to the bus and to a state of theirs. -/
structure Reaction (L S : Type) where
  onEvent : L → SubscriptionId → Event → Bus L × S → Bus L × S
  onRemoved : L → SubscriptionId → Bus L × S → Bus L × S

namespace Bus

variable {L S : Type}

/-- Takes up a subscription under the next number. -/
def subscribe (b : Bus L) (interest : Interest) (listener : L) : Bus L × SubscriptionId :=
  ({ b with
      nextId := b.nextId + 1
      subscriptions := b.subscriptions.insert b.nextId ⟨interest, listener⟩ }, b.nextId)

/-- Whether a subscription exists. -/
def isSubscribed (b : Bus L) (id : SubscriptionId) : Bool := b.subscriptions.contains id

/-- Ends a subscription at the subscriber's wish; tells whether there was one. -/
def unsubscribe (b : Bus L) (id : SubscriptionId) : Bus L × Bool :=
  ({ b with subscriptions := b.subscriptions.erase id }, b.isSubscribed id)

/-- Puts a message at the end of the queue; a bus that is shut down drops it. -/
def enqueue (b : Bus L) (m : Message L) : Bus L :=
  if b.running then { b with queue := b.queue ++ [m] } else b

/-- Ends a subscription against the subscriber's wish and queues the notice of it; tells whether
there was one. -/
def forceRemove (b : Bus L) (id : SubscriptionId) : Bus L × Bool :=
  match b.subscriptions[id]? with
  | none => (b, false)
  | some s =>
    ({ b with subscriptions := b.subscriptions.erase id }.enqueue (.removed id s.listener), true)

/-- The subscriptions limited to a site, lowest first. -/
def scopedTo (b : Bus L) (site : SiteId) : List SubscriptionId :=
  (b.subscriptions.toList.filter fun s => s.2.interest.scopedSite? == some site).map Prod.fst

/-- Queues an event. The deletion of a site also removes the subscriptions limited to it. -/
def publish (b : Bus L) (event : Event) : Bus L :=
  let b := b.enqueue (.event event)
  match event with
  | .siteDeleted site => (b.scopedTo site).foldl (fun b id => (b.forceRemove id).1) b
  | .entityChanged _ => b

/-- Queues events in sequence. -/
def publishAll (b : Bus L) (events : List Event) : Bus L := events.foldl publish b

/-- The subscriptions interested in an event and their listeners, lowest first. -/
def interested (b : Bus L) (event : Event) : List (SubscriptionId × L) :=
  (b.subscriptions.toList.filter fun s => s.2.interest.covers event).map
    fun s => (s.1, s.2.listener)

theorem mem_interested {b : Bus L} {event : Event} {id : SubscriptionId} {l : L} :
    (id, l) ∈ b.interested event ↔
      ∃ interest, b.subscriptions[id]? = some ⟨interest, l⟩ ∧ interest.covers event = true := by
  simp only [interested, List.mem_map, List.mem_filter, Prod.exists, Prod.mk.injEq,
    ExtTreeMap.mem_toList_iff_getElem?_eq_some]
  constructor
  · rintro ⟨_, s, ⟨hs, hc⟩, rfl, rfl⟩
    exact ⟨s.interest, hs, hc⟩
  · rintro ⟨interest, hs, hc⟩
    exact ⟨id, ⟨interest, l⟩, ⟨hs, hc⟩, rfl, rfl⟩

/-- The delivery of one message that has been taken from the queue. Who is called for an event is
settled before the first listener is. -/
def handle (r : Reaction L S) (m : Message L) (state : Bus L × S) : Bus L × S :=
  match m with
  | .event event =>
    (state.1.interested event).foldl (fun state s => r.onEvent s.2 s.1 event state) state
  | .removed id listener => r.onRemoved listener id state

/-- Delivers the message at the head of the queue, if there is one. -/
def deliver (r : Reaction L S) (b : Bus L) (s : S) : Bus L × S :=
  match b.queue with
  | [] => (b, s)
  | m :: rest => handle r m ({ b with queue := rest }, s)

/-- Delivers as many messages as are given. -/
def deliverMany (r : Reaction L S) : Nat → Bus L → S → Bus L × S
  | 0, b, s => (b, s)
  | n + 1, b, s =>
    let (b, s) := b.deliver r s
    deliverMany r n b s

/-- Delivers everything that waits when the draining begins. -/
def drain (r : Reaction L S) (b : Bus L) (s : S) : Bus L × S :=
  deliverMany r b.queue.length b s

/-- Stops taking messages and ends every subscription. What waits must have been delivered. -/
def shutdown (b : Bus L) : Bus L := { b with running := false, subscriptions := ∅ }

end Bus

end WorldAccess
