import WorldAccess.Proofs.Event.Ledger

/-!
# What a bus delivers

A run of a bus consists of acts from outside and of deliveries, in which listeners act on the bus in
their turn. All that happens is written down in a *history*: every act with what came of it, and
every delivery with the message that was taken and the calls that were made. The calls are written
down by the listeners themselves, while the bus calls them.

The history of a run from a new bus tells what the bus promises: who is called for an event and how
often, in which order events arrive, and who is told of the end of a subscription.

## Main definitions

* `Listeners`, `Listeners.reaction` — listeners that act on the bus
* `Listeners.recording`, `Call` — the same listeners, who write down their calls
* `Move`, `Listeners.play` — a run of a bus with its listeners
* `Entry`, `Listeners.history` — what has happened in a run
* `Handed` — a message was handed to those it was meant for
* `Bus.Faithful` — what a bus promises, in terms of its history

## Main results

* `Listeners.deliver_recording` — writing the calls down changes nothing
* `Bus.Journal.deliver` — what one delivery does
* `Listeners.faithful_history` — every run keeps the promises
-/

namespace WorldAccess

open Std

/-! ### Listeners that act -/

/-- What listeners do when they are called: acts on the bus, and a change of their own state. -/
structure Listeners (L S : Type) where
  onEvent : L → SubscriptionId → Event → Bus L × S → List (Act L) × S
  onRemoved : L → SubscriptionId → Bus L × S → List (Act L) × S

/-- A call of a listener: for an event, or because its subscription was removed; and what it did. -/
structure Call (L : Type) where
  id : SubscriptionId
  listener : L
  event? : Option Event
  turns : List (Turn L)

/-- What happens to a bus. -/
inductive Move (L : Type) where
  | act (act : Act L)
  | deliver

/-- What is written down of a move: what came of an act, or which calls were made for a message. -/
inductive Entry (L : Type) where
  | act (turn : Turn L)
  | delivery (message : Message L) (calls : List (Call L))

namespace Listeners

variable {L S : Type}

/-- Listeners that act on the bus react to its calls. -/
def reaction (ls : Listeners L S) : Reaction L S where
  onEvent l id event := fun (b, s) =>
    let (acts, s) := ls.onEvent l id event (b, s)
    (b.acts acts, s)
  onRemoved l id := fun (b, s) =>
    let (acts, s) := ls.onRemoved l id (b, s)
    (b.acts acts, s)

/-- The same listeners, who write down their calls. -/
def recording (ls : Listeners L S) : Reaction L (S × List (Call L)) where
  onEvent l id event := fun (b, s, calls) =>
    let (acts, s) := ls.onEvent l id event (b, s)
    (b.acts acts, s, calls ++ [⟨id, l, some event, b.turns acts⟩])
  onRemoved l id := fun (b, s, calls) =>
    let (acts, s) := ls.onRemoved l id (b, s)
    (b.acts acts, s, calls ++ [⟨id, l, none, b.turns acts⟩])

/-- A bus and the state of its listeners after a move. -/
def move (ls : Listeners L S) : Bus L × S → Move L → Bus L × S
  | (b, s), .act a => (b.act a, s)
  | (b, s), .deliver => b.deliver ls.reaction s

/-- A bus and the state of its listeners after moves in sequence. -/
def play (ls : Listeners L S) (state : Bus L × S) (moves : List (Move L)) : Bus L × S :=
  moves.foldl ls.move state

/-- What is written down of a move; nothing of a delivery when nothing waits. -/
def entries (ls : Listeners L S) : Bus L × S → Move L → List (Entry L)
  | (b, _), .act a => [.act ⟨a, b.deeds a⟩]
  | (b, s), .deliver =>
    match b.queue with
    | [] => []
    | m :: _ => [.delivery m (b.deliver ls.recording (s, [])).2.2]

/-- What is written down of moves in sequence. -/
def history (ls : Listeners L S) (state : Bus L × S) : List (Move L) → List (Entry L)
  | [] => []
  | m :: ms => ls.entries state m ++ ls.history (ls.move state m) ms

/-- Writing the calls down changes nothing. -/
theorem deliver_recording (ls : Listeners L S) (b : Bus L) (s : S) (calls : List (Call L)) :
    ((b.deliver ls.recording (s, calls)).1, (b.deliver ls.recording (s, calls)).2.1) =
      b.deliver ls.reaction s := by
  unfold Bus.deliver
  cases b.queue with
  | nil => rfl
  | cons m rest =>
    cases m with
    | removed id l => rfl
    | event event =>
      simp only [Bus.handle]
      generalize Bus.interested _ event = called
      generalize { b with queue := rest } = b
      -- listener by listener
      induction called generalizing b s calls with
      | nil => rfl
      | cons p called ih => exact ih _ _ _

end Listeners

/-! ### Histories -/

/-- Whether each entry of a list stands in a relation to those before it. -/
def EachAfter {α : Type} (R : List α → α → Prop) (l : List α) : Prop :=
  ∀ past a later, l = past ++ a :: later → R past a

theorem eachAfter_nil {α : Type} (R : List α → α → Prop) : EachAfter R [] := by
  intro past a later split
  simp at split

theorem EachAfter.concat {α : Type} {R : List α → α → Prop} {l : List α} {a : α}
    (h : EachAfter R l) (last : R l a) : EachAfter R (l ++ [a]) := by
  intro past c later split
  rcases List.eq_nil_or_concat later with rfl | ⟨between, d, rfl⟩
  · obtain ⟨rfl, same⟩ := List.append_inj' split rfl
    obtain rfl := List.head_eq_of_cons_eq same
    exact last
  · rw [List.concat_eq_append, ← List.cons_append, ← List.append_assoc] at split
    exact h past c between (List.append_inj' split rfl).1

theorem EachAfter.of_mem {α : Type} {R : List α → α → Prop} {l : List α} {a : α}
    (h : EachAfter R l) (among : a ∈ l) : ∃ past, R past a := by
  obtain ⟨past, later, split⟩ := List.append_of_mem among
  exact ⟨past, h past a later split⟩

namespace Entry

variable {L : Type}

/-- The turns of acts, from outside and by listeners. -/
def turns : Entry L → List (Turn L)
  | act turn => [turn]
  | delivery _ calls => calls.flatMap Call.turns

/-- The message that was taken from the queue. -/
def message? : Entry L → Option (Message L)
  | act _ => none
  | delivery m _ => some m

/-- The calls that were made. -/
def calls : Entry L → List (Call L)
  | act _ => []
  | delivery _ calls => calls

end Entry

section History

variable {L : Type}

/-- Everything that has come of acts, from outside and by listeners. -/
def deedsIn (h : List (Entry L)) : List (Deed L) := deedsOf (h.flatMap Entry.turns)

/-- The events that have been published. -/
def publishedIn (h : List (Entry L)) : List Event := (deedsIn h).filterMap Deed.published?

/-- The subscriptions that have been taken down, with their listeners. -/
def takenDownIn (h : List (Entry L)) : List (SubscriptionId × L) :=
  (deedsIn h).filterMap Deed.takenDown?

/-- The messages that have been taken from the queue. -/
def messagesIn (h : List (Entry L)) : List (Message L) := h.filterMap Entry.message?

/-- The calls that have been made. -/
def callsIn (h : List (Entry L)) : List (Call L) := h.flatMap Entry.calls

/-- The event of a call about a subscription. -/
def Call.heardBy? (id : SubscriptionId) (c : Call L) : Option Event :=
  if c.id = id then c.event? else none

/-- The events that have been handed to a subscription. -/
def heardBy (id : SubscriptionId) (h : List (Entry L)) : List Event :=
  (callsIn h).filterMap (Call.heardBy? id)

/-- The subscription, with its listener, of whose removal a call tells. -/
def Call.told? (c : Call L) : Option (SubscriptionId × L) :=
  if c.event?.isNone then some (c.id, c.listener) else none

/-- The subscriptions of whose removal their listeners have been told. -/
def toldIn (h : List (Entry L)) : List (SubscriptionId × L) := (callsIn h).filterMap Call.told?

/-- A message was handed to those it was meant for, by what had come of acts before. An event goes
to the subscriptions in force that cover it, to each of them once, and a notice to the one listener.
-/
def Handed (D : List (Deed L)) : Message L → List (Call L) → Prop
  | .event event, calls =>
    (calls.map Call.id).Nodup ∧ (∀ c ∈ calls, c.event? = some event) ∧
      ∀ id l, (∃ c ∈ calls, c.id = id ∧ c.listener = l) ↔
        ∃ interest, Registered D id interest l ∧ interest.covers event = true
  | .removed id l, calls => ∃ turns, calls = [⟨id, l, none, turns⟩]

end History

namespace Bus

variable {L S : Type} {b : Bus L} {T : List (Turn L)} {Q : List (Message L)} {m : Message L}
  {rest : List (Message L)} {h : List (Entry L)}

/-- What a bus promises, in terms of what has happened since it was new.

Acts bring what they should, and what has come of them tells who is subscribed. Every message that
was taken was handed to those it was meant for at that time. The events that were published have
been taken in that order or wait, and what a subscription hears comes in that order. No number is
given twice. Of the subscriptions that were taken down each is told to its own listener once, or
that waits; and nobody is told of a subscription that its subscriber gave up. -/
structure Faithful (h : List (Entry L)) (b : Bus L) : Prop where
  acts : EachAfter (fun past turn => turn.act.Brings (deedsOf past) turn.deeds)
    (h.flatMap Entry.turns)
  subscribed : ∀ id interest l,
    b.subscriptions[id]? = some ⟨interest, l⟩ ↔ Registered (deedsIn h) id interest l
  handed : EachAfter
    (fun past entry => ∀ m calls, entry = .delivery m calls → Handed (deedsIn past) m calls) h
  published : publishedIn h = (messagesIn h).filterMap Message.event? ++ b.pending
  order : ∀ id, (heardBy id h).Sublist (publishedIn h)
  numbers : ((deedsIn h).filterMap Deed.given?).Nodup
  told : takenDownIn h = toldIn h ++ b.notices
  once : ((takenDownIn h).map Prod.fst).Nodup
  own : ∀ id l, (id, l) ∈ takenDownIn h → ∃ interest, .entered id interest l ∈ deedsIn h
  silent : ∀ id l, .left id ∈ deedsIn h → (id, l) ∉ takenDownIn h

/-! ### Keeping the history -/

/-- The turns of acts and the messages that were taken account for a bus, and each act brought what
it should. -/
structure Journal (T : List (Turn L)) (Q : List (Message L)) (b : Bus L) : Prop where
  ledger : Ledger (deedsOf T) Q b
  brings : EachAfter (fun past turn => turn.act.Brings (deedsOf past) turn.deeds) T

namespace Journal

theorem act (h : Journal T Q b) (a : Act L) : Journal (T ++ [⟨a, b.deeds a⟩]) Q (b.act a) where
  ledger := by
    have kept := h.ledger.act a
    simpa [deedsOf] using kept
  brings := h.brings.concat (h.ledger.brings a)

theorem acts (h : Journal T Q b) (as : List (Act L)) : Journal (T ++ b.turns as) Q (b.acts as) := by
  induction as generalizing T b with
  | nil => simpa [turns] using h
  | cons a as ih =>
    rw [turns, List.append_cons]
    exact ih (h.act a)

/-- The message at the head of the queue is taken. -/
theorem take (h : Journal T Q b) (waiting : b.queue = m :: rest) :
    Journal T (Q ++ [m]) { b with queue := rest } where
  ledger := h.ledger.take waiting
  brings := h.brings

/-- Those who are called for an event are called in turn. -/
theorem call (h : Journal T Q b) (ls : Listeners L S) (event : Event)
    (called : List (SubscriptionId × L)) (s : S) (calls : List (Call L)) :
    ∃ (new : List (Call L)) (after : Bus L × S),
      called.foldl (fun state p => ls.recording.onEvent p.2 p.1 event state) (b, s, calls) =
          (after.1, after.2, calls ++ new) ∧
        new.map (fun c => (c.id, c.listener)) = called ∧ (∀ c ∈ new, c.event? = some event) ∧
        Journal (T ++ new.flatMap Call.turns) Q after.1 := by
  induction called generalizing T b s calls with
  | nil => exact ⟨[], (b, s), by simp, rfl, by simp, by simpa using h⟩
  | cons p called ih =>
    let reply := ls.onEvent p.2 p.1 event (b, s)
    let first : Call L := ⟨p.1, p.2, some event, b.turns reply.1⟩
    obtain ⟨new, after, done, who, about, journal⟩ :=
      ih (h.acts reply.1) reply.2 (calls ++ [first])
    refine ⟨first :: new, after, ?_, ?_, ?_, ?_⟩
    · rw [List.append_cons]
      exact done
    · rw [List.map_cons, who]
    · exact List.forall_mem_cons.mpr ⟨rfl, about⟩
    · rw [List.flatMap_cons, ← List.append_assoc]
      exact journal

/-- A delivery hands the message over to those it is meant for. -/
theorem deliver (h : Journal T Q b) (ls : Listeners L S) (waiting : b.queue = m :: rest) (s : S) :
    ∃ (calls : List (Call L)) (after : Bus L × S),
      b.deliver ls.recording (s, []) = (after.1, after.2, calls) ∧ Handed (deedsOf T) m calls ∧
        Journal (T ++ calls.flatMap Call.turns) (Q ++ [m]) after.1 := by
  have taken := h.take waiting
  unfold Bus.deliver
  rw [waiting]
  cases m with
  | removed id l =>
    let reply := ls.onRemoved l id ({ b with queue := rest }, s)
    let only : Call L := ⟨id, l, none, Bus.turns { b with queue := rest } reply.1⟩
    refine ⟨[only], (Bus.acts { b with queue := rest } reply.1, reply.2), rfl, ⟨_, rfl⟩, ?_⟩
    rw [List.flatMap_singleton]
    exact taken.acts reply.1
  | event event =>
    obtain ⟨calls, after, done, who, about, journal⟩ :=
      taken.call ls event (Bus.interested { b with queue := rest } event) s []
    refine ⟨calls, after, done, ⟨?_, about, fun id l => ?_⟩, journal⟩
    · have ids : calls.map Call.id = (calls.map fun c => (c.id, c.listener)).map Prod.fst := by
        rw [List.map_map]
        rfl
      rw [ids, who]
      exact nodup_interested _ event
    · -- those who are called are those who were subscribed when the message was taken
      have among : (∃ c ∈ calls, c.id = id ∧ c.listener = l) ↔
          (id, l) ∈ Bus.interested { b with queue := rest } event := by
        rw [← who, List.mem_map]
        simp only [Prod.mk.injEq]
      rw [among, mem_interested]
      exact exists_congr fun interest =>
        and_congr_left fun _ => taken.ledger.registered id interest l

end Journal

/-- A history accounts for a bus, and every message was handed over as it should. -/
structure Chronicle (h : List (Entry L)) (b : Bus L) : Prop where
  journal : Journal (h.flatMap Entry.turns) (messagesIn h) b
  handed : EachAfter
    (fun past entry => ∀ m calls, entry = .delivery m calls → Handed (deedsIn past) m calls) h

theorem chronicle_new : Chronicle [] ({} : Bus L) where
  journal := ⟨ledger_new, eachAfter_nil _⟩
  handed := eachAfter_nil _

namespace Chronicle

theorem act (c : Chronicle h b) (a : Act L) : Chronicle (h ++ [.act ⟨a, b.deeds a⟩]) (b.act a) where
  journal := by
    have messages : messagesIn (h ++ [.act ⟨a, b.deeds a⟩]) = messagesIn h := by
      rw [messagesIn, List.filterMap_append]
      exact List.append_nil _
    rw [messages, List.flatMap_append]
    exact c.journal.act a
  handed := c.handed.concat fun _ _ same => nomatch same

theorem deliver (c : Chronicle h b) (ls : Listeners L S) (s : S) :
    Chronicle (h ++ ls.entries (b, s) .deliver) (b.deliver ls.reaction s).1 := by
  rw [← ls.deliver_recording b s []]
  cases waiting : b.queue with
  | nil => simpa [Listeners.entries, Bus.deliver, waiting] using c
  | cons m rest =>
    obtain ⟨calls, after, done, handed, journal⟩ := c.journal.deliver ls waiting s
    simp only [Listeners.entries, waiting, done]
    constructor
    · simpa [messagesIn, Entry.turns, Entry.message?] using journal
    · refine c.handed.concat fun m' calls' same => ?_
      cases same
      exact handed

theorem play (c : Chronicle h b) (ls : Listeners L S) (s : S) (moves : List (Move L)) :
    Chronicle (h ++ ls.history (b, s) moves) (ls.play (b, s) moves).1 := by
  -- the invariant speaks of the whole past, so the history before the run goes along
  induction moves generalizing h b s with
  | nil => simpa [Listeners.history, Listeners.play] using c
  | cons m moves ih =>
    rw [Listeners.history, ← List.append_assoc]
    cases m with
    | act a => exact ih (c.act a) s
    | deliver => exact ih (c.deliver ls s) (b.deliver ls.reaction s).2

end Chronicle

/-! ### The promises -/

/-- Of the calls for an event one at most is about a given subscription. -/
theorem heard_sublist {D : List (Deed L)} {calls : List (Call L)} (handed : Handed D m calls)
    (id : SubscriptionId) : (calls.filterMap (Call.heardBy? id)).Sublist m.event?.toList := by
  cases m with
  | removed other l =>
    obtain ⟨turns, rfl⟩ := handed
    simp [Call.heardBy?]
  | event event =>
    obtain ⟨distinct, about, -⟩ := handed
    induction calls with
    | nil => exact List.nil_sublist _
    | cons c calls ih =>
      obtain ⟨new, distinct⟩ := List.nodup_cons.mp distinct
      obtain ⟨here, about⟩ := List.forall_mem_cons.mp about
      by_cases own : c.id = id
      · -- nobody else is called about the subscription
        have others : calls.filterMap (Call.heardBy? id) = [] := by
          refine List.filterMap_eq_nil_iff.mpr fun c' among => if_neg fun same => new ?_
          rw [own, ← same]
          exact List.mem_map_of_mem among
        simp [Call.heardBy?, own, here, others, Message.event?]
      · simpa [Call.heardBy?, own] using ih distinct about

theorem told_eq {D : List (Deed L)} {calls : List (Call L)} (handed : Handed D m calls) :
    calls.filterMap Call.told? = m.notice?.toList := by
  cases m with
  | removed id l =>
    obtain ⟨turns, rfl⟩ := handed
    rfl
  | event event =>
    refine List.filterMap_eq_nil_iff.mpr fun c among => ?_
    simp [Call.told?, handed.2.1 c among]

theorem filterMap_cons_toList {α β : Type} (f : α → Option β) (a : α) (l : List α) :
    (a :: l).filterMap f = (f a).toList ++ l.filterMap f := by
  cases found : f a <;> simp [found]

/-- What the calls are about is what the messages are about. -/
theorem callsIn_of_handed
    (handed : ∀ m calls, .delivery m calls ∈ h → ∃ D : List (Deed L), Handed D m calls) :
    (∀ id, (heardBy id h).Sublist ((messagesIn h).filterMap Message.event?)) ∧
      toldIn h = (messagesIn h).filterMap Message.notice? := by
  -- entry by entry, a delivery adds one message and the calls that it was handed over with
  induction h with
  | nil => exact ⟨fun _ => .slnil, rfl⟩
  | cons entry h ih =>
    obtain ⟨heard, told⟩ := ih fun m calls among => handed m calls (List.mem_cons_of_mem _ among)
    cases entry with
    | act turn => exact ⟨heard, told⟩
    | delivery m calls =>
      obtain ⟨D, here⟩ := handed m calls List.mem_cons_self
      have messages : messagesIn (.delivery m calls :: h) = m :: messagesIn h := rfl
      rw [messages]
      constructor
      · intro id
        rw [heardBy, callsIn, List.flatMap_cons, List.filterMap_append, filterMap_cons_toList]
        exact (heard_sublist here id).append (heard id)
      · rw [toldIn, callsIn, List.flatMap_cons, List.filterMap_append, filterMap_cons_toList,
          ← told, ← told_eq here]
        rfl

theorem Chronicle.faithful (c : Chronicle h b) : Faithful h b := by
  have ledger := c.journal.ledger
  have handed : ∀ m calls, .delivery m calls ∈ h → ∃ D : List (Deed L), Handed D m calls := by
    intro m calls among
    obtain ⟨past, handed⟩ := c.handed.of_mem among
    exact ⟨deedsIn past, handed m calls rfl⟩
  obtain ⟨heard, told⟩ := callsIn_of_handed handed
  refine ⟨c.journal.brings, ledger.registered, c.handed, ledger.published, fun id => ?order,
    ?numbers, ?told, ?once, fun id l among => ?own, fun id l left among => ?silent⟩
  case order =>
    rw [publishedIn, deedsIn, ledger.published]
    exact (heard id).trans (List.sublist_append_left _ _)
  case numbers => exact ledger.given.imp Nat.ne_of_lt
  case told => rw [takenDownIn, deedsIn, ledger.takenDown, told]
  case once => exact ledger.nodup_takenDown
  case own => exact ledger.own (id, l) among
  case silent =>
    obtain ⟨d, deed, takes⟩ := List.mem_filterMap.mp among
    have ne : .left id ≠ d := by
      rintro rfl
      cases takes
    exact ledger.apart left deed ne rfl (Deed.ended?_of_takenDown? takes)

end Bus

/-- Every run of a new bus keeps what the bus promises, whatever listeners do when they are called.
-/
theorem Listeners.faithful_history {L S : Type} (ls : Listeners L S) (s : S)
    (moves : List (Move L)) :
    Bus.Faithful (ls.history ({}, s) moves) (ls.play ({}, s) moves).1 :=
  (Bus.chronicle_new.play ls s moves).faithful

/-- A subscription that is taken down before an event is delivered does not hear of it, although it
was in force when the event was published; its listener is told instead. -/
example :
    let silent : Listeners Unit Unit := ⟨fun _ _ _ s => ([], s.2), fun _ _ s => ([], s.2)⟩
    let h := silent.history ({}, ()) [.act (.subscribe .siteDeleted ()),
      .act (.subscribe .siteDeleted ()), .act (.publish (.siteDeleted 4)), .act (.forceRemove 1),
      .deliver, .deliver]
    heardBy 1 h = [] ∧ heardBy 2 h = [.siteDeleted 4] ∧ toldIn h = [(1, ())] := by
  decide +kernel

end WorldAccess
