import WorldAccess.Proofs.World.Lapses
import WorldAccess.Proofs.World.Watching

/-!
# What the engine hears

An event is handed to those who are subscribed when its turn comes, and not to those who were
subscribed when it was published. The engine loses a subscription at once when the bus takes it, but
replaces it only when the notice is delivered, and the notice waits behind the events that were
published before. So the engine misses the events in between. Here this is made exact: the engine
hears of a change of a capability entity unless the bus is made to end the subscription between the
publication of the event and its delivery.

## Main definitions

* `World.callsEngine` — the engine would be called for an event now
* `World.Attends` — the engine is subscribed, or will be when some messages have been delivered
* `World.takesMembershipAlong` — a run in which the subscription is taken from the engine

## Main results

* `World.attends_perform`, `World.attends_deliver` — what a command does to that
* `World.hears_membership_iff` — which events are heard, and what is cleared
* `World.membershipTaken_lapse` — an event that is missed, and one that clears too little
-/

namespace WorldAccess

open Std GrantLists

namespace World

variable {w : World} {c : Command} {event : Event} {change : EntityChange} {id : SubscriptionId}
  {m : Message Listener} {front rest behind : List (Message Listener)}

/-- Whether the engine would be called for an event if it were delivered now. -/
def callsEngine (w : World) (event : Event) : Bool :=
  w.bus.any fun b => (b.interested event).any fun s => s.2 = .engine

/-- Whether the engine's subscription to changes of capability entities is in force, or the notice
that it has been removed is among the messages `front`. -/
def Attends (w : World) (front : List (Message Listener)) : Prop :=
  ∃ id, w.interest? id = some Watch.membership ∧
    (w.subscription? id = some ⟨Watch.membership, .engine⟩ ∨ .removed id .engine ∈ front)

/-- Whether a command makes the bus end the engine's subscription to changes of capability entities.
-/
def takesMembership (w : World) : Command → Bool
  | .forceRemove id =>
    (w.subscription? id).any fun s => s.listener = .engine ∧ s.interest = Watch.membership
  | _ => false

/-- Whether a command of a run does so. -/
def takesMembershipAlong (w : World) : List Command → Bool
  | [] => false
  | c :: commands => w.takesMembership c || (w.perform c).takesMembershipAlong commands

/-- Whether a command is a delivery. -/
def isDelivery : Command → Bool
  | .deliver => true
  | _ => false

/-- Whether a command leaves the engine in its place. -/
def keepsEngine : Command → Bool
  | .startEngine _ _ => false
  | _ => true

theorem takesMembership_iff : w.takesMembership c = true ↔
    ∃ id, c = .forceRemove id ∧ w.subscription? id = some ⟨Watch.membership, .engine⟩ := by
  cases c
  case forceRemove id =>
    simp only [takesMembership, Option.any_eq_true, decide_eq_true_eq, Command.forceRemove.injEq]
    constructor
    · rintro ⟨⟨interest, l⟩, subscribed, rfl, rfl⟩
      exact ⟨id, rfl, subscribed⟩
    · rintro ⟨_, rfl, subscribed⟩
      exact ⟨_, subscribed, rfl, rfl⟩
  all_goals simp [takesMembership]

/-! ### In force or soon to be -/

theorem Tended.attends (h : w.Tended) : w.Attends w.queue := by
  obtain ⟨b, watch, D, Q, hb, known, tended⟩ := h
  obtain ⟨m, d, -, entries⟩ := tended.complete
  have entry := (entries m Watch.membership).mpr (Or.inl ⟨rfl, rfl⟩)
  refine ⟨m, by rw [interest?, known]; exact entry, ?_⟩
  rw [subscription?, queue, hb]
  exact tended.live_or_noticed entry

theorem Attends.mono (h : w.Attends front) (more : front ⊆ rest) : w.Attends rest := by
  obtain ⟨id, entry, state⟩ := h
  exact ⟨id, entry, state.imp_right fun noticed => more noticed⟩

theorem forceRemove_mem_acts : .forceRemove id ∈ w.acts c ↔ c = .forceRemove id := by
  cases c <;> simp [acts, eq_comm]

/-- The engine has one subscription to changes of capability entities. -/
theorem Tended.entry_unique (h : w.Tended) {other : SubscriptionId} {interest : Interest}
    (entry : w.interest? id = some interest) (entry' : w.interest? other = some interest) :
    id = other := by
  obtain ⟨b, watch, D, Q, hb, known, tended⟩ := h
  rw [interest?, known] at entry entry'
  exact tended.complete.unique entry entry'

theorem Tended.entry_of_subscribed (h : w.Tended) {interest : Interest}
    (subscribed : w.subscription? id = some ⟨interest, .engine⟩) :
    w.interest? id = some interest := by
  obtain ⟨b, watch, D, Q, hb, known, tended⟩ := h
  rw [subscription?, hb] at subscribed
  rw [interest?, known]
  exact tended.owner subscribed

theorem Tended.subscription_of_noticed (h : w.Tended) {l : Listener}
    (noticed : .removed id l ∈ w.queue) : w.subscription? id = none := by
  obtain ⟨b, watch, D, Q, hb, known, tended⟩ := h
  rw [queue, hb] at noticed
  rw [subscription?, hb]
  exact (tended.notice_ended noticed).1

theorem isPlain_of_spares (spares : w.sparesWatch c = true) (keeps : keepsEngine c = true)
    (delivery : c ≠ .deliver) : isPlain c = true := by
  cases c
  case deliver => exact absurd rfl delivery
  case shutdownBus | shutdownEngine => cases spares
  case startEngine => cases keeps
  all_goals rfl

/-- What waits goes on waiting in its place. -/
theorem prefix_queue_perform (plain : isPlain c = true) : w.queue <+: (w.perform c).queue := by
  cases hb : w.bus with
  | none => simp [queue, hb]
  | some b =>
    have delivery : c ≠ .deliver := by
      rintro rfl
      cases plain
    have ending : c ≠ .shutdownBus := by
      rintro rfl
      cases plain
    obtain ⟨b', hb', adds⟩ := adds_perform w c delivery ending b hb
    simpa [queue, hb, hb'] using adds.queue

/-- A plain command takes a subscription from the engine only when it makes the bus end it. -/
theorem Tended.subscription_perform_iff (h : w.Tended) (spares : w.sparesWatch c = true)
    (plain : isPlain c = true) :
    (w.perform c).subscription? id = some ⟨Watch.membership, .engine⟩ ↔
      w.subscription? id = some ⟨Watch.membership, .engine⟩ ∧ c ≠ .forceRemove id := by
  obtain ⟨b, watch, D, Q, hb, known, tended⟩ := h
  have kept : (b.acts (w.acts c)).subscriptions[id]? = some ⟨Watch.membership, .engine⟩ ↔
      b.subscriptions[id]? = some ⟨Watch.membership, .engine⟩ ∧ .forceRemove id ∉ w.acts c :=
    tended.subscribed_acts_iff (spares_acts spares known) rfl
  rw [forceRemove_mem_acts] at kept
  rw [subscription?, subscription?, bus_perform plain hb, hb]
  exact kept

/-- A plain command ends the engine's attention only when it makes the bus end the subscription. -/
theorem attends_perform (h : w.Tended) (spares : w.sparesWatch c = true) (plain : isPlain c = true)
    (within : front ⊆ w.queue) :
    (w.perform c).Attends front ↔ w.Attends front ∧ w.takesMembership c = false := by
  have entries := interest?_congr (watch_perform (w := w) plain)
  constructor
  · rintro ⟨id, entry, state⟩
    rw [entries] at entry
    have still := state.imp_left fun subscribed =>
      (h.subscription_perform_iff spares plain).mp subscribed
    refine ⟨⟨id, entry, still.imp_left And.left⟩, Bool.eq_false_iff.mpr fun takes => ?_⟩
    obtain ⟨other, rfl, subscribed⟩ := takesMembership_iff.mp takes
    obtain rfl := h.entry_unique entry (h.entry_of_subscribed subscribed)
    -- a subscription that is taken was in force, so its notice cannot wait already
    rcases still with ⟨_, unforced⟩ | noticed
    · exact unforced rfl
    · rw [h.subscription_of_noticed (within noticed)] at subscribed
      cases subscribed
  · rintro ⟨⟨id, entry, state⟩, untaken⟩
    refine ⟨id, (entries id).trans entry, state.imp_left fun subscribed => ?_⟩
    refine (h.subscription_perform_iff spares plain).mpr ⟨subscribed, ?_⟩
    rintro rfl
    exact Bool.eq_false_iff.mp untaken (takesMembership_iff.mpr ⟨id, rfl, subscribed⟩)

/-- Subscribers who leave add nothing to the queue. -/
theorem queue_acts_of_leaving {b : Bus Listener} {as : List (Act Listener)}
    (leaving : ∀ a ∈ as, ∃ id, a = .unsubscribe id) : (b.acts as).queue = b.queue := by
  induction as generalizing b with
  | nil => rfl
  | cons a as ih =>
    obtain ⟨⟨id, rfl⟩, rest⟩ := List.forall_mem_cons.mp leaving
    exact ih rest

/-- A delivery takes the message at the head of the queue. -/
theorem queue_deliver (w : World) : w.deliver.1.queue = w.queue.tail := by
  cases hb : w.bus with
  | none => simp [deliver, queue, hb]
  | some b =>
    have before : w.queue = b.queue := by simp [queue, hb]
    rw [before]
    cases deliveryFate hb with
    | idle none bus =>
      rw [queue, bus, none]
      exact none
    | passed _ rest as waiting _ leaving bus =>
      rw [queue, bus, waiting]
      refine queue_acts_of_leaving fun a leaves => ?_
      obtain ⟨id, _, leaves, _⟩ := leaving a leaves
      exact ⟨id, leaves⟩
    | renewed _ rest _ _ waiting _ _ bus =>
      rw [queue, bus, waiting]
      rfl

/-- A delivery leaves the engine's attention as it is: a subscription whose notice has been taken
has been replaced. -/
theorem attends_deliver (h : w.Tended) (waiting : w.queue = m :: rest) (front) :
    w.deliver.1.Attends front ↔ w.Attends (m :: front) := by
  obtain ⟨b, watch, D, Q, hb, known, tended⟩ := h
  have waits : b.queue = m :: rest := by simpa [queue, hb] using waiting
  cases deliveryFate hb with
  | idle none =>
    rw [none] at waits
    cases waits
  | passed m' rest' as queue' foreign leaving bus same =>
    obtain ⟨rfl, rfl⟩ := List.cons.inj (queue'.symm.trans waits)
    have entries := interest?_congr same
    have inForce : ∀ id, w.deliver.1.subscription? id = some ⟨Watch.membership, .engine⟩ ↔
        w.subscription? id = some ⟨Watch.membership, .engine⟩ := by
      intro id
      have unforced : .forceRemove id ∉ as := by
        intro forced
        obtain ⟨_, _, other, _⟩ := leaving _ forced
        cases other
      have kept : (Bus.acts { b with queue := rest' } as).subscriptions[id]? =
            some ⟨Watch.membership, .engine⟩ ↔
          b.subscriptions[id]? = some ⟨Watch.membership, .engine⟩ ∧ .forceRemove id ∉ as :=
        (tended.take queue' (entries_of_foreign known foreign)).subscribed_acts_iff
          (spares_of_leaving tended leaving) rfl
      rw [subscription?, subscription?, bus, hb]
      exact kept.trans (and_iff_left unforced)
    refine exists_congr fun id => ?_
    rw [entries, inForce, List.mem_cons]
    refine and_congr_right fun entry => or_congr_right ⟨Or.inr, fun among => ?_⟩
    refine among.resolve_left fun about => ?_
    rw [foreign id about.symm] at entry
    cases entry
  | renewed id rest' interest before queue' known' entry bus watch' =>
    obtain ⟨rfl, rfl⟩ := List.cons.inj (queue'.symm.trans waits)
    obtain rfl := Option.some.inj (known.symm.trans known')
    have entries := interest?_of_replaced known watch'
    have inForce : ∀ other, w.deliver.1.subscription? other =
        if b.nextId = other then some ⟨interest, .engine⟩ else w.subscription? other := by
      intro other
      rw [subscription?, bus, subscription?, hb]
      simp [Bus.subscribe, ExtTreeMap.getElem?_insert]
    have known : w.interest? id = some interest := by
      rw [interest?, known, Option.bind_some]
      exact entry
    constructor
    · rintro ⟨other, entry', state⟩
      rw [entries] at entry'
      rw [inForce] at state
      split at entry'
      next new =>
        -- what was taken is the notice of the subscription that is replaced
        obtain rfl := Option.some.inj entry'
        exact ⟨id, known, Or.inr List.mem_cons_self⟩
      next old =>
        split at entry'
        next => cases entry'
        next =>
          rw [if_neg old] at state
          exact ⟨other, entry', state.imp_right (List.mem_cons_of_mem _)⟩
    · rintro ⟨other, entry', state⟩
      by_cases same : id = other
      · subst same
        obtain rfl := Option.some.inj (known.symm.trans entry')
        exact ⟨b.nextId, by rw [entries, if_pos rfl], Or.inl (by rw [inForce, if_pos rfl])⟩
      · have old : b.nextId ≠ other := by
          rw [interest?, known'] at entry'
          exact (Nat.ne_of_lt (tended.lt_nextId_of_entry entry')).symm
        refine ⟨other, by rw [entries, if_neg old, if_neg same, entry'], ?_⟩
        rw [inForce, if_neg old]
        refine state.imp_right fun among => ?_
        refine (List.mem_cons.mp among).resolve_left fun about => same ?_
        cases about
        rfl

/-! ### One delivery -/

/-- The engine is called for a change of a capability entity when its subscription is in force. -/
theorem callsEngine_iff (h : w.Tended)
    (covers : Watch.membership.covers (.entityChanged change) = true) :
    w.callsEngine (.entityChanged change) = true ↔ w.Attends [] := by
  obtain ⟨b, watch, D, Q, hb, known, tended⟩ := h
  have called : w.callsEngine (.entityChanged change) = true ↔
      ∃ id, (id, Listener.engine) ∈ b.interested (.entityChanged change) := by
    simp only [callsEngine, hb, Option.any_some, List.any_eq_true, decide_eq_true_eq]
    constructor
    · rintro ⟨⟨id, l⟩, among, rfl⟩
      exact ⟨id, among⟩
    · rintro ⟨id, among⟩
      exact ⟨_, among, rfl⟩
  rw [called]
  refine exists_congr fun id => ?_
  rw [Bus.mem_interested, interest?, known, Option.bind_some, subscription?, hb, Option.bind_some]
  constructor
  · rintro ⟨interest, subscribed, covers⟩
    have entry := tended.owner subscribed
    obtain ⟨m, d, -, entries⟩ := tended.complete
    rcases (entries id interest).mp entry with ⟨-, rfl⟩ | ⟨-, rfl⟩
    · exact ⟨entry, Or.inl subscribed⟩
    · -- that subscription is not asked for changes
      cases covers
  · rintro ⟨-, subscribed | noticed⟩
    · exact ⟨_, subscribed, covers⟩
    · cases noticed

/-- The engine clears the lists that the changed entity heads, and nobody else does. -/
theorem kept_hear (kind : change.kind = .capability) (l : Listener) (id : SubscriptionId)
    (state : Bus Listener × Audience) (site : SiteId) (cap : Capability) :
    (Engine.listsOf (hear l id (.entityChanged change) state).2.1).kept site cap =
      if l = .engine ∧ change.id.site = site ∧
          heads change.id ((Engine.listsOf state.2.1).kept site cap) = true then []
      else (Engine.listsOf state.2.1).kept site cap := by
  obtain ⟨bus, engine, notices⟩ := state
  cases l with
  | observer | observerOnce | failing => rfl
  | engine =>
    cases engine with
    | none => simp [hear, Engine.listsOf]
    | some e => simp [hear, Engine.listsOf, onEvent, kind, kept_forgetEntity]

theorem kept_called (kind : change.kind = .capability) (called : List (SubscriptionId × Listener))
    (state : Bus Listener × Audience) (site : SiteId) (cap : Capability) :
    (Engine.listsOf (called.foldl
        (fun state s => hear s.2 s.1 (.entityChanged change) state) state).2.1).kept site cap =
      if called.any (fun s => s.2 = .engine) = true ∧ change.id.site = site ∧
          heads change.id ((Engine.listsOf state.2.1).kept site cap) = true then []
      else (Engine.listsOf state.2.1).kept site cap := by
  induction called generalizing state with
  | nil => simp
  | cons s called ih =>
    rw [List.foldl_cons, ih, kept_hear kind]
    split
    next first =>
      have among : (s :: called).any (fun s => s.2 = .engine) = true := by simp [first.1]
      rw [ite_self, if_pos ⟨among, first.2⟩]
    next unconcerned =>
      refine if_congr ?_ rfl rfl
      simp only [List.any_cons, Bool.or_eq_true, decide_eq_true_eq]
      exact ⟨fun ⟨among, here⟩ => ⟨Or.inr among, here⟩,
        fun ⟨among, here⟩ => ⟨among.resolve_left fun first => unconcerned ⟨first, here⟩, here⟩⟩

theorem kept_deliver_change (kind : change.kind = .capability)
    (waiting : w.queue = .event (.entityChanged change) :: rest) (site : SiteId)
    (cap : Capability) :
    w.deliver.1.kept site cap =
      if w.callsEngine (.entityChanged change) = true ∧ change.id.site = site ∧
          heads change.id (w.kept site cap) = true then []
      else w.kept site cap := by
  cases hb : w.bus with
  | none => simp [queue, hb] at waiting
  | some b =>
    have waits : b.queue = .event (.entityChanged change) :: rest := by
      simpa [queue, hb] using waiting
    have delivered : w.deliver.1.grants = Engine.listsOf (Bus.handle reaction
        (.event (.entityChanged change)) ({ b with queue := rest }, w.engine, {})).2.1 := by
      simp only [deliver, hb, Bus.deliver, waits]
      rfl
    rw [kept, delivered, callsEngine, hb]
    exact kept_called kind _ _ site cap

/-! ### From publication to delivery -/

/-- An event that waits in the queue is delivered by the time nothing waits. Then the engine is
subscribed if it was when the event was published, or was to be before its turn, and the
subscription has not been taken since. -/
theorem attends_until (h : w.Tended) {later : List Command}
    (spared : w.sparesWatchAlong later = true) (stays : later.all keepsEngine = true)
    (waiting : w.queue = front ++ .event event :: behind) (quiet : (w.run later).queue = []) :
    ∃ meanwhile after, later = meanwhile ++ .deliver :: after ∧
      meanwhile.countP isDelivery = front.length ∧ (w.run meanwhile).Tended ∧
      (∃ others, (w.run meanwhile).queue = .event event :: others) ∧
      ((w.run meanwhile).Attends [] ↔
        w.Attends front ∧ w.takesMembershipAlong meanwhile = false) := by
  -- a delivery shortens the front, any other command leaves it as it is and adds behind the event
  induction later generalizing w front behind with
  | nil =>
    rw [run_nil, waiting] at quiet
    simp at quiet
  | cons c later ih =>
    obtain ⟨spares, spared⟩ := Bool.and_eq_true_iff.mp spared
    obtain ⟨keeps, stays⟩ := Bool.and_eq_true_iff.mp stays
    by_cases delivery : c = .deliver
    · subst delivery
      cases front with
      | nil =>
        -- its turn has come
        exact ⟨[], later, rfl, rfl, h, ⟨behind, waiting⟩, by simp [takesMembershipAlong]⟩
      | cons m front =>
        have attends := attends_deliver h waiting front
        have queue : w.deliver.1.queue = front ++ .event event :: behind := by
          rw [queue_deliver, waiting]
          rfl
        obtain ⟨meanwhile, after, rfl, count, tended, turn, hears⟩ :=
          ih h.deliver spared stays queue quiet
        refine ⟨.deliver :: meanwhile, after, rfl, ?_, tended, turn, ?_⟩
        · rw [List.countP_cons_of_pos rfl, count, List.length_cons]
        · rw [run_cons]
          exact hears.trans (and_congr_left fun _ => attends)
    · have plain := isPlain_of_spares spares keeps delivery
      have within : front ⊆ w.queue := waiting ▸ List.subset_append_left front _
      have attends := attends_perform h spares plain within
      obtain ⟨added, grown⟩ := prefix_queue_perform (w := w) plain
      have waiting : (w.perform c).queue = front ++ .event event :: (behind ++ added) := by
        rw [← grown, waiting, List.append_assoc]
        rfl
      obtain ⟨meanwhile, after, rfl, count, tended, turn, hears⟩ :=
        ih (h.perform spares) spared stays waiting quiet
      refine ⟨c :: meanwhile, after, rfl, ?_, tended, turn, ?_⟩
      · have other : ¬ isDelivery c = true := by
          cases c
          case deliver => exact absurd rfl delivery
          all_goals exact Bool.false_ne_true
        rw [List.countP_cons_of_neg other, count]
      · rw [run_cons, hears, attends, takesMembershipAlong, Bool.or_eq_false_iff, and_assoc]

/-- A command that publishes something neither delivers nor takes anything from the engine. -/
theorem isPlain_of_published (told : event ∈ w.published c) :
    isPlain c = true ∧ w.takesMembership c = false := by
  cases c
  case deliver | shutdownBus | startEngine | shutdownEngine | forceRemove =>
    simp [published, announced, Command.onStore?] at told
  all_goals exact ⟨rfl, rfl⟩

/-- An event that has come to wait has been published. -/
theorem published_of_waiting (h : w.Tended) (spares : w.sparesWatch c = true)
    {before : List (Message Listener)}
    (waiting : (w.perform c).queue = w.queue ++ before ++ .event event :: behind) :
    event ∈ w.published c := by
  obtain ⟨b, watch, D, Q, hb, known, tended⟩ := h
  have delivery : c ≠ .deliver := by
    rintro rfl
    have lengths := congrArg List.length ((queue_deliver w).symm.trans waiting)
    simp at lengths
    omega
  have ending : c ≠ .shutdownBus := by
    rintro rfl
    cases spares
  -- any other command leaves the queue as it is and adds what it publishes
  obtain ⟨b', hb', adds⟩ := adds_perform w c delivery ending b hb
  have queues : b'.queue = b.queue ++ before ++ .event event :: behind := by
    simpa [queue, hb, hb'] using waiting
  have pending := adds.pending
  rw [Bus.pending, queues, Bus.pending, if_pos tended.running, List.append_assoc,
    List.filterMap_append, List.append_cancel_left_eq] at pending
  rw [← pending]
  simp [Message.event?]

/-- In a run that leaves the engine's subscriptions to the engine, a change of a capability entity
that has come to wait is delivered by the time nothing waits. The engine hears of it exactly when
the bus has not been made, since the event was published, to end the engine's subscription to such
changes. And then the lists that the changed entity heads are cleared, and no others. -/
theorem hears_membership_iff {config : Config} {extras : List (Operation × Checker)} {w₀ : World}
    (new : w₀ = start true config extras) (past later : List Command) (c : Command)
    (change : EntityChange) (before behind : List (Message Listener))
    (spared : w₀.sparesWatchAlong (past ++ c :: later) = true)
    (stays : later.all keepsEngine = true)
    (covers : Watch.membership.covers (.entityChanged change) = true)
    (waiting : (w₀.run (past ++ [c])).queue =
      (w₀.run past).queue ++ before ++ .event (.entityChanged change) :: behind)
    (quiet : (w₀.run (past ++ c :: later)).queue = []) :
    ∃ meanwhile after, later = meanwhile ++ .deliver :: after ∧
      meanwhile.countP isDelivery = ((w₀.run past).queue ++ before).length ∧
      (∃ others, (w₀.run (past ++ c :: meanwhile)).queue =
        .event (.entityChanged change) :: others) ∧
      ((w₀.run (past ++ c :: meanwhile)).callsEngine (.entityChanged change) = true ↔
        (w₀.run (past ++ [c])).takesMembershipAlong meanwhile = false) ∧
      ∀ site cap, (w₀.run (past ++ c :: meanwhile ++ [.deliver])).kept site cap =
        if (w₀.run (past ++ c :: meanwhile)).callsEngine (.entityChanged change) = true ∧
          ((w₀.run (past ++ c :: meanwhile)).kept site cap).head? = some change.id then []
        else (w₀.run (past ++ c :: meanwhile)).kept site cap := by
  subst new
  obtain ⟨sparedPast, sparedLater⟩ := sparesWatchAlong_append.mp spared
  obtain ⟨spares, spared⟩ := Bool.and_eq_true_iff.mp sparedLater
  have tended := (tended_start config extras).run sparedPast
  rw [run_concat] at waiting
  rw [run_append, run_cons] at quiet
  obtain ⟨plain, untaken⟩ := isPlain_of_published (published_of_waiting tended spares waiting)
  -- when the event was published, the notices that waited were before it
  have attends := (attends_perform tended spares plain (List.Subset.refl _)).mpr
    ⟨tended.attends, untaken⟩
  have attends := attends.mono (List.subset_append_left _ before)
  obtain ⟨meanwhile, after, rfl, count, tended, ⟨others, turn⟩, hears⟩ :=
    attends_until (tended.perform spares) spared stays waiting quiet
  have kind : change.kind = .capability := by
    simp only [Watch.membership, Interest.covers, Bool.and_eq_true] at covers
    simpa using covers.1.2
  refine ⟨meanwhile, after, rfl, count, ?_⟩
  rw [run_concat, run_concat, run_append, run_cons]
  refine ⟨⟨others, turn⟩, ?_, fun site cap => ?_⟩
  · exact (callsEngine_iff tended covers).trans (hears.trans (and_iff_right attends))
  · refine (kept_deliver_change kind turn site cap).trans (if_congr ?_ rfl rfl)
    refine and_congr_right fun _ => ?_
    rw [heads, beq_iff_eq]
    refine and_iff_right_of_imp fun isHead => ?_
    obtain ⟨tail, form⟩ := List.head?_eq_some_iff.mp isHead
    have reachable : (start true config extras).Reachable := ⟨true, config, extras, [], rfl⟩
    exact (((reachable.run past).perform c).run meanwhile).site_head form

/-- A run in which a list is kept, a group is stored that is no member of its head, and the bus
takes the engine's subscription. -/
def masonsStored : List Command :=
  [.registerSite 2 "main", .create .epoch 2 .capability "BUILDER" .none,
    .create .epoch 2 .group "masons" .none, .deliver, .deliver, .groupsFor 2 .builder,
    .forceRemove 1]

/-- The edit by which the group becomes a member. -/
def masonsGranted : Command := .edit .epoch ⟨⟨2, 1⟩, 0⟩ [.edit (.addMember ⟨2, 2⟩)]

/-- What is announced of that edit. -/
def masonsChange : EntityChange := ⟨⟨2, 1⟩, .capability, .updated, {.groupIds}⟩

theorem hears_membership_iff_masonsGranted :
    ∃ meanwhile after, [.deliver, .deliver] = meanwhile ++ .deliver :: after ∧
      meanwhile.countP isDelivery = 1 ∧
      (((start true {} []).run (masonsStored ++ masonsGranted :: meanwhile)).callsEngine
          (.entityChanged masonsChange) = true ↔
        ((start true {} []).run (masonsStored ++ [masonsGranted])).takesMembershipAlong meanwhile =
          false) := by
  obtain ⟨meanwhile, after, split, count, -, hears, -⟩ :=
    hears_membership_iff (rfl : start true {} [] = _) masonsStored [.deliver, .deliver]
      masonsGranted masonsChange [] [] (by decide +kernel) (by decide +kernel) (by decide +kernel)
      (by decide +kernel) (List.isEmpty_iff.mp (by decide +kernel))
  exact ⟨meanwhile, after, split, count.trans (by decide +kernel), hears⟩

/-- The engine misses an event when, after its publication, the bus is made to end the subscription.
It subscribes again, but the list that it keeps is left as it was. And an event that it hears of
leaves a list as it is when the list has another head than the entity that has changed. -/
theorem membershipTaken_lapse :
    let missed := masonsStored ++ [.deliver, masonsGranted, .forceRemove 3]
    let heard := capabilityKept ++ [.forceRemove 1, .deliver,
      .create .epoch 2 .capability "BUILDER" .none]
    ((start true {} []).sparesWatchAlong (missed ++ [.deliver, .deliver]) = true ∧
      ((start true {} []).run missed).queue =
        [.event (.entityChanged masonsChange), .removed 3 .engine] ∧
      ((start true {} []).run missed).callsEngine (.entityChanged masonsChange) = false ∧
      ((start true {} []).run (missed ++ [.deliver, .deliver])).queue = [] ∧
      ((start true {} []).run (missed ++ [.deliver, .deliver])).watchIds = [2, 4] ∧
      ((start true {} []).run (missed ++ [.deliver, .deliver])).kept 2 .builder = [⟨2, 1⟩] ∧
      resolve ((start true {} []).run missed).store 2 .builder = [⟨2, 1⟩, ⟨2, 2⟩]) ∧
    (start true {} []).sparesWatchAlong (heard ++ [.deliver]) = true ∧
      ((start true {} []).run heard).queue = [.event (.created ⟨2, 2⟩ .capability)] ∧
      ((start true {} []).run heard).callsEngine (.created ⟨2, 2⟩ .capability) = true ∧
      ((start true {} []).run (heard ++ [.deliver])).queue = [] ∧
      ((start true {} []).run (heard ++ [.deliver])).kept 2 .builder = [⟨2, 1⟩] ∧
      resolve ((start true {} []).run heard).store 2 .builder = [] := by
  decide +kernel

end World

end WorldAccess
