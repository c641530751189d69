import WorldAccess.Proofs.Engine.Copies
import WorldAccess.Proofs.Wire.Records

/-!
# A world that is saved and loaded again

A store is saved as a text, and the text is loaded into an empty store without a bus. Every record
is read back from the text, and every entity finds its site there, so the copy has the records of
the store: the same sites by the same names, and the same entity under every id. And what an engine
answers is read from records. So from then on two new engines, one over the store and one over its
copy, answer every question alike, whatever has been asked of both of them before.

## Main definitions

* `Command.isInquiry` — commands that ask
* `World.Twins` — worlds that cannot be told apart by asking

## Main results

* `World.Twins.perform`, `World.twins_run` — worlds stay twins while they are asked
* `World.check_copy` — a copy has the same records and answers alike
-/

namespace WorldAccess

open Std

/-- Whether a command asks: it changes neither the store nor which engine there is, and has no
message delivered. -/
def Command.isInquiry : Command → Bool
  | .openSession .. | .resetSession _ | .setRunAs .. | .check .. | .populate _ | .groupsFor ..
  | .forgetEntity _ | .forgetSite _ => true
  | .hold .. | .release _ | .subscribe .. | .unsubscribe _ | .forceRemove _ | .publish _ => true
  | _ => false

namespace World

variable {w w' : World} {c : Command}

/-- Whether two worlds cannot be told apart by asking: the records of their stores and their
sessions are the same, and their engines differ in nothing but their watch. -/
structure Twins (w w' : World) : Prop where
  records : w.store.SameRecords w'.store
  engines : ∃ e e', w.engine = some e ∧ w'.engine = some e' ∧ e.SameBooks e' ∧
    ∀ extra ∈ e.extras, extra.2.ReadsRecords
  sessions : w'.sessions = w.sessions

namespace Twins

theorem setSession (h : w.Twins w') (name : String) (s : Session) :
    (w.setSession name s).Twins (w'.setSession name s) := by
  refine ⟨h.records, h.engines, ?_⟩
  rw [World.setSession, World.setSession, h.sessions]

theorem onSession (h : w.Twins w') (name : String) (f : Session → Session) :
    (w.onSession name f).Twins (w'.onSession name f) := by
  rw [World.onSession, World.onSession, h.sessions]
  split
  · exact h.setSession name _
  · exact h

theorem session? (h : w.Twins w') (name : String) : w'.sessions[name]? = w.sessions[name]? := by
  rw [h.sessions]

/-- Engines that differ in nothing but their watch take the place of those before. -/
theorem setEngine (h : w.Twins w') {e e' : Engine} (same : e.SameBooks e')
    (reads : ∀ extra ∈ e.extras, extra.2.ReadsRecords) :
    Twins { w with engine := some e } { w' with engine := some e' } :=
  ⟨h.records, ⟨e, e', rfl, rfl, same, reads⟩, h.sessions⟩

/-- A question is answered alike in both. -/
theorem check (h : w.Twins w') (name : String) (op : Operation) (r : Option Request)
    (raising : Bool) :
    (w.check name op r raising).1.Twins (w'.check name op r raising).1 ∧
      (w'.check name op r raising).2 = (w.check name op r raising).2 := by
  obtain ⟨e, e', running, running', same, reads⟩ := h.engines
  rw [World.check, World.check, running, running', h.session? name]
  cases w.sessions[name]? with
  | none => exact ⟨h, rfl⟩
  | some s =>
    obtain ⟨after, given⟩ := same.answer w.store s op r raising
    have answered : e'.answer w'.store s op r raising = e'.answer w.store s op r raising :=
      Engine.answer_of_sameRecords h.records (by rw [same.extras]; exact reads) s op r raising
    have kept := (e.alike_answer w.store s op r raising).extras
    dsimp only
    rw [answered]
    -- the worlds are put together of what the answers leave
    generalize e.answer w.store s op r raising = found at after given kept ⊢
    generalize e'.answer w.store s op r raising = found' at after given ⊢
    obtain ⟨engine, session, result⟩ := found
    obtain ⟨engine', session', result'⟩ := found'
    obtain ⟨rfl, rfl⟩ := Prod.mk.inj given
    have twins := h.setEngine after (kept ▸ reads)
    exact ⟨twins.setSession name session', rfl⟩

theorem populate (h : w.Twins w') (name : String) : (w.populate name).Twins (w'.populate name) := by
  obtain ⟨e, e', running, running', same, reads⟩ := h.engines
  rw [World.populate, World.populate, running, running', h.session? name]
  cases w.sessions[name]? with
  | none => exact h
  | some s =>
    obtain ⟨after, resolved⟩ := same.populate w.store s
    have kept := e.extras_populate w.store s
    dsimp only
    rw [Engine.populate_of_sameRecords h.records]
    generalize e.populate w.store s = found at after resolved kept ⊢
    generalize e'.populate w.store s = found' at after resolved ⊢
    obtain ⟨engine, session⟩ := found
    obtain ⟨engine', session'⟩ := found'
    obtain rfl : session' = session := resolved
    have twins := h.setEngine after (kept ▸ reads)
    exact twins.setSession name session'

theorem groupsFor (h : w.Twins w') (site : SiteId) (c : Capability) :
    (w.groupsFor site c).1.Twins (w'.groupsFor site c).1 := by
  obtain ⟨e, e', running, running', same, reads⟩ := h.engines
  rw [World.groupsFor, World.groupsFor, running, running']
  dsimp only
  rw [GrantLists.groupsFor_of_sameRecords h.records, same.grants]
  exact h.setEngine ⟨same.config, same.extras, rfl, same.calls⟩ reads

theorem forget {α : Type} (h : w.Twins w') (clear : GrantLists → GrantLists × α) :
    (w.forget clear).1.Twins (w'.forget clear).1 := by
  obtain ⟨e, e', running, running', same, reads⟩ := h.engines
  rw [World.forget, World.forget, running, running']
  dsimp only
  rw [same.grants]
  exact h.setEngine ⟨same.config, same.extras, rfl, same.calls⟩ reads

/-- Worlds stay twins when they are asked. -/
theorem perform (h : w.Twins w') (asks : c.isInquiry = true) :
    (w.perform c).Twins (w'.perform c) := by
  cases c
  case openSession name requester program runsAs process => exact h.setSession name _
  case resetSession name => exact h.onSession name Session.reset
  case setRunAs name value => exact h.onSession name (·.setRunAs value)
  case check name op r raising => exact (h.check name op r raising).1
  case populate name => exact h.populate name
  case groupsFor site c => exact h.groupsFor site c
  case forgetEntity id => exact h.forget (·.forgetEntity id)
  case forgetSite id => exact h.forget (·.forgetSite id)
  -- handles and messages that wait play no part in answers
  case hold | release | subscribe | unsubscribe | forceRemove | publish =>
    exact ⟨h.records, h.engines, h.sessions⟩
  all_goals cases asks

end Twins

theorem twins_run (h : w.Twins w') {commands : List Command}
    (asks : ∀ c ∈ commands, c.isInquiry = true) : (w.run commands).Twins (w'.run commands) := by
  induction commands generalizing w w' with
  | nil => exact h
  | cons c rest ih =>
    obtain ⟨first, later⟩ := List.forall_mem_cons.mp asks
    exact ih (h.perform first) later

theorem extras_start {L : Type} (config : Config) (extras : List (Operation × Checker))
    (bus : Option (Bus L)) (me : L) : (Engine.start config extras bus me).1.extras = extras := by
  cases bus <;> rfl

/-- New engines with the same settings differ in nothing but their watch, with or without a bus. -/
theorem sameBooks_start {L : Type} (config : Config) (extras : List (Operation × Checker))
    (bus bus' : Option (Bus L)) (me : L) :
    (Engine.start config extras bus me).1.SameBooks (Engine.start config extras bus' me).1 := by
  cases bus
  all_goals
    cases bus'
    all_goals exact ⟨rfl, rfl, rfl, rfl⟩

theorem exists_engine_startEngine (w : World) (config : Config)
    (extras : List (Operation × Checker)) : ∃ bus : Option (Bus Listener),
      (w.startEngine config extras).engine = some (Engine.start config extras bus .engine).1 :=
  ⟨_, rfl⟩

/-- With new engines, worlds with the same records and sessions are twins. -/
theorem twins_startEngine (w w' : World) (records : w.store.SameRecords w'.store)
    (sessions : w'.sessions = w.sessions) (config : Config) {extras : List (Operation × Checker)}
    (reads : ∀ extra ∈ extras, extra.2.ReadsRecords) :
    (w.startEngine config extras).Twins (w'.startEngine config extras) := by
  obtain ⟨bus, started⟩ := w.exists_engine_startEngine config extras
  obtain ⟨bus', started'⟩ := w'.exists_engine_startEngine config extras
  refine ⟨records, ⟨_, _, started, started', sameBooks_start config extras bus bus' .engine, ?_⟩,
    sessions⟩
  rw [extras_start]
  exact reads

/-! ### Saving and loading -/

variable {commands : List Command} {config : Config} {extras : List (Operation × Checker)}
  {withBus : Bool}

/-- A copy has the same records and answers alike. Take any run, in which no site is registered past
the highest number, and save its store as a text. No property and no lock in it has a floating-point
number. The text can be loaded into an empty store without a bus, whatever the moment is. This
stores as many entities as there were, and the copy has the same sites by the same names, and the
same entity under every id. Two engines that are started with the same settings, one over the store
and one over its copy, answer every question alike, whatever has been asked of both of them before
and in whatever sessions. Appended checkers may look at the records of a store, but at nothing else
that it has. -/
theorem check_copy
    (within : (start withBus config extras).isAllowedAlong Command.isWithinSiteLimit
      commands = true)
    (floatFree : ∀ e ∈ ((start withBus config extras).run commands).store.snapshot.entities,
      e.isFloatFree = true)
    (now : Timestamp) :
    let w := (start withBus config extras).run commands
    let loaded := Store.empty.loadText now w.store.saveText
    loaded.result = .ok w.store.size ∧ w.store.SameRecords loaded.store ∧
      ∀ (config : Config) (extras : List (Operation × Checker))
        (sessions : ExtTreeMap String Session) (inquiries : List Command),
        (∀ extra ∈ extras, extra.2.ReadsRecords) →
        (∀ c ∈ inquiries, c.isInquiry = true) →
        let original := ({ w with sessions } : World).startEngine config extras
        let copy := ({ store := loaded.store, sessions } : World).startEngine config extras
        ∀ (name : String) (op : Operation) (r : Option Request) (raising : Bool),
          ((copy.run inquiries).check name op r raising).2 =
            ((original.run inquiries).check name op r raising).2 := by
  intro w loaded
  have wf : w.store.WellFormed := Reachable.wellFormed ⟨withBus, config, extras, commands, rfl⟩
  have housed : w.store.Housed := housed_run Store.housed_empty within
  -- what is loaded is the snapshot, which has every site and every entity of the store
  have form : loaded = Store.empty.load w.store.snapshot :=
    Store.loadText_saveText floatFree now
  have records : w.store.SameRecords loaded.store := by
    rw [form]
    exact Store.sameRecords_load_snapshot wf housed
  have result : loaded.result = .ok w.store.size := by
    rw [form]
    exact Store.result_load_snapshot wf housed
  refine ⟨result, records, ?_⟩
  -- nothing but the records matters from here on
  clear_value loaded w
  intro config extras sessions inquiries reads asks original copy name op r raising
  have begun : original.Twins copy :=
    twins_startEngine { w with sessions } { store := loaded.store, sessions } records rfl config
      reads
  exact ((twins_run begun asks).check name op r raising).2

/-- A guild's master, with rights that have no name among the others. -/
def guildMaster : Entity :=
  { Entity.fresh .epoch ⟨2, 5⟩ .player "smith" .none with
    note := "says \"hello\"\n"
    permissions := .make ⟨0xF1⟩ .read
    flags := (∅ : TextSet).insert "" |>.insert "slow"
    applications := (∅ : ExtTreeMap String Application).insert "guild"
      { owner := ⟨2, 5⟩
        properties := (∅ : ExtTreeMap String Property).insert "rank" (.text "master")
          |>.insert "fees due" (.integer (-7)) |>.insert "heir" (.id .none) }
    displayName := some "Smith" }

/-- A door that opens for masters of the guild. -/
def guildDoor : Entity :=
  { Entity.fresh .epoch ⟨2, 9⟩ .exit "door" ⟨2, 5⟩ with
    permissions := .make .empty .read
    action := some
      { targets := [⟨2, 5⟩]
        lock := .byProperty "guild" "rank" (.text "master") false
        commands := ["open", "push"] } }

/-- The middle of a leap second at the end of a 29 February. -/
def leapSecond : Timestamp :=
  ⟨2024, 2, .last _ _, Fin.last 23, Fin.last 59, Fin.last 60, ⟨500000000, by decide⟩⟩

/-- A moment in a year that is written with its sign, a little after the year's beginning. -/
def ancient : Timestamp :=
  { Timestamp.epoch with year := ⟨-44, by decide⟩, day := 1, nanos := ⟨120000, by decide⟩ }

/-- A run in which the guild, its master and its door are stored. -/
def guildRun : List Command :=
  [.registerSite 2 "main", .insert guildMaster, .insert guildDoor,
    .create leapSecond 2 .group "guild" ⟨2, 5⟩,
    .edit ancient ⟨⟨2, 10⟩, 2⟩ [.edit (.addMember ⟨2, 5⟩)],
    .registerSite 3 "", .create .epoch 3 .room "cellar" .none, .delete ⟨3, 1⟩]

/-- A checker that is appended to the use of actions and looks for the action in the store. -/
def storedExtras : List (Operation × Checker) :=
  [(.useAction, .supplied "stored" fun w _ r =>
    .ofBool (r.entities.all fun e => w.store.get? e.id == some e))]

theorem check_copy_guildRun :
    (start true {} []).isAllowedAlong Command.isWithinSiteLimit guildRun = true ∧
      (∀ e ∈ ((start true {} []).run guildRun).store.snapshot.entities, e.isFloatFree = true) ∧
      ∃ loaded,
        loaded = Store.empty.loadText .epoch ((start true {} []).run guildRun).store.saveText ∧
        loaded.result = .ok 3 ∧ loaded.store.entity? ⟨2, 9⟩ = some guildDoor ∧
        (((({ store := loaded.store } : World).startEngine {} storedExtras).run
          [.openSession "s" ⟨2, 5⟩ .none true none]).check "s" .useAction
            (some (.target guildDoor)) false).2 = some (.ok true) := by
  have within : (start true {} []).isAllowedAlong Command.isWithinSiteLimit guildRun = true := by
    decide +kernel
  have floatFree : ∀ e ∈ ((start true {} []).run guildRun).store.snapshot.entities,
      e.isFloatFree = true := by
    decide +kernel
  have reads : ∀ extra ∈ storedExtras, extra.2.ReadsRecords := by
    intro extra among w w' h s r
    rw [List.mem_singleton.mp among]
    simp only [Checker.vote, h.store.get?]
  have asks : ∀ c ∈ [Command.openSession "s" ⟨2, 5⟩ .none true none], c.isInquiry = true := by
    decide
  refine ⟨within, floatFree, _, rfl, ?_⟩
  have copied := check_copy within floatFree .epoch
  dsimp only at copied
  obtain ⟨result, records, answers⟩ := copied
  refine ⟨?_, ?_, ?_⟩
  · have size : ((start true {} []).run guildRun).store.size = 3 := by decide +kernel
    rw [size] at result
    exact result
  · have stored : ((start true {} []).run guildRun).store.entity? ⟨2, 9⟩ = some guildDoor := by
      decide +kernel
    rw [← stored]
    exact records.entities ⟨2, 9⟩
  · refine (answers {} storedExtras ∅ _ reads asks "s" .useAction _ false).trans ?_
    decide +kernel

end World

end WorldAccess
