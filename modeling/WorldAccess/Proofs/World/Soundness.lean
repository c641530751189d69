import WorldAccess.Proofs.Entity.Membership
import WorldAccess.Proofs.Store.Reload
import WorldAccess.Wire.Text

/-!
# Sound permission records in a store

Whatever is changed in a sound record in place, it stays sound. So the records in a store are sound
as long as those are that reach it whole: with an entity that is stored or loaded, or in an edit
that replaces a record or an application. Nobody looks at these. A saved record with an id in both
lists is read as it stands, and what it says is then what the store holds.

## Main definitions

* `Entity.HasRecord`, `Entity.Sound` — the records of an entity and its applications
* `Route`, `Edit.Brings`, `Command.Brings` — the records that reach the store whole, and how
* `Store.HoldsOnly`, `Command.Preserves` — properties of all entities in a store, and who keeps them

## Main results

* `Draft.sound_run` — edits that bring sound records keep records sound
* `World.holdsOnly_run` — what commands preserve holds of every entity after a run
* `World.sound_records_iff` — when the records in a store are sound
* `World.twiceListed_lapse` — a saved record that is not
-/

namespace WorldAccess

open Std

/-! ### Entities -/

namespace Entity

variable {e : Entity} {p : Permissions} {name : String} {application : Application}

/-- Whether a record is that of an entity or of one of its applications. -/
def HasRecord (e : Entity) (p : Permissions) : Prop :=
  p = e.permissions ∨
    ∃ (name : String) (application : Application),
      e.applications[name]? = some application ∧ p = application.permissions

/-- Whether every record of an entity is sound. -/
def Sound (e : Entity) : Prop := ∀ p, e.HasRecord p → p.Sound

theorem Sound.own (h : e.Sound) : e.permissions.Sound := h _ (Or.inl rfl)

theorem Sound.ofApplication (h : e.Sound) (there : e.applications[name]? = some application) :
    application.permissions.Sound := h _ (Or.inr ⟨name, application, there, rfl⟩)

theorem sound_of_parts (own : e.permissions.Sound)
    (others : ∀ (name : String) application,
      e.applications[name]? = some application → application.permissions.Sound) : e.Sound := by
  rintro p (rfl | ⟨name, application, there, rfl⟩)
  · exact own
  · exact others name application there

theorem sound_fresh (now : Timestamp) (id : EntityId) (kind : Kind) (name : String)
    (owner : EntityId) : (fresh now id kind name owner).Sound := by
  refine sound_of_parts (Permissions.sound_make _ _) fun name application there => ?_
  rw [fresh, ExtTreeMap.getElem?_empty] at there
  cases there

theorem Sound.withPermissions (h : e.Sound) (sound : p.Sound) :
    Sound { e with permissions := p } :=
  sound_of_parts sound fun _ _ => h.ofApplication

theorem Sound.withApplication (h : e.Sound) (sound : application.permissions.Sound) :
    Sound { e with applications := e.applications.insert name application } := by
  refine sound_of_parts h.own fun other there found => ?_
  rw [ExtTreeMap.getElem?_insert] at found
  split at found
  · cases found
    exact sound
  · exact h.ofApplication found

theorem Sound.withoutApplication (h : e.Sound) :
    Sound { e with applications := e.applications.erase name } := by
  refine sound_of_parts h.own fun other there found => ?_
  rw [ExtTreeMap.getElem?_erase] at found
  split at found
  · cases found
  · exact h.ofApplication found

end Entity

/-- The ways in which a record reaches the store whole: with an entity that is stored or loaded, in
place of an entity's record, or with an application. -/
inductive Route where
  | stored
  | loaded
  | replaced
  | attached

/-- Whether an edit brings a whole record. -/
def Edit.Brings : Edit → Route → Permissions → Prop
  | .setPermissions brought, .replaced, p => p = brought
  | .setApplication _ application, .attached, p => p = application.permissions
  | _, _, _ => False

section Brings

variable {route : Route} {p brought : Permissions} {name : String} {application : Application}

theorem Edit.brings_setPermissions_iff :
    (setPermissions brought).Brings route p ↔ route = .replaced ∧ p = brought := by
  cases route <;> simp [Brings]

theorem Edit.brings_setApplication_iff :
    (setApplication name application).Brings route p ↔
      route = .attached ∧ p = application.permissions := by
  cases route <;> simp [Brings]

end Brings

namespace Draft

variable {d : Draft}

/-- An edit keeps records sound if those are that it brings. -/
theorem sound_apply (h : d.entity.Sound) (now : Timestamp) {edit : Edit}
    (brought : ∀ route p, edit.Brings route p → p.Sound) : (d.apply now edit).1.entity.Sound := by
  have own : ∀ change, (d.entity.permissions.change change).1.Sound := h.own.change
  cases edit <;> simp only [apply, editPermissions, editRoster, editAction]
  case setPermissions permissions => exact h.withPermissions (brought .replaced _ rfl)
  case setListRights rights => exact h.withPermissions (own (.setListRights rights))
  case setOtherRights rights => exact h.withPermissions (own (.setOtherRights rights))
  case addAdmin id => exact h.withPermissions (own (.addAdmin id))
  case addToList id => exact h.withPermissions (own (.addToList id))
  case removeAdmin id => exact h.withPermissions (own (.removeAdmin id))
  case removeFromList id => exact h.withPermissions (own (.removeFromList id))
  case setApplication name application => exact h.withApplication (brought .attached _ rfl)
  case changeApplication name change =>
    split
    · exact h
    next application there =>
      have sound := (h.ofApplication there).change change
      exact h.withApplication sound
  case setProperty name path value =>
    split
    · exact h
    next application there =>
      have sound := h.ofApplication there
      exact h.withApplication sound
  case removeApplication name =>
    split
    · exact h
    · exact h.withoutApplication
  -- the others concern no record, and some of them find nothing to do
  case addFlag | removeFlag | addMember | removeMember | setMemberDisabled | setLock | setTargets |
      setCommands | setScript =>
    split <;> exact h
  all_goals exact h

theorem sound_run (h : d.entity.Sound) (now : Timestamp) {steps : List Step}
    (brought : ∀ edit, .edit edit ∈ steps → ∀ route p, edit.Brings route p → p.Sound) :
    (d.run now steps).1.entity.Sound := by
  induction steps generalizing d with
  | nil => exact h
  | cons s rest ih =>
    have first : (d.step now s).1.entity.Sound := by
      cases s with
      | edit edit => exact sound_apply h now (brought edit List.mem_cons_self)
      | hasChanges | takeChanges | version => exact h
    exact ih first fun edit among => brought edit (List.mem_cons_of_mem s among)

end Draft

/-! ### Stores -/

namespace Store

variable {s s' : Store} {P : Entity → Prop}

/-- Whether every entity in a store, stored or retired, has a property. -/
def HoldsOnly (s : Store) (P : Entity → Prop) : Prop := ∀ c, s.Holds c → P c.entity

theorem holdsOnly_empty (P : Entity → Prop) : empty.HoldsOnly P := by
  rintro c (retired | ⟨id, live⟩)
  · exact absurd retired List.not_mem_nil
  · rw [empty, ExtTreeMap.getElem?_empty] at live
    cases live

namespace HoldsOnly

theorem of_eq (h : s.HoldsOnly P) (live : s'.live = s.live) (retired : s'.retired = s.retired) :
    s'.HoldsOnly P := by
  intro c held
  rw [Holds, live, retired] at held
  exact h c held

theorem registerSite (h : s.HoldsOnly P) (id : SiteId) (name : String) :
    (s.registerSite id name).store.HoldsOnly P := by
  unfold Store.registerSite
  split
  · exact h
  · exact h.of_eq rfl rfl

/-- What a site held is held as retired. -/
theorem deleteSite (h : s.HoldsOnly P) (site : SiteId) : (s.deleteSite site).store.HoldsOnly P := by
  unfold Store.deleteSite
  split
  · rintro c (retired | ⟨id, live⟩)
    · rcases List.mem_append.mp retired with retired | dropped
      · exact h c (holds_of_retired retired)
      · obtain ⟨⟨id, _⟩, among, rfl⟩ := List.mem_map.mp dropped
        have live := (List.mem_filter.mp among).1
        exact h _ (holds_of_live (ExtTreeMap.mem_toList_iff_getElem?_eq_some.mp live))
    · rw [ExtTreeMap.getElem?_filter'] at live
      exact h c (holds_of_live (Option.filter_eq_some_iff.mp live).1)
  · exact h

theorem insert (h : s.HoldsOnly P) {e : Entity} (new : P e) : (s.insert e).store.HoldsOnly P := by
  unfold Store.insert
  split
  · exact h
  split
  · exact h
  dsimp only
  split
  · exact h.of_eq rfl rfl
  · rintro c (retired | ⟨id, live⟩)
    · exact h c (holds_of_retired retired)
    · rw [ExtTreeMap.getElem?_insert] at live
      split at live
      · cases live
        exact new
      · exact h c (holds_of_live live)

theorem create (h : s.HoldsOnly P) (now : Timestamp) (site : SiteId) (kind : Kind) (name : String)
    (owner : EntityId) (new : ∀ number, P (.fresh now ⟨site, number⟩ kind name owner)) :
    (s.create now site kind name owner).store.HoldsOnly P := by
  unfold Store.create
  split
  · exact h
  next record _ =>
    let number := max record.nextNumber 1
    let sites := s.sites.insert site { record with nextNumber := number + 1 }
    -- the number is reserved in the site first, which concerns no entity
    have reserved : HoldsOnly { s with sites } P := h.of_eq rfl rfl
    exact reserved.insert (new number)

theorem delete (h : s.HoldsOnly P) (id : EntityId) : (s.delete id).store.HoldsOnly P := by
  unfold Store.delete
  split
  · exact h
  next c found =>
    rintro other (retired | ⟨k, live⟩)
    · rcases List.mem_append.mp retired with retired | deleted
      · exact h other (holds_of_retired retired)
      · rw [List.mem_singleton.mp deleted]
        exact h c (holds_of_live found)
    · rw [ExtTreeMap.getElem?_erase] at live
      split at live
      · cases live
      · exact h other (holds_of_live live)

theorem loadEntities (h : s.HoldsOnly P) {entities : List Entity} (new : ∀ e ∈ entities, P e) :
    (s.loadEntities entities).store.HoldsOnly P :=
  loadEntities_keeps (R := fun s s' _ => s.HoldsOnly P → s'.HoldsOnly P) (fun _ h => h)
    (fun first later h => later (first h)) (fun _ e among h => h.insert (new e among)) s h

theorem load (h : s.HoldsOnly P) {snapshot : Snapshot} (new : ∀ e ∈ snapshot.entities, P e) :
    (s.load snapshot).store.HoldsOnly P := by
  obtain ⟨live, retired⟩ := s.loadSites_eq snapshot.sites
  exact (h.of_eq live retired).loadEntities new

/-- An edit puts what it makes of an entity in the place of that one, stored or retired. -/
theorem edit (h : s.HoldsOnly P) (now : Timestamp) (handle : Handle) {steps : List Draft.Step}
    (keeps : ∀ e, P e → P ((Draft.ofEntity e).run now steps).1.entity) :
    (s.edit now handle steps).store.HoldsOnly P := by
  unfold Store.edit
  split
  · exact h
  next e read =>
    obtain ⟨old, held, rfl⟩ := holds_of_read? read
    have edited := keeps old.entity (h old held)
    dsimp only
    unfold write
    split
    -- the handle names what is stored under its id now
    · rintro c (retired | ⟨id, live⟩)
      · exact h c (holds_of_retired retired)
      · rw [ExtTreeMap.getElem?_insert] at live
        split at live
        · cases live
          exact edited
        · exact h c (holds_of_live live)
    -- the handle names a retired entity
    · rintro c (retired | ⟨id, live⟩)
      · obtain ⟨before, among, rfl⟩ := List.mem_map.mp retired
        split
        · exact edited
        · exact h before (holds_of_retired among)
      · exact h c (holds_of_live live)

end HoldsOnly

end Store

/-! ### Runs -/

/-- Whether entities that a command brings in have a property, and those that it edits keep it. -/
def Command.Preserves (P : Entity → Prop) : Command → Prop
  | .create now site kind name owner => ∀ number, P (.fresh now ⟨site, number⟩ kind name owner)
  | .insert e => P e
  | .load snapshot => ∀ e ∈ snapshot.entities, P e
  | .edit now _ steps => ∀ e, P e → P ((Draft.ofEntity e).run now steps).1.entity
  | _ => True

/-- Whether a command brings a whole record. -/
def Command.Brings : Command → Route → Permissions → Prop
  | .insert e, .stored, p => e.HasRecord p
  | .load snapshot, .loaded, p => ∃ e ∈ snapshot.entities, e.HasRecord p
  | .edit _ _ steps, route, p => ∃ edit, .edit edit ∈ steps ∧ edit.Brings route p
  | _, _, _ => False

theorem Command.brings_insert_iff {e : Entity} {route : Route} {p : Permissions} :
    (insert e).Brings route p ↔ route = .stored ∧ e.HasRecord p := by
  cases route <;> simp [Brings]

theorem Command.brings_load_iff {snapshot : Snapshot} {route : Route} {p : Permissions} :
    (load snapshot).Brings route p ↔
      route = .loaded ∧ ∃ e ∈ snapshot.entities, e.HasRecord p := by
  cases route <;> simp [Brings]

/-- A command that brings sound records keeps entities sound. -/
theorem Command.preserves_sound {c : Command} (brought : ∀ route p, c.Brings route p → p.Sound) :
    c.Preserves Entity.Sound := by
  cases c
  case create now site kind name owner =>
    exact fun number => Entity.sound_fresh now ⟨site, number⟩ kind name owner
  case insert e => exact brought .stored
  case load snapshot => exact fun e among p there => brought .loaded p ⟨e, among, there⟩
  case edit now handle steps =>
    intro e sound
    refine Draft.sound_run (d := .ofEntity e) sound now fun edit among route p brings => ?_
    exact brought route p ⟨edit, among, brings⟩
  all_goals trivial

namespace World

variable {w : World} {c : Command} {commands : List Command} {P : Entity → Prop}

theorem holdsOnly_perform (h : w.store.HoldsOnly P) (preserves : c.Preserves P) :
    (w.perform c).store.HoldsOnly P := by
  cases c
  case createSite name => exact h.of_eq rfl rfl
  case registerSite id name => exact h.registerSite id name
  case deleteSite id => exact h.deleteSite id
  case create now site kind name owner => exact h.create now site kind name owner preserves
  case insert e => exact h.insert preserves
  case delete id => exact h.delete id
  case load snapshot => exact h.load preserves
  case edit now handle steps => exact h.edit now handle preserves
  -- the other commands leave the store alone
  all_goals
    rw [store_perform rfl]
    exact h

/-- What every command of a run preserves holds of every entity after the run. -/
theorem holdsOnly_run (h : w.store.HoldsOnly P) (preserve : ∀ c ∈ commands, c.Preserves P) :
    (w.run commands).store.HoldsOnly P := by
  induction commands generalizing w with
  | nil => exact h
  | cons c commands ih =>
    obtain ⟨first, later⟩ := List.forall_mem_cons.mp preserve
    exact ih (holdsOnly_perform h first) later

/-- A lamp with a given record. -/
def lampUnder (p : Permissions) : Entity :=
  { Entity.fresh .epoch ⟨2, 1⟩ .thing "lamp" .none with permissions := p }

/-- Commands by which a record reaches a new world. -/
def arrival (p : Permissions) : Route → List Command
  | .stored => [.registerSite 2 "main", .insert (lampUnder p)]
  | .loaded => [.load ⟨[⟨2, "main", 1⟩], [lampUnder p]⟩]
  | .replaced =>
    [.registerSite 2 "main", .create .epoch 2 .thing "lamp" .none,
      .edit .epoch ⟨⟨2, 1⟩, 0⟩ [.edit (.setPermissions p)]]
  | .attached =>
    [.registerSite 2 "main", .create .epoch 2 .thing "lamp" .none,
      .edit .epoch ⟨⟨2, 1⟩, 0⟩
        [.edit (.setApplication "chess" { owner := .none, permissions := p })]]

/-- Whatever the record, the store then holds it. -/
theorem hasRecord_arrival (p : Permissions) (route : Route) :
    ∃ c, ((start true {} []).run (arrival p route)).store.Holds c ∧ c.entity.HasRecord p := by
  suffices there : ∃ c,
      ((start true {} []).run (arrival p route)).store.live[(⟨2, 1⟩ : EntityId)]? = some c ∧
        c.entity.HasRecord p by
    obtain ⟨c, stored, has⟩ := there
    exact ⟨c, Store.holds_of_live stored, has⟩
  cases route with
  | stored => exact ⟨_, rfl, Or.inl rfl⟩
  | loaded => exact ⟨_, rfl, Or.inl rfl⟩
  | replaced => exact ⟨_, rfl, Or.inl rfl⟩
  | attached => exact ⟨_, rfl, Or.inr ⟨"chess", _, rfl, rfl⟩⟩

theorem eq_of_hasRecord_lampUnder {p q : Permissions} (has : (lampUnder p).HasRecord q) :
    q = p := by
  rcases has with own | ⟨name, application, there, _⟩
  · exact own
  · rw [lampUnder, Entity.fresh, ExtTreeMap.getElem?_empty] at there
    cases there

/-- It is the only record that reaches the store, and it does so on the given route. -/
theorem brings_arrival {p q : Permissions} {route route' : Route} (among : c ∈ arrival p route)
    (brings : c.Brings route' q) : route' = route ∧ q = p := by
  -- in each of the four runs the other commands bring nothing
  cases route with
  | stored =>
    simp only [arrival, List.mem_cons, List.not_mem_nil, or_false] at among
    rcases among with rfl | rfl
    · exact brings.elim
    · obtain ⟨rfl, has⟩ := Command.brings_insert_iff.mp brings
      exact ⟨rfl, eq_of_hasRecord_lampUnder has⟩
  | loaded =>
    obtain rfl := List.mem_singleton.mp among
    obtain ⟨rfl, e, stored, has⟩ := Command.brings_load_iff.mp brings
    obtain rfl := List.mem_singleton.mp stored
    exact ⟨rfl, eq_of_hasRecord_lampUnder has⟩
  | replaced =>
    simp only [arrival, List.mem_cons, List.not_mem_nil, or_false] at among
    rcases among with rfl | rfl | rfl
    · exact brings.elim
    · exact brings.elim
    · obtain ⟨edit, step, brings⟩ := brings
      cases List.mem_singleton.mp step
      exact Edit.brings_setPermissions_iff.mp brings
  | attached =>
    simp only [arrival, List.mem_cons, List.not_mem_nil, or_false] at among
    rcases among with rfl | rfl | rfl
    · exact brings.elim
    · exact brings.elim
    · obtain ⟨edit, step, brings⟩ := brings
      cases List.mem_singleton.mp step
      exact Edit.brings_setApplication_iff.mp brings

/-- Suppose that on each route only records of some sort reach the store whole. Then every record of
every entity is sound after every run if and only if all records of these sorts are. -/
theorem sound_records_iff (allowed : Route → Permissions → Prop) :
    (∀ withBus config extras commands,
        (∀ c ∈ commands, ∀ route p, c.Brings route p → allowed route p) →
        ((start withBus config extras).run commands).store.HoldsOnly Entity.Sound) ↔
      ∀ route p, allowed route p → p.Sound := by
  constructor
  · intro sound route p allowed
    obtain ⟨c, held, has⟩ := hasRecord_arrival p route
    refine sound _ _ _ _ (fun c among route' q brings => ?_) c held p has
    obtain ⟨rfl, rfl⟩ := brings_arrival among brings
    exact allowed
  · intro sound withBus config extras commands brought
    refine holdsOnly_run (Store.holdsOnly_empty _) fun c among => ?_
    refine Command.preserves_sound fun route p brings => ?_
    exact sound route p (brought c among route p brings)

/-- A saved entity whose record has one id in both lists. -/
def twiceListed : String :=
  "\x7b\"entities\":[\x7b\"id\":\x7b\"site_id\":2,\"entity_id\":1\x7d,\"entity_type\":\"thing\","
    ++ "\"name\":\"lamp\",\"owner\":\x7b\"site_id\":0,\"entity_id\":0\x7d,"
    ++ "\"security\":\x7b\"admin_ids\":[\x7b\"site_id\":2,\"entity_id\":5\x7d],"
    ++ "\"list_ids\":[\x7b\"site_id\":2,\"entity_id\":5\x7d]\x7d\x7d]\x7d"

/-- It is read and loaded, and the store then holds the record as it was saved. -/
theorem twiceListed_lapse :
    ∃ snapshot, Wire.ofText? Snapshot.ofJson? .epoch twiceListed = some snapshot ∧
      ∃ e, ((start true {} []).run [.registerSite 2 "main", .load snapshot]).store.entity? ⟨2, 1⟩ =
          some e ∧
        e.permissions.admins = [⟨2, 5⟩] ∧ e.permissions.listed = [⟨2, 5⟩] ∧
        ¬ e.permissions.Sound := by
  have found : ((Wire.ofText? Snapshot.ofJson? .epoch twiceListed).bind fun snapshot =>
      (((start true {} []).run [.registerSite 2 "main", .load snapshot]).store.entity?
        ⟨2, 1⟩).map (·.permissions)) =
      some { admins := [⟨2, 5⟩], listed := [⟨2, 5⟩] } := by
    decide +kernel
  obtain ⟨snapshot, read, there⟩ := Option.bind_eq_some_iff.mp found
  obtain ⟨e, stored, record⟩ := Option.map_eq_some_iff.mp there
  exact ⟨snapshot, read, e, stored, by rw [record], by rw [record], by rw [record]; decide⟩

end World

end WorldAccess
