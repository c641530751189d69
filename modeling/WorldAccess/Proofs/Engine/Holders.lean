import WorldAccess.Proofs.Engine.AdminOverride
import WorldAccess.Proofs.World.Steps

/-!
# Who holds a capability

A session is found to hold a capability by going through names, lists and members. What it comes to
is said here of the store alone. In a site a capability is conferred by the one entity that backs
it, if there is just one: on the enabled members of that entity, and on the enabled members of those
among them that are groups. Groups within those groups confer nothing. It does not matter in what
order sites, lists and capabilities are asked for, nor what the lists are kept in.

## Main definitions

* `Store.Enrols`, `Store.Confers` — members, and members of members
* `Session.Acts` — the ids in whose name a session asks

## Main results

* `GrantLists.resolve_of_solelyBacks` — what is resolved for a capability that is backed
* `Engine.has_grantAll` — the capabilities that are added
* `Engine.has_populate_iff` — who holds a capability
-/

namespace WorldAccess

open Std

/-! ### Members, and members of members -/

namespace Store

variable {s : Store} {site : SiteId} {c : Capability} {group backing id : EntityId}

/-- Whether an id is an enabled member of the entity stored under another. -/
def Enrols (s : Store) (group member : EntityId) : Prop :=
  ∃ e r, s.entity? group = some e ∧ e.group = some r ∧ member ∈ r.members ∧ member ∉ r.disabled

/-- Whether what the entity stored under an id backs reaches an actor: through the entity itself, or
through one stored group that is a member of it. -/
def Confers (s : Store) (backing actor : EntityId) : Prop :=
  s.Enrols backing actor ∨
    ∃ group e, s.Enrols backing group ∧ s.entity? group = some e ∧ e.kind.isGroup = true ∧
      s.Enrols group actor

/-- What is stored in a well-formed store is stored under valid ids. -/
theorem WellFormed.get?_eq_entity? (wf : s.WellFormed) (id : EntityId) :
    s.get? id = s.entity? id := by
  cases stored : s.entity? id with
  | none => simp [get?, stored]
  | some e => exact wf.get?_eq stored

theorem isMember_iff_enrols (wf : s.WellFormed) {member : EntityId} :
    s.isMember group member = true ↔ s.Enrols group member := by
  rw [isMember, wf.get?_eq_entity?, Option.any_eq_true]
  apply exists_congr
  intro e
  rw [Entity.hasMember, Option.any_eq_true, exists_and_left]
  apply and_congr_right
  intro _
  apply exists_congr
  intro r
  rw [Roster.hasMember, Bool.and_eq_true, Bool.not_eq_true', ← Bool.not_eq_true,
    ExtTreeSet.contains_iff_mem, ExtTreeSet.contains_iff_mem]

theorem isGroup_iff (wf : s.WellFormed) :
    s.isGroup id = true ↔ ∃ e, s.entity? id = some e ∧ e.kind.isGroup = true := by
  rw [isGroup, wf.get?_eq_entity?, Option.any_eq_true]

/-- No two entities of a site have the same id. -/
theorem pairwise_inSite (wf : s.WellFormed) (site : SiteId) :
    (s.inSite site).Pairwise fun a b => a.id ≠ b.id := by
  rw [inSite, List.pairwise_map]
  apply List.Pairwise.filter
  apply List.Pairwise.imp_of_mem _ s.live.distinct_keys_toList
  intro a b ha hb apart same
  have ha' : a.2.entity.id = a.1 := wf.own _ _ (ExtTreeMap.mem_toList_iff_getElem?_eq_some.mp ha)
  have hb' : b.2.entity.id = b.1 := wf.own _ _ (ExtTreeMap.mem_toList_iff_getElem?_eq_some.mp hb)
  rw [ha', hb'] at same
  exact apart (Std.compare_eq_iff_eq.mpr same)

theorem nodup_find (wf : s.WellFormed) (site : SiteId) (kind : Option Kind) (name : String)
    (exact : Bool) : (s.find site kind name exact).Nodup := by
  unfold find
  dsimp only
  split
  · exact List.nodup_nil
  · exact List.pairwise_map.mpr (List.Pairwise.filter _ (pairwise_inSite wf site))

/-- An entity alone backs a capability if it is all that the search for the name finds. -/
theorem solelyBacks_iff (wf : s.WellFormed) :
    s.SolelyBacks site c backing ↔
      s.find site (some .capability) c.entityName true = [backing] := by
  constructor
  · intro sole
    apply List.perm_singleton.mp
    apply (List.perm_ext_iff_of_nodup (nodup_find wf _ _ _ _) (List.pairwise_singleton _ _)).mpr
    intro id
    rw [mem_find_iff wf, List.mem_singleton]
    constructor
    · exact sole.2 id
    · intro same
      exact same ▸ sole.1
  · intro found
    have backs : ∀ id, s.Backs site c id ↔ id = backing := by
      intro id
      rw [← mem_find_iff wf, found, List.mem_singleton]
    exact ⟨(backs backing).mpr rfl, fun other => (backs other).mp⟩

end Store

namespace GrantLists

variable {s : Store} {site : SiteId} {c : Capability} {backing : EntityId}

/-- What is resolved for a capability that one entity backs: that entity, and those of its enabled
members that are groups. -/
theorem resolve_of_solelyBacks (wf : s.WellFormed) (sole : s.SolelyBacks site c backing) :
    ∃ e, s.entity? backing = some e ∧
      resolve s site c = backing :: ((e.group.map (·.enabled)).getD []).filter s.isGroup := by
  obtain ⟨e, stored, _⟩ := sole.1
  refine ⟨e, stored, ?_⟩
  rw [resolve, (Store.solelyBacks_iff wf).mp sole]
  dsimp only
  rw [wf.get?_eq stored]

/-- A resolved list names a group of some sort iff one entity backs the capability, and it or a
group among its enabled members is of that sort. -/
theorem resolve_any_iff (wf : s.WellFormed) (p : EntityId → Bool) :
    (resolve s site c).any p = true ↔
      ∃ backing, s.SolelyBacks site c backing ∧
        (p backing = true ∨
          ∃ group, s.Enrols backing group ∧ s.isGroup group = true ∧ p group = true) := by
  have members : ∀ {backing : EntityId} {e : Entity}, s.entity? backing = some e →
      ∀ group, group ∈ (e.group.map (·.enabled)).getD [] ↔ s.Enrols backing group :=
    fun stored group => (Store.isMember_iff wf stored).symm.trans (Store.isMember_iff_enrols wf)
  constructor
  · intro found
    cases resolved : resolve s site c with
    | nil => simp [resolved] at found
    | cons head tail =>
      -- a list has a first entry only where it was resolved to an entity that backs it alone
      have sole := resolve_sole wf resolved
      obtain ⟨e, stored, same⟩ := resolve_of_solelyBacks wf sole
      rw [same, List.any_cons, Bool.or_eq_true, List.any_eq_true] at found
      refine ⟨head, sole, found.imp id ?_⟩
      rintro ⟨group, listed, hit⟩
      obtain ⟨member, isGroup⟩ := List.mem_filter.mp listed
      exact ⟨group, (members stored group).mp member, isGroup, hit⟩
  · rintro ⟨backing, sole, found⟩
    obtain ⟨e, stored, same⟩ := resolve_of_solelyBacks wf sole
    rw [same, List.any_cons, Bool.or_eq_true, List.any_eq_true]
    refine found.imp id ?_
    rintro ⟨group, member, isGroup, hit⟩
    exact ⟨group, List.mem_filter.mpr ⟨(members stored group).mpr member, isGroup⟩, hit⟩

end GrantLists

/-! ### Sessions -/

/-- The ids in whose name a session asks: the requester's, and the program's where there is one. -/
def Session.Acts (s : Session) (actor : EntityId) : Prop :=
  actor = s.requester ∨ s.program.isValid = true ∧ actor = s.program

namespace Engine

open GrantLists

variable {store : Store} {s : Session} {e : Engine}

theorem exists_acts_iff {p : EntityId → Prop} :
    (∃ actor, s.Acts actor ∧ p actor) ↔
      p s.requester ∨ s.program.isValid = true ∧ p s.program := by
  simp only [Session.Acts, or_and_right, exists_or, exists_eq_left, and_assoc, exists_and_left]

theorem isBackedBy_iff (wf : store.WellFormed) (s : Session) (group : EntityId) :
    isBackedBy store s group = true ↔ ∃ actor, s.Acts actor ∧ store.Enrols group actor := by
  rw [exists_acts_iff, isBackedBy, Bool.or_eq_true, Bool.and_eq_true,
    Store.isMember_iff_enrols wf, Store.isMember_iff_enrols wf]

theorem isImplicitAdmin_iff :
    e.isImplicitAdmin s = true ↔ ∃ actor, s.Acts actor ∧ actor ∈ e.config.implicitAdmins := by
  rw [exists_acts_iff, isImplicitAdmin, Bool.or_eq_true, Bool.and_eq_true, Config.isImplicitAdmin,
    Config.isImplicitAdmin, List.contains_iff_mem, List.contains_iff_mem]

/-- A site is asked for a session's capabilities if it is the requester's or the global one. -/
theorem mem_grantSites {site : SiteId} :
    site ∈ e.grantSites s ↔ site = s.requester.site ∨ site = e.config.globalSite := by
  rw [grantSites, List.mem_cons]
  split
  next same => simp [same]
  next => rw [List.mem_singleton]

/-- A new engine has no grant lists yet, so it answers with what the store calls for. -/
theorem heldIn_new_iff (wf : store.WellFormed) (s : Session) (c : Capability)
    (sites : List SiteId) :
    (heldIn store s c sites {}).2 = true ↔
      ∃ site backing actor, site ∈ sites ∧ store.SolelyBacks site c backing ∧ s.Acts actor ∧
        store.Confers backing actor := by
  rw [heldIn_snd, List.any_eq_true]
  apply exists_congr
  intro site
  rw [groupsFor_snd, kept_empty, List.isEmpty_nil, if_pos rfl, resolve_any_iff wf]
  simp only [isBackedBy_iff wf, Store.isGroup_iff wf]
  constructor
  · rintro ⟨asked, backing, sole, ⟨actor, acts, direct⟩ |
      ⟨group, member, ⟨e, stored, isGroup⟩, actor, acts, inner⟩⟩
    · exact ⟨backing, actor, asked, sole, acts, Or.inl direct⟩
    · exact ⟨backing, actor, asked, sole, acts, Or.inr ⟨group, e, member, stored, isGroup, inner⟩⟩
  · rintro ⟨backing, actor, asked, sole, acts, direct | ⟨group, e, member, stored, isGroup, inner⟩⟩
    · exact ⟨asked, backing, sole, Or.inl ⟨actor, acts, direct⟩⟩
    · exact ⟨asked, backing, sole, Or.inr ⟨group, member, ⟨e, stored, isGroup⟩, actor, acts, inner⟩⟩

/-- Whether a capability is held does not hang on what else is. -/
theorem heldIn_grant (store : Store) (s : Session) (c d : Capability) (sites : List SiteId)
    (g : GrantLists) : (heldIn store (s.grant d) c sites g).2 = (heldIn store s c sites g).2 := by
  rw [heldIn_snd, heldIn_snd]
  rfl

/-- Nor does it hang on which lists have been asked for before. -/
theorem heldIn_heldIn (store : Store) (s : Session) (c d : Capability) (sites : List SiteId)
    (g : GrantLists) :
    (heldIn store s c sites (heldIn store s d sites g).1).2 = (heldIn store s c sites g).2 :=
  heldIn_congr (sameAnswers_heldIn store s d sites g) (.refl s) c sites

/-- Going through capabilities adds those that are held, and no others. -/
theorem has_grantAll (store : Store) (sites : List SiteId) (cs : List Capability) (g : GrantLists)
    (s : Session) (c : Capability) :
    (grantAll store sites cs g s).2.has c =
      (s.has c || cs.contains c && (heldIn store s c sites g).2) := by
  -- the induction is on the capabilities; lists get filled and capabilities added on the way
  induction cs generalizing g s with
  | nil => simp [grantAll]
  | cons d cs ih =>
    rw [grantAll, List.contains_cons]
    split
    next present =>
      rw [ih]
      by_cases same : c = d
      · rw [same, present, Bool.true_or, Bool.true_or]
      · rw [beq_eq_false_iff_ne.mpr same, Bool.false_or]
    next lacking =>
      dsimp only
      by_cases held : (heldIn store s d sites g).2 = true
      · rw [if_pos held, ih, Session.has_grant, heldIn_grant, heldIn_heldIn]
        by_cases same : c = d
        · simp [same, held]
        · rw [beq_eq_false_iff_ne.mpr same, beq_eq_false_iff_ne.mpr (Ne.symm same), Bool.false_or,
            Bool.false_or]
      · rw [if_neg held, ih, heldIn_heldIn]
        by_cases same : c = d
        · simp [same, held]
        · rw [beq_eq_false_iff_ne.mpr same, Bool.false_or]

/-- Who holds a capability. A new engine finds that a new session of a requester, and of a program
that may act for them, holds a capability in two cases only. The capability is that of admins, and
one who asks is an admin by configuration. Or in the requester's site or in the global one there is
exactly one capability entity of its name that is not marked deleted, and one who asks is an enabled
member of that entity, or of a stored group that is an enabled member of it. -/
theorem has_populate_iff {L : Type} {w : World} (reachable : w.Reachable) (config : Config)
    (extras : List (Operation × Checker)) (bus : Option (Bus L)) (me : L)
    (requester program : EntityId) (runsAsRequester : Bool) (process : Option UInt64)
    (c : Capability) :
    let s : Session := { Session.start requester program runsAsRequester with process }
    ((start config extras bus me).1.populate w.store s).2.has c = true ↔
      (c = .admin ∧ ∃ actor, s.Acts actor ∧ actor ∈ config.implicitAdmins) ∨
        ∃ site backing actor, (site = requester.site ∨ site = config.globalSite) ∧
          w.store.SolelyBacks site c backing ∧ s.Acts actor ∧ w.store.Confers backing actor := by
  intro s
  have wf := reachable.wellFormed
  -- a bus adds a watch to the engine and nothing else
  obtain ⟨settings, empty⟩ : (start config extras bus me).1.config = config ∧
      (start config extras bus me).1.grants = {} := by cases bus <;> exact ⟨rfl, rfl⟩
  generalize (start config extras bus me).1 = e at settings empty ⊢
  subst settings
  have implicit : e.isImplicitAdmin s = true ↔
      ∃ actor, s.Acts actor ∧ actor ∈ e.config.implicitAdmins := isImplicitAdmin_iff
  have found := heldIn_new_iff wf s c (e.grantSites s)
  simp only [mem_grantSites] at found
  rw [← implicit]
  refine Iff.trans ?_ (or_congr Iff.rfl found)
  have all : Capability.all.contains c = true := List.contains_iff_mem.mpr (Capability.mem_all c)
  have none : s.has c = false := by simp [s, Session.start, Session.has]
  rw [populate, if_neg (show ¬ s.populated = true from Bool.false_ne_true), empty]
  dsimp only
  rw [Session.has]
  dsimp only
  -- an implicit admin has one capability before the lists are asked, and it is not asked for again
  rw [← Session.has, has_grantAll, all, Bool.true_and, Bool.or_eq_true]
  by_cases admin : e.isImplicitAdmin s = true
  · rw [if_pos admin, Session.has_grant, none, Bool.or_false, beq_iff_eq, heldIn_grant,
      eq_comm (a := Capability.admin)]
    exact or_congr (and_iff_left admin).symm Iff.rfl
  · rw [if_neg admin, none]
    exact or_congr (by simp [admin]) Iff.rfl

/-- A run in which the masons become members of the capability entity of builders, a player becomes
a mason, and an apprentice becomes a member of the player. -/
def masonsRun : List Command :=
  [.registerSite 2 "main",
    .create .epoch 2 .player "smith" .none,
    .create .epoch 2 .capability "BUILDER" .none,
    .create .epoch 2 .group "masons" .none,
    .create .epoch 2 .group "apprentices" .none,
    .create .epoch 2 .player "novice" .none,
    .edit .epoch ⟨⟨2, 2⟩, 1⟩ [.edit (.addMember ⟨2, 3⟩)],
    .edit .epoch ⟨⟨2, 3⟩, 2⟩ [.edit (.addMember ⟨2, 1⟩), .edit (.addMember ⟨2, 4⟩)],
    .edit .epoch ⟨⟨2, 4⟩, 3⟩ [.edit (.addMember ⟨2, 5⟩)]]

/-- The world after that run. -/
def masonsWorld : World := (World.start true {} []).run masonsRun

theorem reachable_masonsWorld : masonsWorld.Reachable := ⟨true, {}, [], masonsRun, rfl⟩

theorem has_populate_iff_masons :
    masonsWorld.Reachable ∧
      ((start {} [] masonsWorld.bus .engine).1.populate masonsWorld.store
        (.forRequester ⟨2, 1⟩)).2.has .builder = true ∧
      ¬ ∃ site backing actor, (site = 2 ∨ site = 1) ∧
        masonsWorld.store.SolelyBacks site .builder backing ∧
        (Session.forRequester ⟨2, 5⟩).Acts actor ∧ masonsWorld.store.Confers backing actor := by
  have wf := reachable_masonsWorld.wellFormed
  refine ⟨reachable_masonsWorld, ?_, ?_⟩
  · -- the masons are a group among the members of the entity that backs the capability
    apply (has_populate_iff reachable_masonsWorld {} [] masonsWorld.bus .engine ⟨2, 1⟩ .none true
      none .builder).mpr
    have sole : masonsWorld.store.SolelyBacks 2 .builder ⟨2, 2⟩ :=
      (Store.solelyBacks_iff wf).mpr (by decide +kernel)
    have enrols : ∀ group member : EntityId, masonsWorld.store.isMember group member = true →
        masonsWorld.store.Enrols group member := fun _ _ => (Store.isMember_iff_enrols wf).mp
    have group : masonsWorld.store.isGroup ⟨2, 3⟩ = true := by decide +kernel
    obtain ⟨e, stored, isGroup⟩ := (Store.isGroup_iff wf).mp group
    exact Or.inr ⟨2, ⟨2, 2⟩, ⟨2, 1⟩, Or.inl rfl, sole, Or.inl rfl,
      Or.inr ⟨⟨2, 3⟩, e, enrols _ _ (by decide +kernel), stored, isGroup,
        enrols _ _ (by decide +kernel)⟩⟩
  · -- the novice is a member of a group within that group
    intro conferred
    have held := (has_populate_iff reachable_masonsWorld {} [] masonsWorld.bus .engine ⟨2, 5⟩ .none
      true none .builder).mpr (Or.inr conferred)
    revert held
    decide +kernel

end Engine

end WorldAccess
