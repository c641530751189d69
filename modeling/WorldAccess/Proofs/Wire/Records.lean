import WorldAccess.Proofs.Entity.Rights
import WorldAccess.Proofs.Json.Spread
import WorldAccess.Proofs.Time.Timestamp
import WorldAccess.Proofs.Wire.Values
import WorldAccess.Wire.Text

/-!
# Saved snapshots are read back

Every record is read back from the object it is saved as, whatever its texts, words and rights are
and whichever of its optional parts it has. Two things have to be kept apart. A floating-point
number is written with the fewest digits that tell it from its neighbours, which is a matter of
their own; here no value is one. And a lock is read as a whole before it is known which lock it is,
so that it may not lie too deep.

## Main definitions

* `Property.isFloat`, `Lock.isFloatFree`, `Application.isFloatFree`, `Entity.isFloatFree` — where
  floating-point numbers may be

## Main results

* `Wire.tagged?_record` — a tagged form is told by its tag
* `Lock.ofJson?_toJson`, `Entity.ofJson?_toJson` — locks and entities
* `Snapshot.ofText?_pretty` — a snapshot is read back from its text
* `Store.loadText_saveText` — a saved store is loaded as its snapshot is
-/

namespace WorldAccess

open Std Wire Decimal

/-! ### Ids and words -/

theorem Wire.required?_some {α : Type} {d : Decoder α} {r : Reading} {j : Json} {a : α}
    (h : d r j = some a) : required? d r (some j) = some a := h

theorem Wire.uint32?_nat (r : Reading) (n : UInt32) : uint32? r (.nat n.toNat) = some n := by
  have low : n.toNat ≤ Text.max32 := Nat.le_of_lt_succ n.toNat_lt
  rw [uint32?, nat?_nat low, Option.map_some]
  exact congrArg some UInt32.ofNat_toNat

theorem Wire.uint64?_nat (r : Reading) (n : UInt64) : uint64? r (.nat n.toNat) = some n := by
  have low : n.toNat ≤ Text.max64 := Nat.le_of_lt_succ n.toNat_lt
  rw [uint64?, nat?_nat low, Option.map_some]
  exact congrArg some UInt64.ofNat_toNat

theorem EntityId.ofJson?_toJson (r : Reading) (id : EntityId) :
    EntityId.ofJson? r id.toJson = some id := by
  rw [ofJson?, toJson, record?_record]
  · simp [required?, uint32?_nat, uint64?_nat]
  · rfl
  · decide

theorem EntityId.isPlain_toJson (id : EntityId) : id.toJson.IsPlain := by
  apply Json.isPlain_record
  simp [Json.isPlain_nat]

theorem Wire.list?_ids (r : Reading) (values : List EntityId) :
    list? EntityId.ofJson? r (ids values) = some values :=
  list?_list fun id _ => EntityId.ofJson?_toJson r.inside id

theorem Wire.set?_ids (r : Reading) (set : IdSet) :
    set? EntityId.ofJson? r (ids set.toList) = some set :=
  set?_list fun id _ => EntityId.ofJson?_toJson r.inside id

theorem Wire.isPlain_ids (values : List EntityId) : (ids values).IsPlain :=
  Json.isPlain_list EntityId.isPlain_toJson values

theorem Wire.text?_text (r : Reading) (s : String) : text? r (.text s) = some s := rfl

theorem Wire.bool?_bool (r : Reading) (b : Bool) : bool? r (.bool b) = some b := rfl

theorem Wire.list?_texts (r : Reading) (values : List String) :
    list? text? r (.list .text values) = some values := list?_list fun _ _ => rfl

theorem Kind.ofJson?_word (r : Reading) (k : Kind) : Kind.ofJson? r (.text k.word) = some k := by
  cases k <;> rfl

/-! ### Permissions -/

theorem Rights.ofJson?_toJson (r : Reading) (x : Rights) : Rights.ofJson? r x.toJson = some x :=
  x.parse?_render

theorem Permissions.ofJson?_toJson (r : Reading) (p : Permissions) :
    Permissions.ofJson? r p.toJson = some p := by
  rw [ofJson?, toJson, record?_record]
  · simp [optional?, Rights.ofJson?_toJson, list?_ids]
  · rfl
  · decide

theorem Permissions.isPlain_toJson (p : Permissions) : p.toJson.IsPlain := by
  apply Json.isPlain_record
  simp [Rights.toJson, Json.isPlain_text, isPlain_ids]

/-! ### Properties -/

namespace Property

/-- Whether a value is a floating-point number. -/
def isFloat : Property → Bool
  | .float _ => true
  | _ => false

/-- A value is read by the type in front of it. -/
theorem ofJson?_record (r : Reading) (kind : PropertyKind) (j : Json) :
    Property.ofJson? r (.record [("kind", .text kind.word), ("value", j)]) =
      valueOf? kind r.inside j := by
  have word : word? PropertyKind.all PropertyKind.word r.inside (.text kind.word) = some kind := by
    cases kind <;> rfl
  have members : record? ["kind", "value"] (.record [("kind", .text kind.word), ("value", j)]) =
      some [some (.text kind.word), some j] := record?_record rfl (by decide)
  rw [ofJson?, members]
  · exact congrArg (fun kind => kind.bind fun kind => valueOf? kind r.inside j) word
  · rintro _ ⟨⟩

theorem ofJson?_toJson (r : Reading) {p : Property} (floatFree : p.isFloat = false) :
    Property.ofJson? r p.toJson = some p := by
  cases p
  case float x => cases floatFree
  all_goals
    rw [toJson, ofJson?_record]
  case text s => rfl
  case integer i => exact congrArg (Option.map Property.integer) (Numeral.integer?_ofInt i)
  case boolean b => rfl
  case id i => exact congrArg (Option.map Property.id) (EntityId.ofJson?_toJson r.inside i)

theorem isPlain_toJson {p : Property} (floatFree : p.isFloat = false) : p.toJson.IsPlain := by
  cases p
  case float x => cases floatFree
  all_goals
    apply Json.isPlain_record
    simp [Json.isPlain_text]
  case integer i => exact Numeral.isInteger_ofInt i.toInt
  case boolean b => trivial
  case id i => exact i.isPlain_toJson

end Property

namespace Application

/-- Whether no property is a floating-point number. -/
def isFloatFree (a : Application) : Bool :=
  a.properties.toList.all fun entry => !entry.2.isFloat

theorem isFloat_of_isFloatFree {a : Application} (floatFree : a.isFloatFree = true) {key : String}
    {p : Property} (stored : a.properties[key]? = some p) : p.isFloat = false := by
  have listed := List.all_eq_true.mp floatFree (key, p)
    (ExtTreeMap.mem_toList_iff_getElem?_eq_some.mpr stored)
  simpa using listed

theorem ofJson?_toJson (r : Reading) {a : Application} (floatFree : a.isFloatFree = true) :
    Application.ofJson? r a.toJson = some a := by
  have properties : map? Property.ofJson? r.inside (.record (a.properties.toList.map fun entry =>
      (entry.1, entry.2.toJson))) = some a.properties := by
    apply map?_record
    intro key p stored
    exact Property.ofJson?_toJson _ (isFloat_of_isFloatFree floatFree stored)
  rw [ofJson?, toJson, record?_record]
  · simp [required?, optional?, EntityId.ofJson?_toJson, Permissions.ofJson?_toJson, properties]
  · rfl
  · decide

theorem isPlain_toJson {a : Application} (floatFree : a.isFloatFree = true) : a.toJson.IsPlain := by
  have properties : (Json.record (a.properties.toList.map fun entry =>
      (entry.1, entry.2.toJson))).IsPlain := by
    apply Json.isPlain_record
    intro m among
    obtain ⟨⟨key, p⟩, listed, rfl⟩ := List.mem_map.mp among
    exact Property.isPlain_toJson
      (isFloat_of_isFloatFree floatFree (ExtTreeMap.mem_toList_iff_getElem?_eq_some.mp listed))
  apply Json.isPlain_record
  simp [EntityId.isPlain_toJson, Permissions.isPlain_toJson, properties]

end Application

/-! ### Locks -/

/-- A form is told by its tag where it can be read as a whole and nothing else is named like it. -/
theorem Wire.tagged?_record {r r' : Reading} {tag word : String} {members : List (String × Json)}
    (whole : whole? r (.record ((tag, .text word) :: members)) = some r')
    (apart : tag ∉ members.map Prod.fst) :
    tagged? tag r (.record ((tag, .text word) :: members)) =
      some (r', word, .record members) := by
  have others : ∀ m ∈ members.map (fun m => (some m.1, m.2)), (m.1 == some tag) = false := by
    intro m among
    obtain ⟨m, there, rfl⟩ := List.mem_map.mp among
    rw [Option.some_beq_some, beq_eq_false_iff_ne]
    rintro rfl
    exact apart (List.mem_map_of_mem there)
  have none : (members.map fun m => (some m.1, m.2)).filter (fun m => m.1 == some tag) = [] :=
    List.filter_eq_nil_iff.mpr fun m among => by simp [others m among]
  have all : (members.map fun m => (some m.1, m.2)).filter (fun m => m.1 != some tag) =
      members.map fun m => (some m.1, m.2) :=
    List.filter_eq_self.mpr fun m among => by simp [bne, others m among]
  -- the tag is found once, and the other members are left
  rw [tagged?, whole]
  simp only [Option.bind_eq_bind, Option.bind_some, Json.record, List.map_cons]
  rw [List.filter_cons_of_pos (by simp), none, List.filter_cons_of_neg (by simp), all]
  rfl

namespace Json

theorem isSound_nat {n : Nat} (h : n ≤ Text.max64) : (nat n).isSound = true := by
  simp [nat, isSound, Numeral.isInteger64, Numeral.natural?_ofNat h]

theorem isSound_record {members : List (String × Json)} (h : ∀ m ∈ members, m.2.isSound = true) :
    (record members).isSound = true := by
  rw [record, isSound]
  induction members with
  | nil => rfl
  | cons m rest ih =>
    obtain ⟨first, later⟩ := List.forall_mem_cons.mp h
    rw [List.map_cons, membersAreSound, first, ih later]
    rfl

theorem height_record_le {members : List (String × Json)} {n : Nat}
    (h : ∀ m ∈ members, m.2.height ≤ n) : (record members).height ≤ n + 1 := by
  rw [record, height]
  apply Nat.succ_le_succ
  induction members with
  | nil => exact Nat.zero_le n
  | cons m rest ih =>
    obtain ⟨first, later⟩ := List.forall_mem_cons.mp h
    exact Nat.max_le.mpr ⟨first, ih later⟩

end Json

theorem EntityId.isSound_toJson (id : EntityId) : id.toJson.isSound = true := by
  have site : id.site.toNat ≤ Text.max64 :=
    Nat.le_trans (Nat.le_of_lt_succ id.site.toNat_lt) (by decide)
  have number : id.number.toNat ≤ Text.max64 := Nat.le_of_lt_succ id.number.toNat_lt
  apply Json.isSound_record
  simp [Json.isSound_nat site, Json.isSound_nat number]

theorem EntityId.height_toJson_le (id : EntityId) : id.toJson.height ≤ 1 := by
  apply Json.height_record_le
  simp [Json.nat, Json.height]

theorem Property.isSound_toJson {p : Property} (floatFree : p.isFloat = false) :
    p.toJson.isSound = true := by
  cases p
  case float x => cases floatFree
  all_goals
    apply Json.isSound_record
    simp [Json.text, Json.isSound, EntityId.isSound_toJson, Numeral.isInteger64,
      Numeral.integer?_ofInt]

theorem Property.height_toJson_le (p : Property) : p.toJson.height ≤ 2 := by
  cases p
  all_goals
    apply Json.height_record_le
    simp [Json.text, Json.height, EntityId.height_toJson_le]

namespace Lock

/-- Whether the lock does not compare with a floating-point number. -/
def isFloatFree : Lock → Bool
  | .byProperty _ _ value _ => !value.isFloat
  | _ => true

theorem isSound_toJson {lock : Lock} (floatFree : lock.isFloatFree = true) :
    lock.toJson.isSound = true := by
  cases lock
  case byProperty application path value negate =>
    have value := Property.isSound_toJson (Bool.not_eq_true' _ ▸ floatFree)
    apply Json.isSound_record
    simp [Json.text, Json.isSound, value]
  all_goals
    apply Json.isSound_record
    simp [Json.text, Json.isSound, EntityId.isSound_toJson]

theorem height_toJson_le (lock : Lock) : lock.toJson.height ≤ 3 := by
  have ids : ∀ id : EntityId, id.toJson.height ≤ 2 := fun id =>
    Nat.le_succ_of_le id.height_toJson_le
  cases lock
  all_goals
    apply Json.height_record_le
    simp [Json.text, Json.height, ids, Property.height_toJson_le]

/-- A lock can be read as a whole where three more levels are left. -/
theorem whole?_toJson {r : Reading} {lock : Lock} (floatFree : lock.isFloatFree = true)
    (shallow : r.depth + 3 ≤ deepest) : whole? r lock.toJson = some { r with whole := true } := by
  have fits : r.depth + lock.toJson.height ≤ deepest :=
    Nat.le_trans (Nat.add_le_add_left lock.height_toJson_le r.depth) shallow
  rw [whole?, if_pos]
  simp [isSound_toJson floatFree, fits]

theorem ofJson?_toJson {r : Reading} {lock : Lock} (floatFree : lock.isFloatFree = true)
    (shallow : r.depth + 3 ≤ deepest) : Lock.ofJson? r lock.toJson = some lock := by
  have whole := whole?_toJson floatFree shallow
  -- the kinds of locks differ in the members that are left beside the tag
  cases lock
  all_goals rw [Lock.ofJson?, toJson, tagged?_record whole (by simp)]
  case unlocked => rfl
  case byId id negate =>
    have members : record? ["id", "negate"]
        (.record [("id", id.toJson), ("negate", .bool negate)]) =
        some [some id.toJson, some (.bool negate)] := record?_record rfl (by decide)
    simp [members, required?, optional?, EntityId.ofJson?_toJson, bool?_bool]
  case byProperty application path value negate =>
    have members : record? ["application", "path", "value", "negate"]
        (.record [("application", .text application), ("path", .text path),
          ("value", value.toJson), ("negate", .bool negate)]) =
        some [some (.text application), some (.text path), some value.toJson,
          some (.bool negate)] := record?_record rfl (by decide)
    have read := Property.ofJson?_toJson { r with whole := true } (Bool.not_eq_true' _ ▸ floatFree)
    simp [members, required?, optional?, text?_text, read, bool?_bool]
  case byGroup group negate =>
    have members : record? ["group", "negate"]
        (.record [("group", group.toJson), ("negate", .bool negate)]) =
        some [some group.toJson, some (.bool negate)] := record?_record rfl (by decide)
    simp [members, required?, optional?, EntityId.ofJson?_toJson, bool?_bool]

theorem isPlain_toJson {lock : Lock} (floatFree : lock.isFloatFree = true) :
    lock.toJson.IsPlain := by
  cases lock
  case byProperty application path value negate =>
    have value := Property.isPlain_toJson (Bool.not_eq_true' _ ▸ floatFree)
    apply Json.isPlain_record
    simp [Json.isPlain_text, Json.IsPlain, value]
  all_goals
    apply Json.isPlain_record
    simp [Json.isPlain_text, Json.IsPlain, EntityId.isPlain_toJson]

end Lock

/-! ### What some kinds have -/

theorem Action.ofJson?_toJson {r : Reading} {a : Action} (floatFree : a.lock.isFloatFree = true)
    (shallow : r.depth + 4 ≤ deepest) : Action.ofJson? r a.toJson = some a := by
  have lock : Lock.ofJson? r.inside a.lock.toJson = some a.lock :=
    Lock.ofJson?_toJson floatFree (by rw [Reading.inside]; omega)
  rw [ofJson?, toJson, record?_record]
  · simp [optional?, list?_ids, lock, list?_texts, text?_text]
  · rfl
  · decide

theorem Action.isPlain_toJson {a : Action} (floatFree : a.lock.isFloatFree = true) :
    a.toJson.IsPlain := by
  apply Json.isPlain_record
  simp [isPlain_ids, Lock.isPlain_toJson floatFree, Json.isPlain_list, Json.isPlain_text]

theorem Roster.ofJson?_toJson (r : Reading) (g : Roster) :
    Roster.ofJson? r g.toJson = some g := by
  rw [ofJson?, toJson, record?_record]
  · simp [optional?, set?_ids]
  · rfl
  · decide

theorem Roster.isPlain_toJson (g : Roster) : g.toJson.IsPlain := by
  apply Json.isPlain_record
  simp [isPlain_ids]

theorem Script.ofJson?_toJson (r : Reading) (s : Script) :
    Script.ofJson? r s.toJson = some s := by
  rw [ofJson?, toJson, record?_record]
  · simp [optional?, text?_text]
  · rfl
  · decide

theorem Script.isPlain_toJson (s : Script) : s.toJson.IsPlain := by
  apply Json.isPlain_record
  simp [Json.isPlain_text]

/-! ### Entities -/

namespace Entity

/-- Whether neither a property of the entity nor its lock has a floating-point number. -/
def isFloatFree (e : Entity) : Bool :=
  e.lock.isFloatFree && e.applications.toList.all fun entry => entry.2.isFloatFree

theorem isFloatFree_lock {e : Entity} (floatFree : e.isFloatFree = true) {a : Action}
    (there : e.action = some a) : a.lock.isFloatFree = true := by
  have lock := (Bool.and_eq_true_iff.mp floatFree).1
  rwa [Entity.lock, there] at lock

theorem isFloatFree_application {e : Entity} (floatFree : e.isFloatFree = true) {name : String}
    {a : Application} (stored : e.applications[name]? = some a) : a.isFloatFree = true :=
  List.all_eq_true.mp (Bool.and_eq_true_iff.mp floatFree).2 (name, a)
    (ExtTreeMap.mem_toList_iff_getElem?_eq_some.mpr stored)

theorem timestamp?_text (r : Reading) (t : Timestamp) :
    timestamp? r (.text t.render) = some t := by
  rw [timestamp?, text?_text, Option.bind_some, t.parse?_render]

/-- An entity is read back where five more levels are left. -/
theorem ofJson?_toJson {r : Reading} {e : Entity} (floatFree : e.isFloatFree = true)
    (shallow : r.depth + 5 ≤ deepest) :
    Entity.ofJson? r e.toJson = some e := by
  have texts : set? text? r.inside (.list .text e.flags.toList) = some e.flags :=
    set?_list fun _ _ => rfl
  have applications : map? Application.ofJson? r.inside (.record (e.applications.toList.map
      fun a => (a.1, a.2.toJson))) = some e.applications :=
    map?_record fun name a stored =>
      Application.ofJson?_toJson _ (isFloatFree_application floatFree stored)
  have displayName : nullable? text? r.inside (.option .text e.displayName) =
      some e.displayName := nullable?_option (by rintro _ ⟨⟩) fun _ _ => rfl
  have action : nullable? Action.ofJson? r.inside (.option Action.toJson e.action) =
      some e.action :=
    nullable?_option (by rintro _ ⟨⟩) fun a there =>
      Action.ofJson?_toJson (isFloatFree_lock floatFree there) (by rw [Reading.inside]; omega)
  have group : nullable? Roster.ofJson? r.inside (.option Roster.toJson e.group) = some e.group :=
    nullable?_option (by rintro _ ⟨⟩) fun g _ => g.ofJson?_toJson _
  have program : nullable? Script.ofJson? r.inside (.option Script.toJson e.program) =
      some e.program := nullable?_option (by rintro _ ⟨⟩) fun s _ => s.ofJson?_toJson _
  rw [ofJson?, toJson, record?_record]
  · rw [Option.bind_eq_bind, Option.bind_some]
    dsimp only [List.map, optional?]
    -- no member is read in dependence on another
    rw [required?_some (e.id.ofJson?_toJson _), required?_some (e.kind.ofJson?_word _),
      required?_some (text?_text _ e.name), text?_text, required?_some (e.owner.ofJson?_toJson _),
      e.permissions.ofJson?_toJson, texts, bool?_bool, uint32?_nat, timestamp?_text,
      timestamp?_text, applications, e.container.ofJson?_toJson, e.home.ofJson?_toJson,
      displayName, action, group, program]
    rfl
  · rfl
  · decide

theorem isPlain_toJson {e : Entity} (floatFree : e.isFloatFree = true) : e.toJson.IsPlain := by
  have applications : (Json.record (e.applications.toList.map fun a =>
      (a.1, a.2.toJson))).IsPlain := by
    apply Json.isPlain_record
    intro m among
    obtain ⟨⟨name, a⟩, listed, rfl⟩ := List.mem_map.mp among
    exact Application.isPlain_toJson
      (isFloatFree_application floatFree (ExtTreeMap.mem_toList_iff_getElem?_eq_some.mp listed))
  have action : (Json.option Action.toJson e.action).IsPlain := by
    cases there : e.action with
    | none => trivial
    | some a => exact Action.isPlain_toJson (isFloatFree_lock floatFree there)
  apply Json.isPlain_record
  simp [EntityId.isPlain_toJson, Json.isPlain_text, Permissions.isPlain_toJson, Json.isPlain_list,
    Json.IsPlain, Json.isPlain_nat, applications, Json.isPlain_option, action,
    Roster.isPlain_toJson, Script.isPlain_toJson]

end Entity

/-! ### Snapshots -/

theorem SiteRecord.ofJson?_toJson (r : Reading) (s : SiteRecord) :
    SiteRecord.ofJson? r s.toJson = some s := by
  rw [ofJson?, toJson, record?_record]
  · simp [required?, optional?, uint32?_nat, uint64?_nat, text?_text]
  · rfl
  · decide

theorem SiteRecord.isPlain_toJson (s : SiteRecord) : s.toJson.IsPlain := by
  apply Json.isPlain_record
  simp [Json.isPlain_nat, Json.isPlain_text]

namespace Snapshot

variable {s : Snapshot}

theorem ofJson?_toJson {r : Reading} (floatFree : ∀ e ∈ s.entities, e.isFloatFree = true)
    (shallow : r.depth + 7 ≤ deepest) :
    Snapshot.ofJson? r s.toJson = some s := by
  have sites : list? SiteRecord.ofJson? r.inside (.list SiteRecord.toJson s.sites) =
      some s.sites := list?_list fun site _ => site.ofJson?_toJson _
  have entities : list? Entity.ofJson? r.inside (.list Entity.toJson s.entities) =
      some s.entities :=
    list?_list fun e among =>
      Entity.ofJson?_toJson (floatFree e among) (by simp only [Reading.inside]; omega)
  rw [ofJson?, toJson, record?_record]
  · simp [optional?, sites, entities]
  · rfl
  · decide

theorem isPlain_toJson (floatFree : ∀ e ∈ s.entities, e.isFloatFree = true) :
    s.toJson.IsPlain := by
  have entities : (Json.list Entity.toJson s.entities).IsPlain := by
    refine Json.arePlain_iff.mpr fun j among => ?_
    obtain ⟨e, listed, rfl⟩ := List.mem_map.mp among
    exact Entity.isPlain_toJson (floatFree e listed)
  apply Json.isPlain_record
  simp [Json.isPlain_list, SiteRecord.isPlain_toJson, entities]

/-- A snapshot is read back from its text. -/
theorem ofText?_pretty (floatFree : ∀ e ∈ s.entities, e.isFloatFree = true)
    (now : Timestamp) :
    ofText? Snapshot.ofJson? now s.toJson.pretty = some s := by
  rw [ofText?, Json.parse?_pretty (isPlain_toJson floatFree)]
  have shallow : 0 + 7 ≤ deepest := by decide
  exact ofJson?_toJson floatFree shallow

end Snapshot

/-- A saved store is loaded as its snapshot is. -/
theorem Store.loadText_saveText {s : Store}
    (floatFree : ∀ e ∈ s.snapshot.entities, e.isFloatFree = true)
    (now : Timestamp) :
    Store.empty.loadText now s.saveText = Store.empty.load s.snapshot := by
  rw [Store.loadText, Store.saveText, Snapshot.ofText?_pretty floatFree]

end WorldAccess
