import WorldAccess.Proofs.Json.Tokens
import WorldAccess.Wire.Basic

/-!
# Saved values are read back

Numbers, words, lists, sets, maps and records are read back from the form they are saved in. What is
put together of parts is read back if its parts are. The keys of a map may be any texts: members of
a record are told apart by their names, and a map has no key twice.

## Main results

* `Wire.nat?_nat`, `Numeral.integer?_ofInt` — numbers
* `Wire.list?_list`, `Wire.set?_list`, `Wire.map?_record`, `Wire.nullable?_option` — what is put
  together of values of one type
* `Wire.record?_record` — the members of a record
-/

namespace WorldAccess

open Std Decimal

/-! ### Numbers -/

theorem Decimal.value_decimal (n : Nat) : value (Text.decimal n) = n := Text.foldl_decimal n

namespace Decimal.Numeral

theorem natural?_ofNat {bound n : Nat} (h : n ≤ bound) : (ofNat n).natural? bound = some n := by
  have whole : value (ofNat n).whole = n := value_decimal n
  rw [natural?, whole, if_pos ⟨rfl, rfl, h⟩]

/-- A written integer of sixty-four bits is read back. Zero is written without a sign. -/
theorem integer?_ofInt (i : Int64) : (ofInt i.toInt).integer? = some i := by
  have whole : value (ofInt i.toInt).whole = i.toInt.natAbs := value_decimal i.toInt.natAbs
  have low := i.le_toInt
  have high := i.toInt_lt
  have size : UInt64.size / 2 = 2 ^ 63 := rfl
  rw [integer?, whole, if_neg (show ¬ (!(ofInt i.toInt).isWhole) = true by simp [ofInt, isWhole])]
  by_cases negative : i.toInt < 0
  · have inside : ¬ (i.toInt.natAbs = 0 ∨ UInt64.size / 2 < i.toInt.natAbs) := by omega
    have back : -(i.toInt.natAbs : Int) = i.toInt := by omega
    rw [if_pos (show (ofInt i.toInt).negative = true by simpa [ofInt] using negative),
      if_neg inside, back, Int64.ofInt_toInt]
  · have inside : i.toInt.natAbs < UInt64.size / 2 := by omega
    have back : (i.toInt.natAbs : Int) = i.toInt := by omega
    rw [if_neg (show ¬ (ofInt i.toInt).negative = true by simpa [ofInt] using negative),
      if_pos inside, back, Int64.ofInt_toInt]

theorem isInteger_ofInt (n : Int) : (ofInt n).IsInteger where
  bare := rfl
  digits _ h := Text.isDigit_of_mem_decimal h
  nonempty := Nat.toDigits_ne_nil
  leading := Text.head?_decimal n.natAbs

end Decimal.Numeral

namespace Wire

variable {α β : Type} {r : Reading}

theorem nat?_nat {bound n : Nat} (h : n ≤ bound) : nat? bound r (.nat n) = some n :=
  Numeral.natural?_ofNat h

/-! ### Lists, sets and maps -/

variable {d : Decoder α} {encode : α → Json}

/-- Values that are read one by one. -/
theorem mapM_eq_some_map {f : α → Option β} {g : α → β} {values : List α}
    (h : ∀ a ∈ values, f a = some (g a)) : values.mapM f = some (values.map g) := by
  induction values with
  | nil => rfl
  | cons a rest ih =>
    obtain ⟨first, later⟩ := List.forall_mem_cons.mp h
    rw [List.mapM_cons, first, ih later]
    rfl

theorem list?_list {values : List α} (h : ∀ a ∈ values, d r.inside (encode a) = some a) :
    list? d r (.list encode values) = some values := by
  have read := mapM_eq_some_map (f := d r.inside ∘ encode) (g := id) h
  rw [List.map_id, ← List.mapM_map] at read
  exact read

/-- The members of a set make the set. -/
theorem foldl_insert_toList [Ord α] [TransOrd α] [LawfulEqOrd α] (set : ExtTreeSet α) :
    set.toList.foldl (·.insert ·) (∅ : ExtTreeSet α) = set := by
  -- on the way the set holds what it began with and what has been listed
  have mem : ∀ (items : List α) (start : ExtTreeSet α) (k : α),
      k ∈ items.foldl (·.insert ·) start ↔ k ∈ start ∨ k ∈ items := by
    intro items
    induction items with
    | nil => simp
    | cons a rest ih =>
      intro start k
      rw [List.foldl_cons, ih, ExtTreeSet.mem_insert, Std.compare_eq_iff_eq, List.mem_cons,
        or_comm (a := a = k), or_assoc, eq_comm]
  apply ExtTreeSet.ext_mem
  intro k
  rw [mem, ExtTreeSet.mem_toList]
  exact or_iff_right ExtTreeSet.not_mem_empty

theorem set?_list [Ord α] [TransOrd α] [LawfulEqOrd α] {set : ExtTreeSet α}
    (h : ∀ a ∈ set, d r.inside (encode a) = some a) :
    set? d r (.list encode set.toList) = some set := by
  rw [set?, list?_list fun a among => h a (ExtTreeSet.mem_toList.mp among), Option.map_some,
    foldl_insert_toList]

/-- The entries of a map make the map. -/
theorem foldl_insert_toList_map (map : ExtTreeMap String α) :
    map.toList.foldl (fun m entry => m.insert entry.1 entry.2) (∅ : ExtTreeMap String α) = map := by
  -- a map lists no key twice, so that no entry takes the place of another
  have form : ∀ (entries : List (String × α)) (start : ExtTreeMap String α),
      entries.foldl (fun m entry => m.insert entry.1 entry.2) start = start.insertMany entries := by
    intro entries
    induction entries with
    | nil => exact fun start => ExtTreeMap.insertMany_nil.symm
    | cons entry rest ih =>
      intro start
      rw [List.foldl_cons, ih]
      exact ExtTreeMap.insertMany_cons.symm
  rw [form]
  apply ExtTreeMap.ext_getElem?
  intro k
  cases stored : map[k]? with
  | some a =>
    exact ExtTreeMap.getElem?_insertMany_list_of_mem (k := k) (Std.compare_eq_iff_eq.mpr rfl)
      map.distinct_keys_toList (ExtTreeMap.mem_toList_iff_getElem?_eq_some.mpr stored)
  | none =>
    rw [ExtTreeMap.getElem?_insertMany_list_of_contains_eq_false]
    · exact ExtTreeMap.getElem?_empty
    · rw [Bool.eq_false_iff]
      intro listed
      obtain ⟨⟨_, a⟩, among, rfl⟩ := List.mem_map.mp (List.contains_iff_mem.mp listed)
      rw [ExtTreeMap.mem_toList_iff_getElem?_eq_some.mp among] at stored
      cases stored

theorem map?_record {map : ExtTreeMap String α}
    (h : ∀ (k : String) (a : α), map[k]? = some a → d r.inside (encode a) = some a) :
    map? d r (.record (map.toList.map fun entry => (entry.1, encode entry.2))) = some map := by
  -- reading a record inserts its entries in the order in which the map lists them
  have read : ∀ (entries : List (String × α)) (start : ExtTreeMap String α),
      (∀ entry ∈ entries, d r.inside (encode entry.2) = some entry.2) →
      (entries.map fun entry => (some entry.1, encode entry.2)).foldlM (fun m entry => do
        let key ← entry.1
        let value ← d r.inside entry.2
        return m.insert key value) start =
      some (entries.foldl (fun m entry => m.insert entry.1 entry.2) start) := by
    intro entries
    induction entries with
    | nil => exact fun _ _ => rfl
    | cons entry rest ih =>
      intro start values
      obtain ⟨first, later⟩ := List.forall_mem_cons.mp values
      rw [List.map_cons, List.foldlM_cons, first]
      exact ih (start.insert entry.1 entry.2) later
  have values : ∀ entry ∈ map.toList, d r.inside (encode entry.2) = some entry.2 :=
    fun entry among => h entry.1 entry.2 (ExtTreeMap.mem_toList_iff_getElem?_eq_some.mp among)
  have done := read map.toList ∅ values
  rw [foldl_insert_toList_map] at done
  rw [Json.record, List.map_map, map?]
  exact done

/-- A value that may be missing is told from null by its form. -/
theorem nullable?_option {value : Option α} (there : ∀ a, encode a ≠ .null)
    (h : ∀ a ∈ value, d r (encode a) = some a) :
    nullable? d r (.option encode value) = some value := by
  cases value with
  | none => rfl
  | some a =>
    have read := h a rfl
    have some_ := there a
    rw [Json.option]
    unfold nullable?
    split
    next null => exact absurd null some_
    next => rw [read, Option.map_some]

/-! ### Records -/

/-- A member is found by its name where no name is given twice. -/
theorem filter_name {members : List (String × Json)} (distinct : (members.map Prod.fst).Nodup)
    {m : String × Json} (among : m ∈ members) :
    members.filter (fun other => other.1 == m.1) = [m] := by
  induction members with
  | nil => cases among
  | cons first rest ih =>
    obtain ⟨apart, later⟩ := List.nodup_cons.mp distinct
    rcases List.mem_cons.mp among with rfl | among
    · rw [List.filter_cons, if_pos (beq_self_eq_true _), List.filter_eq_nil_iff.mpr]
      intro other there same
      exact apart (beq_iff_eq.mp same ▸ List.mem_map_of_mem there)
    · rw [List.filter_cons, if_neg, ih later among]
      intro same
      exact apart (beq_iff_eq.mp same ▸ List.mem_map_of_mem among)

/-- The members of a record are found by their names. -/
theorem record?_record {names : List String} {members : List (String × Json)}
    (named : members.map Prod.fst = names) (distinct : names.Nodup) :
    record? names (.record members) = some (members.map fun m => some m.2) := by
  subst named
  have once : ∀ m ∈ members,
      once? (members.map fun m => (some m.1, m.2)) m.1 = some (some m.2) := by
    intro m among
    rw [once?, List.filter_map]
    have found := filter_name distinct among
    simp only [Function.comp_def, Option.some_beq_some]
    rw [found]
    rfl
  rw [Json.record, record?, if_pos (by simp), List.mapM_map]
  exact mapM_eq_some_map once

end Wire

end WorldAccess
