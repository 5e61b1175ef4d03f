import Mathlib.Data.List.Nodup
import SwitchAbstraction.Chassis.Objects
import SwitchAbstraction.OrderedMap.Lemmas
import SwitchAbstraction.Proofs.Results

/-!
# What is stored of a forwarding entry

The checks before a write let through values of the declared kind only.  So
every forwarding entry that is ever stored says its type, and names its bridge
port by an id if it names one at all.
-/

namespace SwitchAbstraction

open Results

/-! ## What the checks on attributes let through -/

namespace Attribute

variable {type : ObjectType} {readOnly : Bool} {attr : Attribute} {attrs : List Attribute}

theorem kind_of_checkKind (passed : attr.checkKind = .ok ()) :
    attr.value.kind = attr.id.kind := by
  unfold checkKind hasDeclaredKind at passed
  by_cases same : attr.value.kind = attr.id.kind
  · exact same
  · simp [same] at passed

/-- An attribute that can be written belongs to the type and has a value of its kind. -/
theorem checkWritable_eq_ok (passed : attr.checkWritable type readOnly = .ok ()) :
    attr.id.objectType = type ∧ attr.value.kind = attr.id.kind := by
  unfold checkWritable at passed
  split at passed
  · cases passed
  · next own =>
      refine ⟨Decidable.not_not.mp own, ?_⟩
      split at passed
      · cases passed
      · next kind => exact kind_of_checkKind kind

/-- Attributes that can be written together can be written one by one, and differ in their ids. -/
theorem checkAll_eq_ok {seen : List AttrId}
    (passed : checkAll type readOnly seen attrs = .ok ()) :
    (∀ attr ∈ attrs, attr.checkWritable type readOnly = .ok () ∧ attr.id ∉ seen) ∧
      (attrs.map Attribute.id).Nodup := by
  induction attrs generalizing seen with
  | nil => exact ⟨by simp, List.nodup_nil⟩
  | cons attr rest ih =>
      unfold checkAll at passed
      split at passed
      · cases passed
      · next writable =>
          split at passed
          · cases passed
          · next unseen =>
              obtain ⟨others, distinct⟩ := ih passed
              refine ⟨?_, List.nodup_cons.mpr ⟨?_, distinct⟩⟩
              · intro other member
                rcases List.mem_cons.mp member with rfl | inRest
                · exact ⟨writable, unseen⟩
                · obtain ⟨passes, fresh⟩ := others other inRest
                  exact ⟨passes, fun old => fresh (List.mem_cons_of_mem _ old)⟩
              · intro again
                obtain ⟨other, inRest, same⟩ := List.mem_map.mp again
                exact (others other inRest).2 (same ▸ List.mem_cons_self)

/-- The first value of an attribute is the value of one that is listed. -/
theorem find?_eq_some {id : AttrId} {value : AttrValue} (found : find? attrs id = some value) :
    ∃ attr ∈ attrs, attr.id = id ∧ attr.value = value := by
  obtain ⟨attr, first, same⟩ := Option.map_eq_some_iff.mp found
  exact ⟨attr, List.mem_of_find?_eq_some first, by simpa using List.find?_some first, same⟩

end Attribute

namespace AttrValue

theorem eq_oid_of_kind {value : AttrValue} (kind : value.kind = .oid) :
    ∃ id, value = .oid id := by
  cases value with
  | oid id => exact ⟨id, rfl⟩
  | _ => cases kind

end AttrValue

theorem FdbEntryType.ofValue_eq_ok {value : AttrValue} {type : FdbEntryType}
    (read : ofValue value = .ok type) : value = .s32 type.code := by
  unfold ofValue at read
  cases value with
  | s32 raw =>
      split at read
      · next other found =>
          cases read
          have same : type.code = raw := by
            simpa using List.find?_some found
          rw [same]
      · cases read
  | _ => cases read

/-! ## What is stored -/

namespace Attributes

/-- What is stored comes from what was given, and something is stored of all of it. -/
theorem get?_ofList_eq_some {attrs : List Attribute} {id : AttrId} {value : AttrValue}
    (stored : (ofList attrs).get? id = some value) :
    ∃ attr ∈ attrs, attr.id = id ∧ attr.value.normalized = value := by
  unfold ofList at stored
  rw [OrderedMap.get?_ofList] at stored
  have member := List.mem_reverse.mp (OrderedMap.mem_of_lookup stored)
  obtain ⟨attr, listed, same⟩ := List.mem_map.mp member
  exact ⟨attr, listed, (Prod.mk.inj same).1, (Prod.mk.inj same).2⟩

theorem exists_get?_ofList {attrs : List Attribute} {attr : Attribute} (member : attr ∈ attrs) :
    ∃ value, (ofList attrs).get? attr.id = some value := by
  unfold ofList
  rw [OrderedMap.get?_ofList]
  have given : (attr.id, attr.value.normalized) ∈
      (attrs.map fun attr => (attr.id, attr.value.normalized)).reverse :=
    List.mem_reverse.mpr (List.mem_map.mpr ⟨attr, member, rfl⟩)
  exact OrderedMap.exists_lookup_of_mem given

/-- Of attributes that are given once each, every one is stored. -/
theorem get?_ofList_of_mem {attrs : List Attribute} {attr : Attribute}
    (distinct : (attrs.map Attribute.id).Nodup) (member : attr ∈ attrs) :
    (ofList attrs).get? attr.id = some attr.value.normalized := by
  obtain ⟨value, stored⟩ := exists_get?_ofList member
  obtain ⟨last, listed, same, rfl⟩ := get?_ofList_eq_some stored
  have once : last = attr := List.inj_on_of_nodup_map distinct listed member same
  rw [stored, once]

/-- What is stored of a forwarding entry: its type, and a bridge port only by its id. -/
structure IsEntry (attrs : Attributes) : Prop where
  typed : ∃ type : FdbEntryType, attrs.get? .fdbEntryType = some (.s32 type.code)
  named : ∀ {value}, attrs.get? .fdbEntryBridgePortId = some value → ∃ port, value = .oid port

/-- The bridge port of a forwarding entry is the one that is stored, or the null one if none is. -/
def IsOnPort (attrs : Attributes) (port : ObjectId) : Prop :=
  attrs.get? .fdbEntryBridgePortId = some (.oid port) ∨
    attrs.get? .fdbEntryBridgePortId = none ∧ port = .null

variable {attrs : Attributes}

theorem IsEntry.isOnPort_iff (entry : attrs.IsEntry) {port : ObjectId} :
    attrs.IsOnPort port ↔ Switch.bridgePort attrs = port := by
  unfold IsOnPort Switch.bridgePort oid?
  cases there : attrs.get? .fdbEntryBridgePortId with
  | none => simp [eq_comm]
  | some value =>
      obtain ⟨stored, rfl⟩ := entry.named there
      simp [AttrValue.oid?]

/-- An entry stays one if its type is written as a type and its bridge port as an id. -/
theorem IsEntry.insert (entry : attrs.IsEntry) {id : AttrId} {value : AttrValue}
    (typed : id = .fdbEntryType → ∃ type : FdbEntryType, value = .s32 type.code)
    (named : id = .fdbEntryBridgePortId → ∃ port, value = .oid port) :
    IsEntry (attrs.insert id value) := by
  constructor
  · rw [OrderedMap.get?_insert]
    by_cases own : AttrId.fdbEntryType = id
    · obtain ⟨type, rfl⟩ := typed own.symm
      exact ⟨type, if_pos own⟩
    · rw [if_neg own]
      exact entry.typed
  · intro stored found
    rw [OrderedMap.get?_insert] at found
    by_cases own : AttrId.fdbEntryBridgePortId = id
    · rw [if_pos own] at found
      obtain ⟨port, rfl⟩ := named own.symm
      exact ⟨port, (Option.some.inj found).symm⟩
    · rw [if_neg own] at found
      exact entry.named found

/-- What is written to an entry after the checks keeps it one. -/
theorem IsEntry.write (entry : attrs.IsEntry) {attr : Attribute} {readOnly : Bool}
    (writable : attr.checkWritable .fdbEntry readOnly = .ok ())
    (typed : attr.id = .fdbEntryType →
      ∃ type, FdbEntryType.ofValue attr.value = .ok type) :
    IsEntry (attrs.insert attr.id attr.value.normalized) := by
  refine entry.insert (fun own => ?_) (fun own => ?_)
  · obtain ⟨type, read⟩ := typed own
    rw [FdbEntryType.ofValue_eq_ok read]
    exact ⟨type, rfl⟩
  · obtain ⟨_, kind⟩ := Attribute.checkWritable_eq_ok writable
    rw [own] at kind
    obtain ⟨port, same⟩ := AttrValue.eq_oid_of_kind kind
    rw [same]
    exact ⟨port, rfl⟩

/-- What is learned is an entry. -/
theorem isEntry_learned (port : ObjectId) : IsEntry (Switch.learnedAttributes port) := by
  constructor
  · exact ⟨.dynamic, rfl⟩
  · intro value found
    exact ⟨port, (Option.some.inj found).symm⟩

/-- What is stored of a new entry after the checks is an entry. -/
theorem isEntry_ofList {key : FdbKey} {given : List Attribute}
    (passed : Chassis.checkNewEntry (.fdb key) given = .ok ()) : IsEntry (ofList given) := by
  obtain ⟨_, _, rest⟩ := bind_eq_ok_iff.mp passed
  obtain ⟨_, checked, rest⟩ := bind_eq_ok_iff.mp rest
  obtain ⟨writable, distinct⟩ := Attribute.checkAll_eq_ok checked
  have own : (ObjectKey.fdb key).type = .fdbEntry := rfl
  rw [if_pos own] at rest
  constructor
  · split at rest
    · cases rest
    · next first found =>
        obtain ⟨type, read⟩ := discard_eq_ok_iff.mp rest
        obtain ⟨attr, listed, typing, rfl⟩ := Attribute.find?_eq_some found
        -- The check reads the first value and the last one is stored: no id is given twice.
        have bound := get?_ofList_of_mem distinct listed
        rw [typing, FdbEntryType.ofValue_eq_ok read] at bound
        exact ⟨type, bound⟩
  · intro value found
    obtain ⟨attr, listed, naming, rfl⟩ := get?_ofList_eq_some found
    obtain ⟨_, kind⟩ := Attribute.checkWritable_eq_ok (writable attr listed).1
    rw [naming, ← AttrValue.kind_normalized] at kind
    exact AttrValue.eq_oid_of_kind kind

theorem s32?_eq_some_iff {id : AttrId} {word : Int32} :
    attrs.s32? id = some word ↔ attrs.get? id = some (.s32 word) := by
  unfold s32?
  cases attrs.get? id with
  | none => simp
  | some value => cases value <;> simp [AttrValue.s32?]

/-- Of an entry, being dynamic is having that type. -/
theorem isDynamic_iff : Switch.isDynamic attrs = true ↔
    attrs.get? .fdbEntryType = some (.s32 FdbEntryType.dynamic.code) :=
  decide_eq_true_iff.trans s32?_eq_some_iff

theorem oid?_eq_some_iff {id : AttrId} {target : ObjectId} :
    attrs.oid? id = some target ↔ attrs.get? id = some (.oid target) := by
  unfold oid?
  cases attrs.get? id with
  | none => simp
  | some value => cases value <;> simp [AttrValue.oid?]

end Attributes

end SwitchAbstraction
