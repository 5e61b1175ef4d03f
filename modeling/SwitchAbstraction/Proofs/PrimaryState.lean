import SwitchAbstraction.Proofs.Refusals

/-!
# Switches without derived attributes

The attributes that a switch derives from other objects are brought up to date
before they are read, so it makes no difference what is stored for them.  Every
operation on a switch gives the same answer, and leaves the same behind, with
the derived attributes and without them.
-/

namespace SwitchAbstraction

open Results

/-! ## Attributes -/

namespace Attributes

variable {attrs : Attributes} {id : AttrId}

/-- What is stored, but for derived attributes. -/
def primary (attrs : Attributes) : Attributes :=
  attrs.filter fun id _ => !id.isDerived

theorem get?_primary (attrs : Attributes) (id : AttrId) :
    attrs.primary.get? id = if id.isDerived then none else attrs.get? id := by
  unfold primary
  rw [OrderedMap.get?_filter]
  cases attrs.get? id with
  | none => simp
  | some value =>
      by_cases derived : id.isDerived = true
      · simp [derived]
      · simp [derived]

theorem get?_primary_of_eq (stored : id.isDerived = false) :
    attrs.primary.get? id = attrs.get? id := by
  rw [get?_primary, stored]
  rfl

@[simp] theorem primary_primary (attrs : Attributes) : attrs.primary.primary = attrs.primary := by
  apply OrderedMap.ext_get?
  intro id
  rw [get?_primary, get?_primary]
  split <;> rfl

/-- A derived attribute leaves nothing behind. -/
theorem primary_insert_of_isDerived (derived : id.isDerived = true) (value : AttrValue) :
    primary (attrs.insert id value) = attrs.primary := by
  apply OrderedMap.ext_get?
  intro other
  rw [get?_primary, get?_primary]
  split
  · rfl
  · next stored =>
      rw [OrderedMap.get?_insert, if_neg]
      rintro rfl
      exact stored derived

theorem primary_insert (attrs : Attributes) (id : AttrId) (value : AttrValue) :
    primary (attrs.insert id value) = primary (attrs.primary.insert id value) := by
  apply OrderedMap.ext_get?
  intro other
  rw [get?_primary, get?_primary]
  split
  · rfl
  · next stored =>
      rw [OrderedMap.get?_insert, OrderedMap.get?_insert,
        get?_primary_of_eq (by simpa using stored)]

/-- Derived attributes that are inserted leave nothing behind. -/
theorem primary_insertAll {values : List (AttrId × AttrValue)}
    (derived : ∀ entry ∈ values, entry.1.isDerived = true) (attrs : Attributes) :
    primary (values.foldl (fun attrs entry => attrs.insert entry.1 entry.2) attrs) =
      attrs.primary := by
  induction values generalizing attrs with
  | nil => rfl
  | cons entry rest ih =>
      obtain ⟨first, others⟩ := List.forall_mem_cons.mp derived
      rw [List.foldl_cons, ih others, primary_insert_of_isDerived first]

/-- A value that is inserted, or that was the same before, is the same afterwards. -/
theorem get?_insertAll_congr {values : List (AttrId × AttrValue)} {attrs others : Attributes}
    (same : attrs.get? id = others.get? id ∨ ∃ entry ∈ values, entry.1 = id) :
    OrderedMap.get? (values.foldl (fun attrs entry => attrs.insert entry.1 entry.2) attrs) id =
      OrderedMap.get? (values.foldl (fun attrs entry => attrs.insert entry.1 entry.2) others)
        id := by
  induction values generalizing attrs others with
  | nil => simpa using same
  | cons entry rest ih =>
      rw [List.foldl_cons, List.foldl_cons]
      apply ih
      rw [OrderedMap.get?_insert, OrderedMap.get?_insert]
      by_cases own : id = entry.1
      · left
        rw [if_pos own, if_pos own]
      · rw [if_neg own, if_neg own]
        refine same.imp_right ?_
        rintro ⟨other, member, rfl⟩
        rcases List.mem_cons.mp member with rfl | later
        · exact absurd rfl own
        · exact ⟨other, later, rfl⟩

theorem oid?_primary (stored : id.isDerived = false) : attrs.primary.oid? id = attrs.oid? id := by
  unfold oid?
  rw [get?_primary_of_eq stored]

theorem s32?_primary (stored : id.isDerived = false) : attrs.primary.s32? id = attrs.s32? id := by
  unfold s32?
  rw [get?_primary_of_eq stored]

theorem u32?_primary (stored : id.isDerived = false) : attrs.primary.u32? id = attrs.u32? id := by
  unfold u32?
  rw [get?_primary_of_eq stored]

theorem u16?_primary (stored : id.isDerived = false) : attrs.primary.u16? id = attrs.u16? id := by
  unfold u16?
  rw [get?_primary_of_eq stored]

end Attributes

/-! ## Switches -/

namespace Switch

/-- The switch, but for derived attributes of its objects. -/
def primary (switch : Switch) : Switch :=
  { switch with objects := switch.objects.mapValues fun _ attrs => attrs.primary }

variable {switch : Switch} {key : ObjectKey} {now : UInt64}

@[simp] theorem primary_debugCounters :
    switch.primary.debugCounters = switch.debugCounters := rfl

/-- Switches with the same parts are the same without derived attributes if their objects are. -/
theorem primary_congr {first second : Switch} (sameId : first.id = second.id)
    (counters : first.counters = second.counters) (learned : first.learned = second.learned)
    (pool : first.debugCounters = second.debugCounters)
    (objects : ∀ key, (first.object? key).map Attributes.primary =
      (second.object? key).map Attributes.primary) :
    first.primary = second.primary := by
  have same : (first.objects.mapValues fun _ attrs => attrs.primary) =
      second.objects.mapValues fun _ attrs => attrs.primary := by
    apply OrderedMap.ext_get?
    intro key
    rw [OrderedMap.get?_mapValues, OrderedMap.get?_mapValues]
    exact objects key
  unfold primary
  rw [same, sameId, counters, learned, pool]

theorem object?_primary (key : ObjectKey) :
    switch.primary.object? key = (switch.object? key).map Attributes.primary :=
  OrderedMap.get?_mapValues _ _ _

@[simp] theorem primary_primary : switch.primary.primary = switch.primary := by
  apply primary_congr <;> try rfl
  intro key
  rw [object?_primary, Option.map_map]
  congr 1
  funext attrs
  exact Attributes.primary_primary attrs

@[simp] theorem contains_primary : switch.primary.contains key = switch.contains key := by
  unfold contains OrderedMap.contains
  change (switch.primary.object? key).isSome = (switch.object? key).isSome
  rw [object?_primary, Option.isSome_map]

@[simp] theorem require_primary : switch.primary.require key = switch.require key := by
  unfold require
  rw [contains_primary]

theorem byId?_primary (id : ObjectId) :
    switch.primary.byId? id = (switch.byId? id).map Attributes.primary := by
  unfold byId?
  cases (ObjectKey.ofId id).toOption with
  | none => rfl
  | some key => exact object?_primary key

theorem objectsOf_primary (type : ObjectType) :
    switch.primary.objectsOf type =
      (switch.objectsOf type).map fun entry => (entry.1, entry.2.primary) :=
  List.filter_map

theorem referencing_primary {attr : AttrId} (stored : attr.isDerived = false) (type : ObjectType)
    (target : ObjectId) :
    switch.primary.referencing type attr target = switch.referencing type attr target := by
  unfold referencing
  rw [objectsOf_primary, List.filterMap_map]
  congr 1
  funext entry
  simp only [Function.comp_apply, Attributes.oid?_primary stored]

theorem dataPorts_primary : switch.primary.dataPorts = switch.dataPorts := by
  unfold dataPorts isCpuPort
  rw [objectsOf_primary, List.filterMap_map]
  congr 1
  funext entry
  rw [Function.comp_apply, @Attributes.s32?_primary entry.2 .portType rfl]

/-- Nothing is derived from what is derived. -/
theorem derived_primary : switch.primary.derived key = switch.derived key := by
  unfold derived
  cases key.id? with
  | none => rfl
  | some id =>
      dsimp only
      rw [@referencing_primary switch .vlanMemberVlanId rfl,
        @referencing_primary switch .bridgePortBridgeId rfl,
        @referencing_primary switch .lagMemberLagId rfl, dataPorts_primary]

/-! ### Changing attributes -/

theorem primary_setAttr (id : AttrId) (value : AttrValue) :
    (switch.primary.setAttr key id value).primary = (switch.setAttr key id value).primary := by
  apply primary_congr <;> try rfl
  intro other
  rw [object?_setAttr, object?_setAttr, object?_primary]
  split
  · rw [Option.map_map, Option.map_map, Option.map_map]
    congr 1
    funext attrs
    exact (Attributes.primary_insert attrs id value).symm
  · rw [← object?_primary, ← object?_primary, primary_primary]

theorem vlanOf_primary (domain : ObjectId) :
    switch.primary.vlanOf domain = switch.vlanOf domain := by
  unfold vlanOf
  rw [byId?_primary, Option.bind_map]
  congr 2
  funext attrs
  exact Attributes.u16?_primary rfl

theorem isDynamic_primary (attrs : Attributes) : isDynamic attrs.primary = isDynamic attrs := by
  unfold isDynamic
  rw [@Attributes.s32?_primary attrs .fdbEntryType rfl]

theorem bridgePort_primary (attrs : Attributes) : bridgePort attrs.primary = bridgePort attrs := by
  unfold bridgePort
  rw [@Attributes.oid?_primary attrs .fdbEntryBridgePortId rfl]

theorem syncLearned_primary (entry : FdbKey) :
    switch.primary.syncLearned entry now = (switch.syncLearned entry now).primary := by
  unfold syncLearned
  have same : (isDynamic ∘ Attributes.primary) = isDynamic := funext isDynamic_primary
  rw [object?_primary, Option.filter_map, same]
  cases (switch.object? (.fdb entry)).filter isDynamic with
  | none => rfl
  | some attrs =>
      simp only [Option.map_some]
      rw [bridgePort_primary, vlanOf_primary]
      rfl

theorem settle_primary : switch.primary.settle key now = (switch.settle key now).primary := by
  cases key with
  | fdb entry => exact syncLearned_primary entry
  | _ => rfl

theorem primary_write (attr : Attribute) :
    (switch.primary.write key attr now).primary = (switch.write key attr now).primary := by
  unfold write
  rw [← settle_primary, ← settle_primary, primary_setAttr]

/-! ### Adding and removing objects -/

theorem primary_insert (attrs : Attributes) :
    (switch.primary.insert key attrs).map primary = (switch.insert key attrs).map primary := by
  unfold insert
  rw [contains_primary]
  split
  · rfl
  · refine congrArg Except.ok (primary_congr rfl rfl rfl rfl fun other => ?_)
    unfold object?
    dsimp only
    rw [OrderedMap.get?_insert, OrderedMap.get?_insert]
    split
    · rfl
    · change (switch.primary.object? other).map _ = (switch.object? other).map _
      rw [← object?_primary, ← object?_primary, primary_primary]

theorem remove?_primary :
    switch.primary.remove? key =
      (switch.remove? key).map fun pair => (pair.1.primary, pair.2.primary) := by
  unfold remove?
  rw [object?_primary, Option.map_map, Option.map_map]
  congr 1
  funext attrs
  unfold primary
  simp only [Function.comp_apply, OrderedMap.mapValues_erase]

theorem unequip_primary (type : ObjectType) (attrs : Attributes) :
    switch.primary.unequip type attrs = (switch.unequip type attrs).primary := by
  unfold unequip
  split
  · split <;> rfl
  · rfl

theorem unequip_attributes_primary (type : ObjectType) (attrs : Attributes) :
    switch.unequip type attrs.primary = switch.unequip type attrs := by
  unfold unequip
  rw [@Attributes.u32?_primary attrs .debugCounterIndex rfl]

theorem unsettle_primary : switch.primary.unsettle key = (switch.unsettle key).primary := by
  cases key <;> rfl

theorem removeObject_primary :
    switch.primary.removeObject key = mapState primary (switch.removeObject key) := by
  unfold removeObject
  rw [remove?_primary]
  cases switch.remove? key with
  | none => rfl
  | some pair =>
      simp only [Option.map_some]
      rw [unequip_attributes_primary, unequip_primary, unsettle_primary]
      rfl

theorem equip_primary (type : ObjectType) (attrs : Attributes) :
    switch.primary.equip type attrs = mapState primary (switch.equip type attrs) := by
  unfold equip
  split
  · rw [primary_debugCounters]
    cases switch.debugCounters.allocate <;> rfl
  · rfl

theorem primary_place (ids : IdAllocator) (index : UInt8) (type : ObjectType)
    (attrs : Attributes) :
    (switch.primary.place ids index type attrs).2 = (switch.place ids index type attrs).2 ∧
      mapState primary (switch.primary.place ids index type attrs).1 =
        mapState primary (switch.place ids index type attrs).1 := by
  unfold place
  cases ids.allocate index type with
  | error fault => exact ⟨rfl, rfl⟩
  | ok drawn =>
      refine ⟨rfl, ?_⟩
      unfold mapState
      dsimp only
      rw [map_map, map_map]
      refine map_congr_of_map_eq (primary_insert attrs) fun {stripped added} same => ?_
      simp only [Function.comp_apply, same]

theorem primary_addEntry (attrs : Attributes) :
    mapState primary (switch.primary.addEntry key attrs now) =
      mapState primary (switch.addEntry key attrs now) := by
  unfold mapState addEntry
  rw [map_map, map_map]
  refine map_congr_of_map_eq (primary_insert attrs) fun {stripped added} same => ?_
  simp only [Function.comp_apply]
  split
  · rw [← settle_primary, ← settle_primary, same]
  · rw [same]

/-! ### Statistics -/

theorem setCounters_primary (counts : List (Stat × UInt64)) :
    switch.primary.setCounters key counts = (switch.setCounters key counts).primary := by
  unfold setCounters
  induction counts generalizing switch with
  | nil => rfl
  | cons entry rest ih => exact @ih (switch.setCounter key entry.1 entry.2)

theorem readStats_primary (stats : List Stat) (mode : StatsMode) :
    switch.primary.readStats key stats mode =
      mapState primary (switch.readStats key stats mode) := by
  unfold readStats
  rw [require_primary]
  cases switch.require key with
  | error fault => rfl
  | ok _ =>
      cases mode with
      | read => rfl
      | readAndClear => exact congrArg (fun next => Except.ok (_, next)) (setCounters_primary _)

theorem clearStats_primary (stats : List Stat) :
    switch.primary.clearStats key stats = mapState primary (switch.clearStats key stats) := by
  unfold clearStats
  rw [require_primary]
  cases switch.require key with
  | error fault => rfl
  | ok _ => exact congrArg (fun next => Except.ok (_, next)) (setCounters_primary _)

/-! ### Forwarding entries -/

theorem forgetLearned_primary (entry : FdbKey) :
    switch.primary.forgetLearned entry = (switch.forgetLearned entry).primary :=
  rfl

theorem primary_addLearned (entry : FdbKey) (port : ObjectId) :
    (switch.primary.addLearned entry port now).map primary =
      (switch.addLearned entry port now).map primary := by
  unfold addLearned
  rw [map_map, map_map]
  refine map_congr_of_map_eq (primary_insert _) fun {stripped added} same => ?_
  simp only [Function.comp_apply]
  rw [← syncLearned_primary, ← syncLearned_primary, same]

theorem primary_moveLearned (entry : FdbKey) (port : ObjectId) :
    (switch.primary.moveLearned entry port now).primary =
      (switch.moveLearned entry port now).primary := by
  unfold moveLearned
  rw [← syncLearned_primary, ← syncLearned_primary, ← forgetLearned_primary,
    ← forgetLearned_primary, primary_setAttr]

theorem primary_learn (entry : FdbKey) (port : ObjectId) :
    mapState primary (switch.primary.learn entry port now) =
      mapState primary (switch.learn entry port now) := by
  unfold learn
  rw [byId?_primary, Option.isNone_map]
  split
  · rfl
  · rw [object?_primary]
    cases switch.object? (.fdb entry) with
    | none =>
        unfold mapState
        simp only [Option.map_none]
        rw [map_map, map_map]
        refine map_congr_of_map_eq (primary_addLearned entry port) fun same => ?_
        simp only [Function.comp_apply, same]
    | some attrs =>
        simp only [Option.map_some]
        rw [@Attributes.get?_primary_of_eq attrs .fdbEntryType rfl,
          @Attributes.oid?_primary attrs .fdbEntryBridgePortId rfl]
        split
        · rfl
        · exact congrArg (fun next => Except.ok ([], next)) primary_primary
        · exact congrArg (fun next => Except.ok (_, next)) (primary_moveLearned entry port)

theorem expire_primary (entry : FdbKey) :
    switch.primary.expire entry = (switch.expire entry).primary := by
  unfold expire
  dsimp only
  rw [forgetLearned_primary, remove?_primary]
  cases (switch.forgetLearned entry).remove? (.fdb entry) <;> rfl

theorem expireAll_primary (entries : List FdbKey) :
    switch.primary.expireAll entries =
      ((switch.expireAll entries).1, (switch.expireAll entries).2.primary) := by
  induction entries generalizing switch with
  | nil => rfl
  | cons entry rest ih =>
      unfold expireAll
      rw [expire_primary, ih, contains_primary]

theorem expired_primary : switch.primary.expired now = switch.expired now := by
  unfold expired isExpired agingTime
  rw [byId?_primary, Option.bind_map]
  have same : ((fun attrs => attrs.u32? .switchFdbAgingTime) ∘ Attributes.primary) =
      fun attrs => attrs.u32? .switchFdbAgingTime :=
    funext fun _ => Attributes.u32?_primary rfl
  rw [same]
  rfl

theorem age_primary :
    switch.primary.age now = ((switch.age now).1, (switch.age now).2.primary) := by
  unfold age
  rw [expired_primary, expireAll_primary]

theorem selects_primary (filter : FlushFilter) (entry : FdbKey) (attrs : Attributes) :
    filter.selects entry attrs.primary = filter.selects entry attrs := by
  unfold FlushFilter.selects FlushFilter.storedType
  rw [@Attributes.oid?_primary attrs .fdbEntryBridgePortId rfl,
    @Attributes.s32?_primary attrs .fdbEntryType rfl]

theorem isFlushedAs_primary (filter : FlushFilter) (type : FdbEntryType)
    (entry : ObjectKey × Attributes) :
    isFlushedAs filter type (entry.1, entry.2.primary) = isFlushedAs filter type entry := by
  obtain ⟨key, attrs⟩ := entry
  cases key with
  | fdb entry =>
      unfold isFlushedAs
      dsimp only
      rw [selects_primary]
      unfold FlushFilter.storedType
      rw [@Attributes.s32?_primary attrs .fdbEntryType rfl]
  | _ => rfl

theorem withoutEntries_primary (gone : FdbKey → Bool) :
    switch.primary.withoutEntries gone = (switch.withoutEntries gone).primary := by
  unfold withoutEntries primary
  simp only [OrderedMap.mapValues_filter]

theorem isFlushed_primary (filter : FlushFilter) :
    switch.primary.isFlushed filter = switch.isFlushed filter := by
  funext entry
  unfold isFlushed
  rw [object?_primary, Option.any_map]
  congr 1
  funext attrs
  exact selects_primary filter entry attrs

theorem flushedTypes_primary (filter : FlushFilter) :
    switch.primary.flushedTypes filter = switch.flushedTypes filter := by
  unfold flushedTypes
  congr 1
  funext type
  change (switch.objects.entries.map fun entry => (entry.1, entry.2.primary)).any _ = _
  rw [List.any_map]
  congr 1
  funext entry
  exact isFlushedAs_primary filter type entry

theorem flush_primary (owner : ObjectId) (filter : FlushFilter) :
    switch.primary.flush owner filter =
      ((switch.flush owner filter).1, (switch.flush owner filter).2.primary) := by
  unfold flush
  rw [flushedTypes_primary, isFlushed_primary, withoutEntries_primary]

/-! ### Reading -/

/-- A read leaves nothing behind but derived attributes. -/
theorem primary_refresh : (switch.refresh key).primary = switch.primary := by
  obtain ⟨sameId, learned, counters, pool⟩ := @refresh_frame switch key
  refine primary_congr sameId counters learned pool fun other => ?_
  rw [object?_refresh]
  split
  · rw [Option.map_map]
    congr 1
    funext attrs
    exact Attributes.primary_insertAll (fun _ => isDerived_of_mem_derived) attrs
  · rfl

/-- The derived attributes of the type of an object are all brought up to date. -/
theorem exists_mem_derived {id : AttrId} (isDerived : id.isDerived = true)
    (own : id.objectType = key.type) : ∃ entry ∈ switch.derived key, entry.1 = id := by
  have listed : id ∈ [.vlanMemberList, .bridgePortList, .lagPortList, .switchPortNumber,
      .switchPortList] := of_decide_eq_true isDerived
  cases key with
  | object target =>
      unfold derived
      rw [← own]
      simp only [List.mem_cons, List.not_mem_nil, or_false] at listed
      rcases listed with rfl | rfl | rfl | rfl | rfl
      · exact ⟨_, List.mem_cons_self, rfl⟩
      · exact ⟨_, List.mem_cons_self, rfl⟩
      · exact ⟨_, List.mem_cons_self, rfl⟩
      · exact ⟨_, List.mem_cons_self, rfl⟩
      · exact ⟨_, List.mem_cons_of_mem _ List.mem_cons_self, rfl⟩
  | _ =>
      simp only [List.mem_cons, List.not_mem_nil, or_false] at listed
      rcases listed with rfl | rfl | rfl | rfl | rfl <;> cases own

theorem fillSlots_congr {attrs others : Attributes} {slots : List Attribute}
    (same : ∀ slot ∈ slots, attrs.get? slot.id = others.get? slot.id) :
    fillSlots key attrs slots = fillSlots key others slots := by
  induction slots with
  | nil => rfl
  | cons slot rest ih =>
      obtain ⟨first, later⟩ := List.forall_mem_cons.mp same
      unfold fillSlots fillSlot
      rw [first, ih later]

/-- What is read after derived attributes were brought up to date does not depend on old ones. -/
theorem read_refresh_primary {slots : List Attribute}
    (own : ∀ slot ∈ slots, slot.id.objectType = key.type) :
    read key (((switch.primary.refresh key).object? key).getD ∅) slots =
      read key (((switch.refresh key).object? key).getD ∅) slots := by
  unfold read
  rw [fillSlots_congr]
  intro slot member
  rw [object?_refresh, object?_refresh, if_pos rfl, if_pos rfl, object?_primary, derived_primary]
  cases switch.object? key with
  | none => rfl
  | some attrs =>
      apply Attributes.get?_insertAll_congr
      -- A derived attribute was just computed anew, any other one was never left out.
      by_cases derived : slot.id.isDerived = true
      · right
        exact exists_mem_derived derived (own slot member)
      · left
        exact Attributes.get?_primary_of_eq (by simpa using derived)

end Switch

end SwitchAbstraction
