import SwitchAbstraction.OrderedMap.Lemmas
import SwitchAbstraction.Proofs.Results
import SwitchAbstraction.Switch.Reading
import SwitchAbstraction.Switch.Removal
import SwitchAbstraction.Switch.Writing

/-!
# What operations on a switch do to its parts

For each operation on a switch, when it succeeds and what its objects and its
index of learned entries are afterwards, through look-up.  The parts that an
operation does not touch are read off by simplification.
-/

namespace SwitchAbstraction

namespace Switch

variable {switch next : Switch} {key : ObjectKey} {attrs : Attributes} {now : UInt64}

theorem contains_iff : switch.contains key = true ↔ ∃ attrs, switch.object? key = some attrs :=
  OrderedMap.contains_iff

theorem contains_eq_false_iff : switch.contains key = false ↔ switch.object? key = none := by
  unfold contains OrderedMap.contains object?
  cases switch.objects.get? key <;> simp

theorem require_eq_ok_iff : switch.require key = .ok () ↔ switch.contains key = true := by
  unfold require
  cases switch.contains key <;> simp

/-! ## Storing a value -/

theorem object?_setAttr (id : AttrId) (value : AttrValue) (other : ObjectKey) :
    (switch.setAttr key id value).object? other =
      if other = key then (switch.object? other).map (·.insert id value)
      else switch.object? other :=
  OrderedMap.get?_modify _ _ _ _

@[simp] theorem setAttr_learned (id : AttrId) (value : AttrValue) :
    (switch.setAttr key id value).learned = switch.learned := rfl

@[simp] theorem setAttr_id (id : AttrId) (value : AttrValue) :
    (switch.setAttr key id value).id = switch.id := rfl

theorem contains_setAttr (id : AttrId) (value : AttrValue) (other : ObjectKey) :
    (switch.setAttr key id value).contains other = switch.contains other := by
  unfold contains OrderedMap.contains
  change ((switch.setAttr key id value).object? other).isSome = (switch.object? other).isSome
  rw [object?_setAttr]
  by_cases same : other = key
  · simp [same]
  · simp [same]

/-- Bringing derived attributes up to date stores them and changes nothing else. -/
theorem object?_refresh (other : ObjectKey) :
    (switch.refresh key).object? other =
      if other = key then
        (switch.object? other).map fun attrs =>
          (switch.derived key).foldl (fun attrs entry => attrs.insert entry.1 entry.2) attrs
      else switch.object? other := by
  unfold refresh
  induction switch.derived key generalizing switch with
  | nil => simp
  | cons entry rest ih =>
      rw [List.foldl_cons, ih, object?_setAttr]
      by_cases same : other = key
      · simp [same, Function.comp_def]
      · simp [same]

theorem refresh_frame :
    (switch.refresh key).id = switch.id ∧ (switch.refresh key).learned = switch.learned ∧
      (switch.refresh key).counters = switch.counters ∧
      (switch.refresh key).debugCounters = switch.debugCounters := by
  unfold refresh
  induction switch.derived key generalizing switch with
  | nil => exact ⟨rfl, rfl, rfl, rfl⟩
  | cons entry rest ih => exact ih

/-! ## Adding and removing objects -/

theorem insert_eq_ok_iff :
    switch.insert key attrs = .ok next ↔
      switch.object? key = none ∧
        next = { switch with objects := switch.objects.insert key attrs } := by
  unfold insert
  cases there : switch.contains key with
  | true =>
      obtain ⟨stored, found⟩ := contains_iff.mp there
      simp [found]
  | false =>
      have absent := contains_eq_false_iff.mp there
      simp [absent, eq_comm]

theorem insert_eq_error {fault : Fault} (refused : switch.insert key attrs = .error fault) :
    fault = .alreadyExists key ∧ switch.contains key = true := by
  unfold insert at refused
  split at refused
  · next there =>
      cases refused
      exact ⟨rfl, there⟩
  · cases refused

theorem object?_insert (inserted : switch.insert key attrs = .ok next) (other : ObjectKey) :
    next.object? other = if other = key then some attrs else switch.object? other := by
  obtain ⟨_, rfl⟩ := insert_eq_ok_iff.mp inserted
  exact OrderedMap.get?_insert _ _ _ _

theorem learned_insert (inserted : switch.insert key attrs = .ok next) :
    next.learned = switch.learned := by
  obtain ⟨_, rfl⟩ := insert_eq_ok_iff.mp inserted
  rfl

theorem counters_insert (inserted : switch.insert key attrs = .ok next) :
    next.counters = switch.counters := by
  obtain ⟨_, rfl⟩ := insert_eq_ok_iff.mp inserted
  rfl

theorem debugCounters_insert (inserted : switch.insert key attrs = .ok next) :
    next.debugCounters = switch.debugCounters := by
  obtain ⟨_, rfl⟩ := insert_eq_ok_iff.mp inserted
  rfl

theorem id_insert (inserted : switch.insert key attrs = .ok next) : next.id = switch.id := by
  obtain ⟨_, rfl⟩ := insert_eq_ok_iff.mp inserted
  rfl

theorem remove?_eq_some_iff :
    switch.remove? key = some (attrs, next) ↔
      switch.object? key = some attrs ∧
        next = { switch with
          objects := switch.objects.erase key
          counters := switch.counters.erase key } := by
  unfold remove?
  cases switch.object? key with
  | none => simp
  | some stored => simp [eq_comm]

@[simp] theorem unequip_objects (type : ObjectType) :
    (switch.unequip type attrs).objects = switch.objects := by
  unfold unequip
  split
  · split <;> rfl
  · rfl

@[simp] theorem unequip_learned (type : ObjectType) :
    (switch.unequip type attrs).learned = switch.learned := by
  unfold unequip
  split
  · split <;> rfl
  · rfl

@[simp] theorem unequip_counters (type : ObjectType) :
    (switch.unequip type attrs).counters = switch.counters := by
  unfold unequip
  split
  · split <;> rfl
  · rfl

@[simp] theorem unequip_id (type : ObjectType) : (switch.unequip type attrs).id = switch.id := by
  unfold unequip
  split
  · split <;> rfl
  · rfl

@[simp] theorem unsettle_objects : (switch.unsettle key).objects = switch.objects := by
  cases key <;> rfl

@[simp] theorem unsettle_counters : (switch.unsettle key).counters = switch.counters := by
  cases key <;> rfl

@[simp] theorem unsettle_debugCounters :
    (switch.unsettle key).debugCounters = switch.debugCounters := by
  cases key <;> rfl

@[simp] theorem unsettle_id : (switch.unsettle key).id = switch.id := by
  cases key <;> rfl

theorem object?_removeObject (removed : switch.removeObject key = .ok ((), next))
    (other : ObjectKey) :
    next.object? other = if other = key then none else switch.object? other := by
  unfold removeObject at removed
  split at removed
  · cases removed
  · next stored rest found =>
      obtain ⟨_, rfl⟩ := remove?_eq_some_iff.mp found
      cases removed
      unfold object?
      rw [unsettle_objects, unequip_objects]
      exact OrderedMap.get?_erase _ _ _

theorem learned_removeObject (removed : switch.removeObject key = .ok ((), next))
    (entry : FdbKey) :
    next.learned.get? entry =
      if key = .fdb entry then none else switch.learned.get? entry := by
  unfold removeObject at removed
  split at removed
  · cases removed
  · next stored rest found =>
      obtain ⟨_, rfl⟩ := remove?_eq_some_iff.mp found
      cases removed
      cases key with
      | fdb own =>
          simp only [unsettle, forgetLearned, unequip_learned, OrderedMap.get?_erase]
          by_cases same : entry = own
          · simp [same]
          · simp [same, Ne.symm same]
      | object | route | neighbor => simp [unsettle]

theorem counters_removeObject (removed : switch.removeObject key = .ok ((), next))
    (other : ObjectKey) :
    next.counters.get? other = if other = key then none else switch.counters.get? other := by
  unfold removeObject at removed
  split at removed
  · cases removed
  · next stored rest found =>
      obtain ⟨_, rfl⟩ := remove?_eq_some_iff.mp found
      cases removed
      rw [unsettle_counters, unequip_counters]
      exact OrderedMap.get?_erase _ _ _

/-- A removal gives back what the object took, and takes no other index. -/
theorem debugCounters_removeObject (removed : switch.removeObject key = .ok ((), next)) :
    ∃ attrs, switch.object? key = some attrs ∧
      next.debugCounters = (switch.unequip key.type attrs).debugCounters := by
  unfold removeObject at removed
  split at removed
  · cases removed
  · next stored rest found =>
      obtain ⟨there, rfl⟩ := remove?_eq_some_iff.mp found
      cases removed
      refine ⟨stored, there, ?_⟩
      rw [unsettle_debugCounters]
      unfold unequip
      split
      · split <;> rfl
      · rfl

theorem id_removeObject (removed : switch.removeObject key = .ok ((), next)) :
    next.id = switch.id := by
  unfold removeObject at removed
  split at removed
  · cases removed
  · next stored rest found =>
      obtain ⟨_, rfl⟩ := remove?_eq_some_iff.mp found
      cases removed
      rw [unsettle_id, unequip_id]

/-! ## Indexes of debug counters -/

theorem equip_eq_ok {type : ObjectType} {stored : Attributes}
    (equipped : switch.equip type attrs = .ok (stored, next)) :
    (type ≠ .debugCounter ∧ stored = attrs ∧ next = switch) ∨
      (type = .debugCounter ∧ ∃ index pool,
        switch.debugCounters.allocate = .ok (index, pool) ∧
          stored = attrs.insert .debugCounterIndex (.u32 index) ∧
          next = { switch with debugCounters := pool }) := by
  unfold equip at equipped
  split at equipped
  · next counter =>
      obtain ⟨⟨index, pool⟩, taken, same⟩ := Results.map_eq_ok_iff.mp equipped
      cases same
      exact .inr ⟨counter, index, pool, taken, rfl, rfl⟩
  · next other =>
      cases equipped
      exact .inl ⟨other, rfl, rfl⟩

/-- An index that was just taken was free before. -/
theorem get?_of_allocate {pool rest : DebugCounterPool} {index : UInt32}
    (taken : pool.allocate = .ok (index, rest)) :
    pool.used.get? index = none ∧ rest = ⟨pool.used.insert index ()⟩ := by
  unfold DebugCounterPool.allocate at taken
  split at taken
  · next lowest found =>
      cases taken
      have free : pool.isFree index = true := List.find?_some found
      unfold DebugCounterPool.isFree OrderedMap.contains at free
      cases there : pool.used.get? index with
      | none => exact ⟨rfl, rfl⟩
      | some _ => simp [there] at free
  · cases taken

/-- Giving back what an object needs, before the object was added, restores the switch. -/
theorem unequip_of_equip {type : ObjectType} {stored : Attributes}
    (equipped : switch.equip type attrs = .ok (stored, next)) :
    next.unequip type stored = switch := by
  rcases equip_eq_ok equipped with ⟨other, _, rfl⟩ | ⟨rfl, index, pool, taken, rfl, rfl⟩
  · unfold unequip
    rw [if_neg other]
  · obtain ⟨free, rfl⟩ := get?_of_allocate taken
    have held : Attributes.u32? (attrs.insert .debugCounterIndex (.u32 index))
        .debugCounterIndex = some index := by
      unfold Attributes.u32?
      rw [OrderedMap.get?_insert_self]
      rfl
    unfold unequip
    rw [if_pos rfl, held]
    simp only [DebugCounterPool.release, OrderedMap.erase_insert () free]

theorem equip_objects {type : ObjectType} {stored : Attributes}
    (equipped : switch.equip type attrs = .ok (stored, next)) :
    next.objects = switch.objects ∧ next.learned = switch.learned ∧ next.id = switch.id := by
  rcases equip_eq_ok equipped with ⟨_, _, rfl⟩ | ⟨_, _, _, _, _, rfl⟩
  · exact ⟨rfl, rfl, rfl⟩
  · exact ⟨rfl, rfl, rfl⟩

theorem object?_equip {type : ObjectType} {stored : Attributes}
    (equipped : switch.equip type attrs = .ok (stored, next)) (other : ObjectKey) :
    next.object? other = switch.object? other :=
  congrArg (OrderedMap.get? · other) (equip_objects equipped).1

/-- An object that is equipped and then inserted is stored beside those that were there before. -/
theorem object?_insert_of_equip {equipped : Switch} {type : ObjectType} {given : Attributes}
    (equips : switch.equip type given = .ok (attrs, equipped))
    (inserted : equipped.insert key attrs = .ok next) (other : ObjectKey) :
    next.object? other = if other = key then some attrs else switch.object? other := by
  rw [object?_insert inserted, object?_equip equips]

/-! ## Statistics -/

/-- Setting statistics changes nothing but statistics. -/
theorem setCounters_frame (counts : List (Stat × UInt64)) :
    (switch.setCounters key counts).objects = switch.objects ∧
      (switch.setCounters key counts).learned = switch.learned ∧
      (switch.setCounters key counts).id = switch.id := by
  unfold setCounters
  induction counts generalizing switch with
  | nil => exact ⟨rfl, rfl, rfl⟩
  | cons first rest ih => exact ih

theorem object?_setCounters (counts : List (Stat × UInt64)) (other : ObjectKey) :
    (switch.setCounters key counts).object? other = switch.object? other :=
  congrArg (OrderedMap.get? · other) (setCounters_frame counts).1

theorem contains_setCounters (counts : List (Stat × UInt64)) (other : ObjectKey) :
    (switch.setCounters key counts).contains other = switch.contains other :=
  congrArg (OrderedMap.contains · other) (setCounters_frame counts).1

@[simp] theorem setCounters_debugCounters (counts : List (Stat × UInt64)) :
    (switch.setCounters key counts).debugCounters = switch.debugCounters := by
  unfold setCounters
  induction counts generalizing switch with
  | nil => rfl
  | cons first rest ih => exact ih

/-! ## Learned entries -/

theorem object?_withoutEntries (gone : FdbKey → Bool) (other : ObjectKey) :
    (switch.withoutEntries gone).object? other =
      if selects gone other then none else switch.object? other := by
  unfold withoutEntries object?
  rw [OrderedMap.get?_filter]
  cases switch.objects.get? other <;> cases selects gone other <;> simp

theorem learned_withoutEntries (gone : FdbKey → Bool) (entry : FdbKey) :
    (switch.withoutEntries gone).learned.get? entry =
      if gone entry then none else switch.learned.get? entry := by
  unfold withoutEntries
  rw [OrderedMap.get?_filter]
  cases switch.learned.get? entry <;> cases gone entry <;> simp

theorem counters_withoutEntries (gone : FdbKey → Bool) (other : ObjectKey) :
    (switch.withoutEntries gone).counters.get? other =
      if selects gone other then none else switch.counters.get? other := by
  unfold withoutEntries
  rw [OrderedMap.get?_filter]
  cases switch.counters.get? other <;> cases selects gone other <;> simp

theorem syncLearned_objects (entry : FdbKey) :
    (switch.syncLearned entry now).objects = switch.objects := by
  unfold syncLearned
  split <;> rfl

theorem syncLearned_id (entry : FdbKey) : (switch.syncLearned entry now).id = switch.id := by
  unfold syncLearned
  split <;> rfl

theorem syncLearned_counters (entry : FdbKey) :
    (switch.syncLearned entry now).counters = switch.counters := by
  unfold syncLearned
  split <;> rfl

theorem syncLearned_debugCounters (entry : FdbKey) :
    (switch.syncLearned entry now).debugCounters = switch.debugCounters := by
  unfold syncLearned
  split <;> rfl

theorem object?_syncLearned (entry : FdbKey) (other : ObjectKey) :
    (switch.syncLearned entry now).object? other = switch.object? other := by
  unfold object?
  rw [syncLearned_objects]

/-- Bringing the index in line with one entry leaves what it says of the others. -/
theorem learned_syncLearned_of_ne {entry other : FdbKey} (different : other ≠ entry) :
    (switch.syncLearned entry now).learned.get? other = switch.learned.get? other := by
  unfold syncLearned
  split
  · simp [OrderedMap.get?_erase, different]
  · simp [OrderedMap.get?_insert, different]

theorem object?_forgetLearned (entry : FdbKey) (other : ObjectKey) :
    (switch.forgetLearned entry).object? other = switch.object? other := rfl

theorem learned_forgetLearned (entry other : FdbKey) :
    (switch.forgetLearned entry).learned.get? other =
      if other = entry then none else switch.learned.get? other :=
  OrderedMap.get?_erase _ _ _

theorem settle_objects : (switch.settle key now).objects = switch.objects := by
  cases key with
  | fdb entry => exact syncLearned_objects entry
  | object | route | neighbor => rfl

theorem settle_id : (switch.settle key now).id = switch.id := by
  cases key with
  | fdb entry => exact syncLearned_id entry
  | object | route | neighbor => rfl

theorem settle_counters : (switch.settle key now).counters = switch.counters := by
  cases key with
  | fdb entry => exact syncLearned_counters entry
  | object | route | neighbor => rfl

theorem settle_debugCounters :
    (switch.settle key now).debugCounters = switch.debugCounters := by
  cases key with
  | fdb entry => exact syncLearned_debugCounters entry
  | object | route | neighbor => rfl

theorem object?_write (attr : Attribute) (other : ObjectKey) :
    (switch.write key attr now).object? other =
      if other = key then (switch.object? other).map (·.insert attr.id attr.value.normalized)
      else switch.object? other := by
  unfold write
  rw [← object?_setAttr]
  unfold object?
  rw [settle_objects]

theorem write_id (attr : Attribute) : (switch.write key attr now).id = switch.id := by
  unfold write
  rw [settle_id, setAttr_id]

theorem write_counters (attr : Attribute) :
    (switch.write key attr now).counters = switch.counters := by
  unfold write
  rw [settle_counters]
  rfl

theorem write_debugCounters (attr : Attribute) :
    (switch.write key attr now).debugCounters = switch.debugCounters := by
  unfold write
  rw [settle_debugCounters]
  rfl

/-- Adding an entry adds its object, whatever becomes of the index. -/
theorem addEntry_eq_ok (added : switch.addEntry key attrs now = .ok ((), next)) :
    ∃ stored, switch.insert key attrs = .ok stored ∧
      next = if isDynamic attrs then stored.settle key now else stored := by
  obtain ⟨stored, inserted, same⟩ := Results.map_eq_ok_iff.mp added
  exact ⟨stored, inserted, (congrArg Prod.snd same).symm⟩

theorem object?_addEntry (added : switch.addEntry key attrs now = .ok ((), next))
    (other : ObjectKey) :
    next.object? other = if other = key then some attrs else switch.object? other := by
  obtain ⟨stored, inserted, rfl⟩ := addEntry_eq_ok added
  rw [← object?_insert inserted]
  split
  · unfold object?
    rw [settle_objects]
  · rfl

theorem id_addEntry (added : switch.addEntry key attrs now = .ok ((), next)) :
    next.id = switch.id := by
  obtain ⟨stored, inserted, rfl⟩ := addEntry_eq_ok added
  rw [← id_insert inserted]
  split
  · exact settle_id
  · rfl

theorem counters_addEntry (added : switch.addEntry key attrs now = .ok ((), next)) :
    next.counters = switch.counters := by
  obtain ⟨stored, inserted, rfl⟩ := addEntry_eq_ok added
  rw [← counters_insert inserted]
  split
  · exact settle_counters
  · rfl

theorem debugCounters_addEntry (added : switch.addEntry key attrs now = .ok ((), next)) :
    next.debugCounters = switch.debugCounters := by
  obtain ⟨stored, inserted, rfl⟩ := addEntry_eq_ok added
  rw [← debugCounters_insert inserted]
  split
  · exact settle_debugCounters
  · rfl

end Switch

end SwitchAbstraction
