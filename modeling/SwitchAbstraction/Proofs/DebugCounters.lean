import Mathlib.Data.List.Perm.Subperm
import SwitchAbstraction.Proofs.Creations
import SwitchAbstraction.Proofs.Refusals
import SwitchAbstraction.Proofs.TypedStore

/-!
# Debug counters and their indexes

The pool of a switch knows the indexes in use, and every debug counter stores
the index that it holds.  The two agree after every run in which no message
writes attributes past the rules.  So an index is free exactly if no counter
holds it, and a counter can be created as long as fewer live than there are
indexes.
-/

namespace SwitchAbstraction

open Results

/-! ## The pool -/

namespace DebugCounterPool

variable {pool rest : DebugCounterPool} {index : UInt32}

theorem isFree_iff : pool.isFree index = true ↔ index ∉ pool.used.keys := by
  rw [OrderedMap.mem_keys_iff]
  simp [isFree, OrderedMap.contains]

/-- An index that is taken is below the limit and free, and all smaller ones are in use. -/
theorem allocate_eq_ok (taken : pool.allocate = .ok (index, rest)) :
    index.toNat < limit ∧ index ∉ pool.used.keys ∧
      (∀ smaller < index, smaller ∈ pool.used.keys) ∧
      rest = ⟨pool.used.insert index ()⟩ := by
  unfold allocate at taken
  split at taken
  · next lowest found =>
      cases taken
      unfold lowestFree? at found
      rw [List.find?_map] at found
      obtain ⟨position, first, rfl⟩ := Option.map_eq_some_iff.mp found
      obtain ⟨free, inRange, earlier⟩ := List.find?_range_eq_some.mp first
      have inside : position < limit := List.mem_range.mp inRange
      have number : (UInt32.ofNat position).toNat = position :=
        UInt32.toNat_ofNat_of_lt' (Nat.lt_trans inside (by decide))
      refine ⟨number.symm ▸ inside, isFree_iff.mp free, ?_, rfl⟩
      intro smaller before
      rw [UInt32.lt_iff_toNat_lt, number] at before
      have used := earlier smaller.toNat before
      simp only [Function.comp_apply, UInt32.ofNat_toNat, Bool.not_eq_true'] at used
      by_contra free
      rw [isFree_iff.mpr free] at used
      cases used
  · cases taken

/-- No index can be taken only if all below the limit are in use. -/
theorem allocate_eq_error {fault : Fault} (refused : pool.allocate = .error fault) :
    (∀ index : UInt32, index.toNat < limit → index ∈ pool.used.keys) ∧
      fault.status = .failure := by
  unfold allocate at refused
  split at refused
  · cases refused
  · next none =>
      cases refused
      refine ⟨?_, rfl⟩
      intro index below
      unfold lowestFree? at none
      rw [List.find?_map, Option.map_eq_none_iff, List.find?_range_eq_none] at none
      have used := none index.toNat below
      simp only [Function.comp_apply, UInt32.ofNat_toNat, Bool.not_eq_true'] at used
      by_contra free
      rw [isFree_iff.mpr free] at used
      cases used

/-- The indexes that there are. -/
def indexes : List UInt32 :=
  (List.range limit).map UInt32.ofNat

theorem mem_indexes_iff : index ∈ indexes ↔ index.toNat < limit := by
  unfold indexes
  rw [List.mem_map]
  constructor
  · rintro ⟨position, inRange, rfl⟩
    have inside : position < limit := List.mem_range.mp inRange
    rw [UInt32.toNat_ofNat_of_lt' (Nat.lt_trans inside (by decide))]
    exact inside
  · intro below
    exact ⟨index.toNat, List.mem_range.mpr below, UInt32.ofNat_toNat⟩

/-- Some index is free exactly if fewer are in use than there are. -/
theorem exists_free_iff (bounded : ∀ index ∈ pool.used.keys, index.toNat < limit) :
    (∃ index : UInt32, index.toNat < limit ∧ index ∉ pool.used.keys) ↔ pool.inUse < limit := by
  have size : pool.used.keys.length = pool.inUse := List.length_map _
  have number : indexes.length = limit := rfl
  constructor
  · rintro ⟨index, below, free⟩
    have distinct : (index :: pool.used.keys).Nodup :=
      List.nodup_cons.mpr ⟨free, OrderedMap.nodup_keys _⟩
    have inside : index :: pool.used.keys ⊆ indexes := by
      intro other member
      rcases List.mem_cons.mp member with rfl | used
      · exact mem_indexes_iff.mpr below
      · exact mem_indexes_iff.mpr (bounded other used)
    have fits := (distinct.subperm inside).length_le
    rw [List.length_cons] at fits
    omega
  · intro few
    by_contra none
    have inside : indexes ⊆ pool.used.keys := by
      intro index member
      by_contra free
      exact none ⟨index, mem_indexes_iff.mp member, free⟩
    have distinct : indexes.Nodup := by decide
    have fits := (distinct.subperm inside).length_le
    omega

end DebugCounterPool

/-! ## Agreement -/

namespace Switch

variable {switch next : Switch} {key : ObjectKey} {index : UInt32} {now : UInt64}

/-- What is stored as the index of an object, if the object is there. -/
def indexSlot? (switch : Switch) (key : ObjectKey) : Option (Option AttrValue) :=
  (switch.object? key).map fun attrs => attrs.get? .debugCounterIndex

/-- A live debug counter holds an index. -/
def Holds (switch : Switch) (key : ObjectKey) (index : UInt32) : Prop :=
  key.type = .debugCounter ∧ switch.indexSlot? key = some (some (.u32 index))

/--
Every live debug counter holds an index below the limit, no two hold the same
one, and the pool has exactly these indexes in use.
-/
structure PoolAgrees (switch : Switch) : Prop where
  indexed : ∀ {key slot}, key.type = .debugCounter → switch.indexSlot? key = some slot →
    ∃ index : UInt32, slot = some (.u32 index) ∧ index.toNat < DebugCounterPool.limit
  distinct : ∀ {first second index}, switch.Holds first index → switch.Holds second index →
    first = second
  used_iff : ∀ {index}, index ∈ switch.debugCounters.used.keys ↔ ∃ key, switch.Holds key index

theorem holds_iff : switch.Holds key index ↔ key.type = .debugCounter ∧
    ∃ attrs, switch.object? key = some attrs ∧
      attrs.get? .debugCounterIndex = some (.u32 index) := by
  unfold Holds indexSlot?
  rw [Option.map_eq_some_iff]

theorem Holds.unique {other : UInt32} (first : switch.Holds key index)
    (second : switch.Holds key other) : index = other := by
  have same := first.2.symm.trans second.2
  cases same
  rfl

theorem indexSlot?_of_object?_eq (same : next.object? key = switch.object? key) :
    next.indexSlot? key = switch.indexSlot? key := by
  unfold indexSlot?
  rw [same]

/-- A change that leaves the pool and the indexes of debug counters alone keeps them agreed. -/
theorem PoolAgrees.congr (agrees : switch.PoolAgrees)
    (pool : next.debugCounters = switch.debugCounters)
    (slots : ∀ key, key.type = .debugCounter → next.indexSlot? key = switch.indexSlot? key) :
    next.PoolAgrees := by
  have holds {key : ObjectKey} {index : UInt32} :
      next.Holds key index ↔ switch.Holds key index := by
    unfold Holds
    constructor
    · rintro ⟨counter, held⟩
      exact ⟨counter, (slots key counter) ▸ held⟩
    · rintro ⟨counter, held⟩
      exact ⟨counter, (slots key counter).symm ▸ held⟩
  constructor
  · intro key slot counter there
    rw [slots key counter] at there
    exact agrees.indexed counter there
  · intro first second index one other
    exact agrees.distinct (holds.mp one) (holds.mp other)
  · intro index
    rw [pool, agrees.used_iff]
    exact exists_congr fun _ => holds.symm

/-- A new debug counter that takes a free index keeps pool and counters agreed. -/
theorem PoolAgrees.take (agrees : switch.PoolAgrees) (counter : key.type = .debugCounter)
    (absent : switch.indexSlot? key = none) (below : index.toNat < DebugCounterPool.limit)
    (free : index ∉ switch.debugCounters.used.keys)
    (pool : next.debugCounters = ⟨switch.debugCounters.used.insert index ()⟩)
    (slots : ∀ other, next.indexSlot? other =
      if other = key then some (some (.u32 index)) else switch.indexSlot? other) :
    next.PoolAgrees := by
  have holds {other : ObjectKey} {held : UInt32} : next.Holds other held ↔
      (other = key ∧ held = index) ∨ switch.Holds other held := by
    unfold Holds
    rw [slots]
    by_cases own : other = key
    · subst own
      simp [counter, absent, eq_comm]
    · simp [own]
  have unheld (other : ObjectKey) : ¬ switch.Holds other index := by
    intro held
    exact free (agrees.used_iff.mpr ⟨other, held⟩)
  constructor
  · intro other slot isCounter there
    rw [slots] at there
    split at there
    · cases there
      exact ⟨index, rfl, below⟩
    · exact agrees.indexed isCounter there
  · intro first second held one other
    rcases holds.mp one with ⟨rfl, rfl⟩ | before
    · rcases holds.mp other with ⟨rfl, _⟩ | before'
      · rfl
      · exact absurd before' (unheld second)
    · rcases holds.mp other with ⟨rfl, rfl⟩ | before'
      · exact absurd before (unheld first)
      · exact agrees.distinct before before'
  · intro held
    rw [pool, OrderedMap.mem_keys_insert_iff, agrees.used_iff]
    constructor
    · rintro (rfl | ⟨other, before⟩)
      · exact ⟨key, holds.mpr (.inl ⟨rfl, rfl⟩)⟩
      · exact ⟨other, holds.mpr (.inr before)⟩
    · rintro ⟨other, there⟩
      rcases holds.mp there with ⟨_, rfl⟩ | before
      · exact .inl rfl
      · exact .inr ⟨other, before⟩

/-- A debug counter that is removed and gives its index back keeps the others agreed. -/
theorem PoolAgrees.giveBack (agrees : switch.PoolAgrees) (held : switch.Holds key index)
    (pool : next.debugCounters = switch.debugCounters.release index)
    (slots : ∀ other, next.indexSlot? other =
      if other = key then none else switch.indexSlot? other) :
    next.PoolAgrees := by
  have holds {other : ObjectKey} {kept : UInt32} :
      next.Holds other kept ↔ other ≠ key ∧ switch.Holds other kept := by
    unfold Holds
    rw [slots]
    by_cases own : other = key
    · simp [own]
    · simp [own]
  constructor
  · intro other slot counter there
    rw [slots] at there
    split at there
    · cases there
    · exact agrees.indexed counter there
  · intro first second kept one other
    exact agrees.distinct (holds.mp one).2 (holds.mp other).2
  · intro kept
    have released : kept ∈ next.debugCounters.used.keys ↔
        kept ≠ index ∧ kept ∈ switch.debugCounters.used.keys := by
      rw [pool]
      exact OrderedMap.mem_keys_erase_iff
    rw [released, agrees.used_iff]
    constructor
    · rintro ⟨different, other, before⟩
      refine ⟨other, holds.mpr ⟨?_, before⟩⟩
      rintro rfl
      exact different (before.unique held)
    · rintro ⟨other, there⟩
      obtain ⟨different, before⟩ := holds.mp there
      refine ⟨?_, other, before⟩
      rintro rfl
      exact different (agrees.distinct before held)

/-! ## Edits -/

theorem indexSlot?_write {attr : Attribute} (other : ObjectKey) :
    (switch.write key attr now).indexSlot? other =
      if other = key ∧ attr.id = .debugCounterIndex then
        (switch.indexSlot? other).map fun _ => some attr.value.normalized
      else switch.indexSlot? other := by
  unfold indexSlot?
  rw [object?_write]
  by_cases own : other = key
  · by_cases indexing : attr.id = .debugCounterIndex
    · simp [own, indexing, Function.comp_def]
    · simp [own, indexing, Function.comp_def, OrderedMap.get?_insert, Ne.symm indexing]
  · simp [own]

theorem indexSlot?_refresh (other : ObjectKey) :
    (switch.refresh key).indexSlot? other = switch.indexSlot? other := by
  have same := sameBut_refresh key switch
  by_cases own : other = key
  · subst own
    unfold indexSlot?
    cases there : switch.object? other with
    | none => rw [same.absent there]
    | some attrs =>
        obtain ⟨fresh, after, kept⟩ := same.present there
        rw [after]
        exact congrArg some (kept .debugCounterIndex rfl)
  · exact indexSlot?_of_object?_eq (same.others other own)

theorem PoolAgrees.removeObject (agrees : switch.PoolAgrees)
    (removed : switch.removeObject key = .ok ((), next)) : next.PoolAgrees := by
  obtain ⟨attrs, stored, pool⟩ := debugCounters_removeObject removed
  have slots (other : ObjectKey) : next.indexSlot? other =
      if other = key then none else switch.indexSlot? other := by
    unfold indexSlot?
    rw [object?_removeObject removed]
    split <;> rfl
  by_cases counter : key.type = .debugCounter
  · have there : switch.indexSlot? key = some (attrs.get? .debugCounterIndex) := by
      unfold indexSlot?
      rw [stored]
      rfl
    obtain ⟨index, same, _⟩ := agrees.indexed counter there
    rw [same] at there
    refine agrees.giveBack ⟨counter, there⟩ ?_ slots
    rw [pool]
    unfold unequip Attributes.u32?
    rw [if_pos counter, same]
    rfl
  · refine agrees.congr ?_ ?_
    · rw [pool]
      unfold unequip
      rw [if_neg counter]
    · intro other isCounter
      rw [slots, if_neg]
      rintro rfl
      exact counter isCounter

/-- Only a message that bypasses the rules for writing can write the index of a debug counter. -/
theorem ne_index_of_checkWritable {type : ObjectType} {attr : Attribute}
    (passed : attr.checkWritable type false = .ok ()) : attr.id ≠ .debugCounterIndex := by
  intro indexing
  unfold Attribute.checkWritable at passed
  split at passed
  · cases passed
  · split at passed
    · cases passed
    · rw [indexing] at passed
      cases passed

theorem type_ne_of_entry (entry : key.id? = none) : key.type ≠ .debugCounter := by
  cases key with
  | object id => cases entry
  | fdb | route | neighbor =>
      intro impossible
      cases impossible

/-- What a command does that writes past no rules keeps pool and counters agreed. -/
theorem PoolAgrees.edit (agrees : switch.PoolAgrees) {command : Command} {owner : ObjectId}
    (ordinary : command.overrides = false) (edit : Edit now command owner switch next) :
    next.PoolAgrees := by
  cases edit with
  | remove _ removed => exact agrees.removeObject removed
  | @write key attr readOnly _ writable _ _ bypassed =>
      have guarded : readOnly = false := by
        cases readOnly with
        | false => rfl
        | true =>
            rw [bypassed rfl] at ordinary
            cases ordinary
      rw [guarded] at writable
      refine agrees.congr (write_debugCounters attr) fun other _ => ?_
      rw [indexSlot?_write, if_neg]
      rintro ⟨_, indexing⟩
      exact ne_index_of_checkWritable writable indexing
  | refresh _ =>
      exact agrees.congr refresh_frame.2.2.2 fun other _ => indexSlot?_refresh other
  | addEntry _ _ passed added =>
      obtain ⟨_, isEntry, _⟩ := bind_eq_ok_iff.mp passed
      refine agrees.congr (debugCounters_addEntry added) fun other counter => ?_
      apply indexSlot?_of_object?_eq
      rw [object?_addEntry added, if_neg]
      rintro rfl
      exact type_ne_of_entry (ObjectKey.checkEntry_eq_ok isEntry).1 counter
  | count counts _ =>
      refine agrees.congr (setCounters_debugCounters counts) fun other _ => ?_
      apply indexSlot?_of_object?_eq
      exact object?_setCounters counts other
  | flush filter =>
      refine agrees.congr rfl fun other counter => ?_
      apply indexSlot?_of_object?_eq
      change (switch.withoutEntries _).object? other = _
      rw [object?_withoutEntries]
      cases other with
      | object id => rfl
      | fdb | route | neighbor => cases counter
  | @learn entry port events _ _ _ learned =>
      refine agrees.congr (debugCounters_learn learned) fun other counter => ?_
      apply indexSlot?_of_object?_eq
      refine object?_learn_of_ne learned ?_
      rintro rfl
      cases counter

/-- A switch without debug counters and with a fresh pool has them agreed. -/
theorem poolAgrees_of_none (fresh : switch.debugCounters = .fresh)
    (none : ∀ key, key.type = .debugCounter → switch.object? key = none) :
    switch.PoolAgrees := by
  have absent {key : ObjectKey} (counter : key.type = .debugCounter) :
      switch.indexSlot? key = Option.none := by
    unfold indexSlot?
    rw [none key counter]
    rfl
  have unheld (key : ObjectKey) (index : UInt32) : ¬ switch.Holds key index := by
    rintro ⟨counter, held⟩
    rw [absent counter] at held
    cases held
  constructor
  · intro key slot counter there
    rw [absent counter] at there
    cases there
  · intro first second index held
    exact absurd held (unheld first index)
  · intro index
    rw [fresh]
    constructor
    · intro impossible
      cases impossible
    · rintro ⟨key, held⟩
      exact absurd held (unheld key index)

/-- A new object keeps pool and counters agreed, as a debug counter takes a free index. -/
theorem PoolAgrees.added (agrees : switch.PoolAgrees) {type : ObjectType}
    {attrs stored : Attributes} {equipped : Switch} {id : ObjectId}
    (equips : switch.equip type attrs = .ok (stored, equipped))
    (inserted : equipped.insert (.object id) stored = .ok next) (typed : id.type? = some type) :
    next.PoolAgrees := by
  obtain ⟨absent, _⟩ := insert_eq_ok_iff.mp inserted
  have slots (other : ObjectKey) : next.indexSlot? other =
      if other = .object id then some (stored.get? .debugCounterIndex)
      else switch.indexSlot? other := by
    unfold indexSlot?
    rw [object?_insert_of_equip equips inserted]
    split <;> rfl
  rcases equip_eq_ok equips with ⟨other, rfl, rfl⟩ | ⟨rfl, index, pool, taken, rfl, rfl⟩
  · refine agrees.congr (debugCounters_insert inserted) fun key counter => ?_
    rw [slots, if_neg]
    rintro rfl
    rw [ObjectKey.type_object typed] at counter
    exact other counter
  · obtain ⟨below, free, _, rfl⟩ := DebugCounterPool.allocate_eq_ok taken
    simp only [OrderedMap.get?_insert_self] at slots
    refine agrees.take (ObjectKey.type_object typed) ?_ below free
      (debugCounters_insert inserted) slots
    unfold indexSlot?
    rw [Option.map_eq_none_iff]
    exact absent

theorem isKept_poolAgrees :
    Chassis.IsKept (fun command => command.overrides = false) fun _ switch =>
      switch.PoolAgrees where
  built passed same built := by
    refine poolAgrees_of_none built.debugCounters_eq fun key counter => ?_
    cases stored : Switch.object? _ key with
    | none => rfl
    | some attrs =>
        obtain ⟨first, _, _⟩ := typed_of_isBuilt passed same built stored
        rw [counter] at first
        exact absurd first (by decide)
  edited ordinary edit _ agrees := agrees.edit ordinary edit
  added _ _ equips inserted drawn agrees := agrees.added equips inserted drawn.1
  aged now agrees := by
    refine agrees.congr (expireAll_debugCounters _) fun key counter => ?_
    apply indexSlot?_of_object?_eq
    refine object?_expireAll_of_ne ?_ _
    rintro entry rfl
    cases counter

/-! ## Creating debug counters -/

theorem mem_objectsOf_iff {type : ObjectType} {entry : ObjectKey × Attributes} :
    entry ∈ switch.objectsOf type ↔
      entry.1.type = type ∧ switch.object? entry.1 = some entry.2 := by
  unfold objectsOf object?
  rw [List.mem_filter, decide_eq_true_iff, OrderedMap.get?_eq_some_iff, and_comm]

theorem nodup_objectsOf (type : ObjectType) : (switch.objectsOf type).Nodup :=
  List.Nodup.filter _ (List.Nodup.of_map Prod.fst (OrderedMap.nodup_keys _))

/-- The index that a debug counter with some attributes holds. -/
def counterIndex (attrs : Attributes) : UInt32 :=
  (attrs.u32? .debugCounterIndex).getD 0

theorem PoolAgrees.holds_counterIndex (agrees : switch.PoolAgrees)
    {entry : ObjectKey × Attributes} (live : entry ∈ switch.objectsOf .debugCounter) :
    switch.Holds entry.1 (counterIndex entry.2) := by
  obtain ⟨counter, stored⟩ := mem_objectsOf_iff.mp live
  have there : switch.indexSlot? entry.1 = some (entry.2.get? .debugCounterIndex) := by
    unfold indexSlot?
    rw [stored]
    rfl
  obtain ⟨index, same, _⟩ := agrees.indexed counter there
  have read : counterIndex entry.2 = index := by
    unfold counterIndex Attributes.u32?
    rw [same]
    rfl
  rw [read]
  exact ⟨counter, there.trans (congrArg some same)⟩

theorem PoolAgrees.nodup_counterIndex (agrees : switch.PoolAgrees) :
    ((switch.objectsOf .debugCounter).map fun entry => counterIndex entry.2).Nodup := by
  refine List.Nodup.map_on ?_ (nodup_objectsOf _)
  intro first one second other same
  have keys : first.1 = second.1 := by
    refine agrees.distinct (agrees.holds_counterIndex one) ?_
    rw [same]
    exact agrees.holds_counterIndex other
  have stored := (mem_objectsOf_iff.mp one).2
  rw [keys, (mem_objectsOf_iff.mp other).2] at stored
  exact Prod.ext keys (Option.some.inj stored).symm

/-- There are as many live debug counters as indexes in use. -/
theorem PoolAgrees.inUse_eq (agrees : switch.PoolAgrees) :
    switch.debugCounters.inUse = (switch.objectsOf .debugCounter).length := by
  have perm : List.Perm switch.debugCounters.used.keys
      ((switch.objectsOf .debugCounter).map fun entry => counterIndex entry.2) := by
    refine (List.perm_ext_iff_of_nodup (OrderedMap.nodup_keys _)
      agrees.nodup_counterIndex).mpr fun used => ?_
    rw [agrees.used_iff, List.mem_map]
    constructor
    · rintro ⟨key, held⟩
      obtain ⟨counter, attrs, stored, _⟩ := holds_iff.mp held
      have live : (key, attrs) ∈ switch.objectsOf .debugCounter :=
        mem_objectsOf_iff.mpr ⟨counter, stored⟩
      exact ⟨(key, attrs), live, (agrees.holds_counterIndex live).unique held⟩
    · rintro ⟨entry, live, rfl⟩
      exact ⟨entry.1, agrees.holds_counterIndex live⟩
  have lengths := perm.length_eq
  rw [List.length_map] at lengths
  rw [← lengths]
  exact (List.length_map _).symm

theorem PoolAgrees.bounded (agrees : switch.PoolAgrees) :
    ∀ index ∈ switch.debugCounters.used.keys, index.toNat < DebugCounterPool.limit := by
  intro index used
  obtain ⟨key, counter, held⟩ := agrees.used_iff.mp used
  obtain ⟨other, same, below⟩ := agrees.indexed counter held
  cases same
  exact below

end Switch

/-- Attributes that may be given to a new object of a type. -/
structure Attribute.AreCreatable (type : ObjectType) (attrs : List Attribute) : Prop where
  fit : ∀ attr ∈ attrs, attr.fits type = true
  writable : ∀ attr ∈ attrs, attr.id.isReadOnly = false
  distinct : (attrs.map Attribute.id).Nodup

theorem Attribute.AreCreatable.checkAll {type : ObjectType} {attrs : List Attribute}
    (valid : AreCreatable type attrs) {seen : List AttrId}
    (unseen : ∀ attr ∈ attrs, attr.id ∉ seen) :
    Attribute.checkAll type false seen attrs = .ok () := by
  induction attrs generalizing seen with
  | nil => rfl
  | cons attr rest ih =>
      obtain ⟨own, kind⟩ := fits_iff.mp (valid.fit attr List.mem_cons_self)
      obtain ⟨once, distinct⟩ := List.nodup_cons.mp valid.distinct
      have first : attr.checkWritable type false = .ok () := by
        simp [checkWritable, checkKind, hasDeclaredKind, own, kind,
          valid.writable attr List.mem_cons_self]
      have others : AreCreatable type rest := by
        refine ⟨fun other member => ?_, fun other member => ?_, distinct⟩
        · exact valid.fit other (List.mem_cons_of_mem _ member)
        · exact valid.writable other (List.mem_cons_of_mem _ member)
      have unseenRest : ∀ other ∈ rest, other.id ∉ attr.id :: seen := by
        intro other member old
        rcases List.mem_cons.mp old with same | before
        · exact once (same ▸ List.mem_map_of_mem member)
        · exact unseen other (List.mem_cons_of_mem _ member) before
      unfold Attribute.checkAll
      rw [first]
      dsimp only
      rw [if_neg (unseen attr List.mem_cons_self)]
      exact ih others unseenRest

namespace Chassis

variable {chassis : Chassis} {log : List ObjectId} {owner : ObjectId} {switch : Switch}
  {attrs : List Attribute}

theorem create_debugCounter (valid : Attribute.AreCreatable .debugCounter attrs) :
    chassis.create .debugCounter owner attrs =
      chassis.createObject .debugCounter owner attrs := by
  have checked : checkCreate .debugCounter attrs = .ok () :=
    bind_eq_ok_iff.mpr ⟨(), rfl, valid.checkAll fun _ _ old => by cases old⟩
  unfold create
  rw [checked]
  rfl

/-- Without a free index no debug counter is created. -/
theorem create_of_allocate_eq_error (valid : Attribute.AreCreatable .debugCounter attrs)
    (found : chassis.switches.find owner = .ok switch) {fault : Fault}
    (exhausted : switch.debugCounters.allocate = .error fault) :
    chassis.create .debugCounter owner attrs = (.error fault, chassis) := by
  have refused : switch.equip .debugCounter (.ofList attrs) = .error fault :=
    map_eq_error_iff.mpr exhausted
  rw [create_debugCounter valid]
  unfold createObject
  rw [found]
  dsimp only
  rw [refused]
  rfl

/-- With a free index and an id to be had, a debug counter is created that holds that index. -/
theorem Ledger.create_of_allocate_eq_ok (ledger : Ledger log chassis)
    (valid : Attribute.AreCreatable .debugCounter attrs)
    (found : chassis.switches.find owner = .ok switch)
    (fits : chassis.ids.last + 1 < ObjectId.counterLimit) {index : UInt32}
    {pool : DebugCounterPool} (taken : switch.debugCounters.allocate = .ok (index, pool)) :
    ∃ id next after, chassis.create .debugCounter owner attrs = (.ok id, next) ∧
      next.switches.get? owner.switchIndex = some after ∧ after.Holds (.object id) index := by
  let stored : Attributes := (Attributes.ofList attrs).insert .debugCounterIndex (.u32 index)
  let equipped : Switch := { switch with debugCounters := pool }
  let id : ObjectId := .compose owner.switchIndex .debugCounter (chassis.ids.last + 1)
  let after : Switch := { equipped with objects := equipped.objects.insert (.object id) stored }
  obtain ⟨_, registered⟩ := Registry.find_eq_ok_iff.mp found
  have equips : switch.equip .debugCounter (.ofList attrs) = .ok (stored, equipped) :=
    map_eq_ok_iff.mpr ⟨(index, pool), taken, rfl⟩
  have drawn : chassis.ids.allocate owner.switchIndex .debugCounter =
      .ok (id, ⟨chassis.ids.last + 1⟩) :=
    IdAllocator.allocate_of_lt rfl fits
  have unnamed : switch.object? (.object id) = none :=
    ledger.object?_of_drawn rfl registered drawn
  have absent : equipped.object? (.object id) = none := unnamed
  have inserted : equipped.insert (.object id) stored = .ok after :=
    Switch.insert_eq_ok_iff.mpr ⟨absent, rfl⟩
  have placed : equipped.place chassis.ids owner.switchIndex .debugCounter stored =
      (.ok (id, after), ⟨chassis.ids.last + 1⟩) := by
    unfold Switch.place
    rw [drawn]
    dsimp only
    rw [inserted]
    rfl
  have done : chassis.createObject .debugCounter owner attrs =
      (.ok id, { chassis.put owner after with ids := ⟨chassis.ids.last + 1⟩ }) := by
    unfold createObject
    rw [found]
    dsimp only
    rw [equips]
    dsimp only
    rw [placed]
    rfl
  refine ⟨id, _, after, (create_debugCounter valid).trans done, ?_, ?_⟩
  · exact (get?_put _).trans (if_pos rfl)
  · refine Switch.holds_iff.mpr ⟨ObjectKey.type_object (ObjectId.type?_compose fits), stored, ?_⟩
    exact ⟨OrderedMap.get?_insert_self _ _ _, OrderedMap.get?_insert_self _ _ _⟩

/--
As long as no message writes past the rules, on every switch the pool and the
debug counters agree.  So, while there are ids, a debug counter with valid
attributes is created exactly if fewer live on its switch than there are
indexes, with the lowest index that none of them holds; otherwise the creation
fails.
-/
theorem debug_counters_hold_pool (settings : Settings) {history : List (UInt64 × Command)}
    (ordinary : ∀ entry ∈ history, entry.2.overrides = false) :
    let chassis := (start settings).run history
    (∀ {index switch}, chassis.switches.get? index = some switch → switch.PoolAgrees) ∧
    ∀ {owner switch attrs}, chassis.switches.find owner = .ok switch →
      Attribute.AreCreatable .debugCounter attrs →
      chassis.ids.last + 1 < ObjectId.counterLimit →
      ((∃ id next, chassis.create .debugCounter owner attrs = (.ok id, next)) ↔
        (switch.objectsOf .debugCounter).length < DebugCounterPool.limit) ∧
      (∀ {id next}, chassis.create .debugCounter owner attrs = (.ok id, next) →
        ∃ after index, next.switches.get? owner.switchIndex = some after ∧
          after.Holds (.object id) index ∧ (∀ key, ¬ switch.Holds key index) ∧
          ∀ smaller < index, ∃ key, switch.Holds key smaller) ∧
      ∀ {fault next}, chassis.create .debugCounter owner attrs = (.error fault, next) →
        fault.status = .failure := by
  intro chassis
  have agreed : chassis.Everywhere fun _ switch => switch.PoolAgrees :=
    Switch.isKept_poolAgrees.run settings ordinary
  refine ⟨agreed, ?_⟩
  intro owner switch attrs found valid fits
  obtain ⟨_, registered⟩ := Registry.find_eq_ok_iff.mp found
  have agrees : switch.PoolAgrees := agreed registered
  have free := DebugCounterPool.exists_free_iff agrees.bounded
  rw [agrees.inUse_eq] at free
  have ledger := ledger_run settings history
  cases taken : switch.debugCounters.allocate with
  | error fault =>
      obtain ⟨full, status⟩ := DebugCounterPool.allocate_eq_error taken
      have refused := create_of_allocate_eq_error valid found taken
      refine ⟨?_, ?_, ?_⟩
      · rw [← free]
        constructor
        · rintro ⟨id, next, created⟩
          rw [refused] at created
          cases (Prod.mk.inj created).1
        · rintro ⟨index, below, unused⟩
          exact absurd (full index below) unused
      · intro id next created
        rw [refused] at created
        cases (Prod.mk.inj created).1
      · intro cause next failed
        rw [refused] at failed
        cases (Prod.mk.inj failed).1
        exact status
  | ok pair =>
      obtain ⟨index, pool⟩ := pair
      obtain ⟨below, unused, smaller, _⟩ := DebugCounterPool.allocate_eq_ok taken
      obtain ⟨id, next, after, created, there, holds⟩ :=
        ledger.create_of_allocate_eq_ok valid found fits taken
      refine ⟨?_, ?_, ?_⟩
      · rw [← free]
        constructor
        · intro _
          exact ⟨index, below, unused⟩
        · intro _
          exact ⟨id, next, created⟩
      · intro given reached done
        rw [created] at done
        cases done
        refine ⟨after, index, there, holds, ?_, ?_⟩
        · intro key held
          exact unused (agrees.used_iff.mpr ⟨key, held⟩)
        · intro other before
          exact agrees.used_iff.mp (smaller other before)
      · intro fault reached failed
        rw [created] at failed
        cases (Prod.mk.inj failed).1

/-- A switch with one debug counter, created after another one that was removed. -/
def oneCounter : List (UInt64 × Command) :=
  [(0, .call (.create .switch .null [])),
    (1, .call (.create .debugCounter (.ofSwitchIndex 0) [])),
    (2, .call (.create .debugCounter (.ofSwitchIndex 0) [])),
    (3, .call (.remove .debugCounter (.compose 0 .debugCounter 9)))]

theorem third_counter_is_created :
    ∃ switch, ((start .singlePort).run oneCounter).switches.find (.ofSwitchIndex 0) =
        .ok switch ∧ switch.PoolAgrees ∧
      ∃ id next, ((start .singlePort).run oneCounter).create .debugCounter (.ofSwitchIndex 0)
        [⟨.debugCounterType, .s32 0⟩] = (.ok id, next) := by
  have ordinary : ∀ entry ∈ oneCounter, entry.2.overrides = false := by
    decide
  obtain ⟨agrees, creates⟩ := debug_counters_hold_pool .singlePort ordinary
  have few : (((start .singlePort).run oneCounter).switches.get? 0).map
      (fun switch => (switch.objectsOf .debugCounter).length) = some 1 := by
    decide +kernel
  obtain ⟨switch, registered, one⟩ := Option.map_eq_some_iff.mp few
  have found : ((start .singlePort).run oneCounter).switches.find (.ofSwitchIndex 0) =
      .ok switch :=
    Registry.find_eq_ok_iff.mpr ⟨ObjectId.type?_ofSwitchIndex 0, registered⟩
  have valid : Attribute.AreCreatable .debugCounter [⟨.debugCounterType, .s32 0⟩] :=
    ⟨by decide, by decide, by decide⟩
  have fits : ((start .singlePort).run oneCounter).ids.last + 1 < ObjectId.counterLimit := by
    decide +kernel
  obtain ⟨created, _⟩ := creates found valid fits
  refine ⟨switch, found, agrees registered, created.mpr ?_⟩
  rw [one]
  decide

end Chassis

end SwitchAbstraction
