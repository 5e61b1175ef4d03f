import SwitchAbstraction.Proofs.Edits
import SwitchAbstraction.Proofs.Runs
import SwitchAbstraction.Proofs.StoredEntries

/-!
# The index of learned entries

A dynamic forwarding entry is an object and a record in the index at once.
Whatever happens to a switch, the index has a record of exactly the dynamic
entries, each with the bridge port of its entry.
-/

namespace SwitchAbstraction

namespace Switch

variable {switch next : Switch} {key : FdbKey} {now : UInt64}

/-- What a switch stores of a forwarding entry and what its index says of it agree. -/
structure MirroredAt (switch : Switch) (key : FdbKey) : Prop where
  isEntry : ∀ {attrs}, switch.object? (.fdb key) = some attrs → attrs.IsEntry
  record : (switch.learned.get? key).map LearnedEntry.bridgePort =
    ((switch.object? (.fdb key)).filter isDynamic).map bridgePort

/-- The index mirrors the dynamic entries among the objects. -/
def Mirrored (switch : Switch) : Prop :=
  ∀ key, switch.MirroredAt key

theorem MirroredAt.congr (agree : switch.MirroredAt key)
    (stored : next.object? (.fdb key) = switch.object? (.fdb key))
    (learned : next.learned.get? key = switch.learned.get? key) : next.MirroredAt key := by
  constructor
  · intro attrs found
    rw [stored] at found
    exact agree.isEntry found
  · rw [stored, learned]
    exact agree.record

theorem mirroredAt_of_none (absent : switch.object? (.fdb key) = none)
    (unknown : switch.learned.get? key = none) : switch.MirroredAt key := by
  constructor
  · intro attrs found
    rw [absent] at found
    cases found
  · rw [absent, unknown]
    rfl

/-- A record is about a dynamic entry and names its bridge port. -/
theorem Mirrored.stored_of_record (mirrored : switch.Mirrored) {record : LearnedEntry}
    (known : switch.learned.get? key = some record) :
    ∃ stored, switch.object? (.fdb key) = some stored ∧ isDynamic stored = true ∧
      stored.IsOnPort record.bridgePort := by
  have agree := (mirrored key).record
  rw [known] at agree
  obtain ⟨stored, dynamic, port⟩ := Option.map_eq_some_iff.mp agree.symm
  obtain ⟨there, typed⟩ := Option.filter_eq_some_iff.mp dynamic
  exact ⟨stored, there, typed, ((mirrored key).isEntry there).isOnPort_iff.mpr port⟩

/-- A change that leaves entries and index alone leaves them in agreement. -/
theorem Mirrored.congr (mirrored : switch.Mirrored)
    (stored : ∀ key, next.object? (.fdb key) = switch.object? (.fdb key))
    (learned : next.learned = switch.learned) : next.Mirrored := by
  intro key
  exact (mirrored key).congr (stored key) (by rw [learned])

/-- Dropping entries together with their records keeps the rest in agreement. -/
theorem Mirrored.without (mirrored : switch.Mirrored) (gone : FdbKey → Prop)
    (stored : ∀ key, ¬ gone key → next.object? (.fdb key) = switch.object? (.fdb key))
    (learned : ∀ key, ¬ gone key → next.learned.get? key = switch.learned.get? key)
    (dropped : ∀ key, gone key →
      next.object? (.fdb key) = none ∧ next.learned.get? key = none) : next.Mirrored := by
  intro key
  by_cases out : gone key
  · exact mirroredAt_of_none (dropped key out).1 (dropped key out).2
  · exact (mirrored key).congr (stored key out) (learned key out)

/-- Bringing the index in line with one entry is all it takes if the others agree already. -/
theorem mirrored_syncLearned
    (isEntry : ∀ {attrs}, switch.object? (.fdb key) = some attrs → attrs.IsEntry)
    (others : ∀ other, other ≠ key → switch.MirroredAt other) :
    (switch.syncLearned key now).Mirrored := by
  intro other
  by_cases same : other = key
  · subst same
    constructor
    · intro attrs found
      rw [object?_syncLearned] at found
      exact isEntry found
    · rw [object?_syncLearned]
      unfold syncLearned
      split
      · next passive =>
          rw [passive, OrderedMap.get?_erase, if_pos rfl]
          rfl
      · next attrs dynamic =>
          rw [dynamic, OrderedMap.get?_insert, if_pos rfl]
          rfl
  · exact (others other same).congr (object?_syncLearned key _) (learned_syncLearned_of_ne same)

/-! ## Edits -/

theorem Mirrored.removeObject (mirrored : switch.Mirrored) {object : ObjectKey}
    (removed : switch.removeObject object = .ok ((), next)) : next.Mirrored := by
  apply mirrored.without (fun key => object = .fdb key)
  · intro key stays
    rw [object?_removeObject removed, if_neg (Ne.symm stays)]
  · intro key stays
    rw [learned_removeObject removed, if_neg stays]
  · intro key out
    rw [object?_removeObject removed, learned_removeObject removed, if_pos out, if_pos out.symm]
    exact ⟨rfl, rfl⟩

theorem Mirrored.write (mirrored : switch.Mirrored) {object : ObjectKey} {attr : Attribute}
    {readOnly : Bool} (writable : attr.checkWritable object.type readOnly = .ok ())
    (typed : object.type = .fdbEntry → attr.id = .fdbEntryType →
      ∃ type, FdbEntryType.ofValue attr.value = .ok type) :
    (switch.write object attr now).Mirrored := by
  cases object with
  | fdb key =>
      apply mirrored_syncLearned
      · intro attrs found
        rw [object?_setAttr, if_pos rfl] at found
        obtain ⟨before, there, rfl⟩ := Option.map_eq_some_iff.mp found
        exact ((mirrored key).isEntry there).write writable (typed rfl)
      · intro other different
        apply (mirrored other).congr
        · rw [object?_setAttr, if_neg (by simpa using different)]
        · rfl
  | object | route | neighbor =>
      apply mirrored.congr
      · intro key
        rw [object?_write, if_neg (by simp)]
      · rfl

theorem Mirrored.refresh (mirrored : switch.Mirrored) (object : ObjectKey) :
    (switch.refresh object).Mirrored := by
  apply mirrored.congr
  · intro key
    rw [object?_refresh]
    split
    · next same =>
        -- A forwarding entry has no derived attributes.
        subst same
        exact Option.map_id'
    · rfl
  · exact refresh_frame.2.1

theorem Mirrored.addEntry (mirrored : switch.Mirrored) {object : ObjectKey}
    {given : List Attribute} (passed : Chassis.checkNewEntry object given = .ok ())
    (added : switch.addEntry object (.ofList given) now = .ok ((), next)) : next.Mirrored := by
  obtain ⟨stored, inserted, same⟩ := addEntry_eq_ok added
  have unchanged (key : FdbKey) (different : ObjectKey.fdb key ≠ object) :
      stored.MirroredAt key := by
    apply (mirrored key).congr
    · rw [object?_insert inserted, if_neg different]
    · rw [learned_insert inserted]
  cases object with
  | fdb key =>
      have isEntry {attrs : Attributes} (found : stored.object? (.fdb key) = some attrs) :
          attrs.IsEntry := by
        rw [object?_insert inserted, if_pos rfl] at found
        cases found
        exact Attributes.isEntry_ofList passed
      split at same
      · subst same
        exact mirrored_syncLearned isEntry fun other different =>
          unchanged other (by simpa using different)
      · next static =>
          subst same
          intro other
          by_cases own : other = key
          · -- The key was free, so the index has no record to get rid of.
            subst own
            obtain ⟨absent, _⟩ := insert_eq_ok_iff.mp inserted
            refine ⟨isEntry, ?_⟩
            rw [learned_insert inserted, (mirrored other).record, absent,
              object?_insert inserted, if_pos rfl, Option.filter_some_neg (by simpa using static)]
            rfl
          · exact unchanged other (by simpa using own)
  | object | route | neighbor =>
      have settled : next = stored := by
        rw [same]
        split <;> rfl
      subst settled
      intro key
      exact unchanged key (by simp)

theorem Mirrored.setCounters (mirrored : switch.Mirrored) (object : ObjectKey)
    (counts : List (Stat × UInt64)) : (switch.setCounters object counts).Mirrored :=
  mirrored.congr (fun key => object?_setCounters counts (.fdb key)) (setCounters_frame counts).2.1

theorem Mirrored.withoutEntries (mirrored : switch.Mirrored) (gone : FdbKey → Bool) :
    (switch.withoutEntries gone).Mirrored := by
  apply mirrored.without (fun key => gone key = true)
  · intro key stays
    rw [object?_withoutEntries]
    exact if_neg stays
  · intro key stays
    rw [learned_withoutEntries, if_neg stays]
  · intro key out
    rw [object?_withoutEntries, learned_withoutEntries, if_pos out]
    exact ⟨if_pos out, rfl⟩

theorem Mirrored.addLearned (mirrored : switch.Mirrored) {port : ObjectId}
    (added : switch.addLearned key port now = .ok next) : next.Mirrored := by
  obtain ⟨stored, inserted, rfl⟩ := Results.map_eq_ok_iff.mp added
  apply mirrored_syncLearned
  · intro attrs found
    rw [object?_insert inserted, if_pos rfl] at found
    cases found
    exact Attributes.isEntry_learned port
  · intro other different
    apply (mirrored other).congr
    · rw [object?_insert inserted, if_neg (by simpa using different)]
    · rw [learned_insert inserted]

theorem Mirrored.moveLearned (mirrored : switch.Mirrored) (port : ObjectId) :
    (switch.moveLearned key port now).Mirrored := by
  apply mirrored_syncLearned
  · intro attrs found
    rw [object?_forgetLearned, object?_setAttr, if_pos rfl] at found
    obtain ⟨before, there, rfl⟩ := Option.map_eq_some_iff.mp found
    exact ((mirrored key).isEntry there).insert (fun other => by cases other)
      fun _ => ⟨port, rfl⟩
  · intro other different
    apply (mirrored other).congr
    · rw [object?_forgetLearned, object?_setAttr, if_neg (by simpa using different)]
    · rw [learned_forgetLearned, if_neg different]
      rfl

theorem Mirrored.learn (mirrored : switch.Mirrored) {port : ObjectId} {events : List FdbEvent}
    (learned : switch.learn key port now = .ok (events, next)) : next.Mirrored := by
  rcases learn_eq_ok learned with ⟨_, added⟩ | ⟨_, _, _, _, rfl⟩
  · exact mirrored.addLearned added
  · split
    · exact mirrored
    · exact mirrored.moveLearned port

/-- Whatever is done to a switch keeps its index in agreement with its entries. -/
theorem Mirrored.edit (mirrored : switch.Mirrored) {command : Command} {owner : ObjectId}
    (edit : Edit now command owner switch next) : next.Mirrored := by
  cases edit with
  | remove _ removed => exact mirrored.removeObject removed
  | write _ writable typed _ => exact mirrored.write writable typed
  | refresh _ => exact mirrored.refresh _
  | addEntry _ _ passed added => exact mirrored.addEntry passed added
  | count counts _ => exact mirrored.setCounters _ counts
  | flush filter => exact mirrored.withoutEntries _
  | learn _ _ learned => exact mirrored.learn learned

/-! ## Aging -/

theorem learned_expire (other : FdbKey) :
    (switch.expire key).learned.get? other =
      if other = key then none else switch.learned.get? other := by
  rw [← learned_forgetLearned]
  rcases switch.expire_cases key with ⟨_, same⟩ | same
  · rw [same]
  · rw [same]

theorem Mirrored.expire (mirrored : switch.Mirrored) (key : FdbKey) :
    (switch.expire key).Mirrored := by
  apply mirrored.without (fun other => other = key)
  · intro other stays
    rw [object?_expire, if_neg (by simpa using stays)]
  · intro other stays
    rw [learned_expire, if_neg stays]
  · intro other out
    rw [object?_expire, learned_expire, if_pos out, if_pos (by rw [out])]
    exact ⟨rfl, rfl⟩

theorem Mirrored.expireAll (mirrored : switch.Mirrored) (keys : List FdbKey) :
    (switch.expireAll keys).2.Mirrored := by
  induction keys generalizing switch with
  | nil => exact mirrored
  | cons key rest ih => exact ih (mirrored.expire key)

/-- Every record of the index has an entry behind it. -/
theorem Mirrored.contains (mirrored : switch.Mirrored) {entry : LearnedEntry}
    (known : switch.learned.get? key = some entry) : switch.contains (.fdb key) = true := by
  have record := (mirrored key).record
  rw [known] at record
  obtain ⟨attrs, dynamic, _⟩ := Option.map_eq_some_iff.mp record.symm
  exact contains_iff.mpr ⟨attrs, (Option.filter_eq_some_iff.mp dynamic).1⟩

/-- Letting different recorded entries go finds an object behind each of them. -/
theorem Mirrored.strays_expireAll (mirrored : switch.Mirrored) {keys : List FdbKey}
    (distinct : keys.Nodup)
    (known : ∀ key ∈ keys, ∃ entry, switch.learned.get? key = some entry) :
    (switch.expireAll keys).1 = [] := by
  induction keys generalizing switch with
  | nil => rfl
  | cons key rest ih =>
      obtain ⟨own, others⟩ := List.nodup_cons.mp distinct
      obtain ⟨entry, recorded⟩ := known key List.mem_cons_self
      have later : ((switch.expire key).expireAll rest).1 = [] := by
        refine ih (mirrored.expire key) others fun other member => ?_
        have different : other ≠ key := fun same => own (same ▸ member)
        rw [learned_expire, if_neg different]
        exact known other (List.mem_cons_of_mem _ member)
      unfold Switch.expireAll
      simp only [mirrored.contains recorded, if_true]
      exact later

/-- No aging pass ever meets a record without an entry. -/
theorem Mirrored.strays_eq_nil (mirrored : switch.Mirrored) (now : UInt64) :
    switch.strays now = [] := by
  refine mirrored.strays_expireAll (OrderedMap.nodup_keys _) fun key expired => ?_
  obtain ⟨entry, found⟩ := Option.isSome_iff_exists.mp (OrderedMap.mem_keys_iff.mp expired)
  unfold Switch.expired at found
  rw [OrderedMap.get?_filter] at found
  exact ⟨entry, (Option.filter_eq_some_iff.mp found).1⟩

end Switch

/-! ## Runs -/

theorem Switch.isKept_mirrored :
    Chassis.IsKept (fun _ => True) fun _ switch => switch.Mirrored where
  built _ _ built := by
    intro key
    apply mirroredAt_of_none
    · cases stored : Switch.object? _ (.fdb key) with
      | none => rfl
      | some attrs =>
          obtain ⟨entry, _, impossible, _⟩ := built.object?_iff.mp stored
          cases impossible
    · rw [built.learned_eq]
      rfl
  edited _ edit _ mirrored := mirrored.edit edit
  added _ _ equips inserted _ mirrored := by
    apply mirrored.congr
    · intro key
      rw [object?_insert_of_equip equips inserted, if_neg (by simp)]
    · rw [learned_insert inserted, (equip_objects equips).2.1]
  aged now mirrored := mirrored.expireAll _

namespace Chassis

/--
In every switch that is ever registered, the forwarding entries are dynamic or
static, the index has a record of exactly the dynamic ones, each record names
the bridge port of its entry, and no aging pass finds a record without entry.
-/
theorem learned_index_mirrors_entries (settings : Settings) (history : List (UInt64 × Command))
    {index : UInt8} {switch : Switch}
    (registered : ((start settings).run history).switches.get? index = some switch) :
    (∀ {key attrs}, switch.object? (.fdb key) = some attrs →
      ∃ type : FdbEntryType, attrs.get? .fdbEntryType = some (.s32 type.code)) ∧
    (∀ key, key ∈ switch.learned.keys ↔ ∃ attrs, switch.object? (.fdb key) = some attrs ∧
      attrs.get? .fdbEntryType = some (.s32 FdbEntryType.dynamic.code)) ∧
    (∀ {key record}, switch.learned.get? key = some record →
      ∃ attrs, switch.object? (.fdb key) = some attrs ∧
        (attrs.get? .fdbEntryBridgePortId = some (.oid record.bridgePort) ∨
          attrs.get? .fdbEntryBridgePortId = none ∧ record.bridgePort = .null)) ∧
    ∀ now, switch.strays now = [] := by
  have mirrored : switch.Mirrored :=
    Switch.isKept_mirrored.run settings (fun _ _ => trivial) registered
  refine ⟨?_, ?_, ?_, mirrored.strays_eq_nil⟩
  · intro key attrs stored
    exact ((mirrored key).isEntry stored).typed
  · intro key
    have record := congrArg Option.isSome (mirrored key).record
    rw [Option.isSome_map, Option.isSome_map] at record
    rw [OrderedMap.mem_keys_iff, record, Option.isSome_iff_exists]
    constructor
    · rintro ⟨attrs, dynamic⟩
      obtain ⟨stored, is⟩ := Option.filter_eq_some_iff.mp dynamic
      exact ⟨attrs, stored, Attributes.isDynamic_iff.mp is⟩
    · rintro ⟨attrs, stored, is⟩
      exact ⟨attrs, Option.filter_eq_some_iff.mpr ⟨stored, Attributes.isDynamic_iff.mpr is⟩⟩
  · intro key record known
    obtain ⟨attrs, stored, _, port⟩ := mirrored.stored_of_record known
    exact ⟨attrs, stored, port⟩

/-- A switch on which one entry is learned and another one created as static. -/
def twoEntries : List (UInt64 × Command) :=
  [(0, .call (.create .switch .null [])),
    (5, .learn ⟨.ofSwitchIndex 0, .zero, .compose 0 .vlan 1⟩ (.compose 0 .bridgePort 6)),
    (7, .call (.createEntry (.fdb ⟨.ofSwitchIndex 0, .zero, .compose 0 .bridge 5⟩)
      [⟨.fdbEntryType, .s32 FdbEntryType.static.code⟩]))]

theorem learned_index_of_twoEntries :
    ∃ switch, ((start .singlePort).run twoEntries).switches.get? 0 = some switch ∧
      (∀ key, key ∈ switch.learned.keys ↔ ∃ attrs, switch.object? (.fdb key) = some attrs ∧
        attrs.get? .fdbEntryType = some (.s32 FdbEntryType.dynamic.code)) ∧
      ∀ now, switch.strays now = [] := by
  have created : (((start .singlePort).run twoEntries).switches.get? 0).isSome = true := by
    decide +kernel
  obtain ⟨switch, registered⟩ := Option.isSome_iff_exists.mp created
  obtain ⟨_, records, _, strays⟩ :=
    learned_index_mirrors_entries .singlePort twoEntries registered
  exact ⟨switch, registered, records, strays⟩

end Chassis

end SwitchAbstraction
