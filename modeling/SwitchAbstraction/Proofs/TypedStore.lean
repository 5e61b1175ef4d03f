import SwitchAbstraction.Proofs.Ledger
import SwitchAbstraction.Proofs.StoredEntries
import SwitchAbstraction.Proofs.SwitchNames
import SwitchAbstraction.Proofs.WrittenValues

/-!
# What is stored is well typed

Values come into a store from callers, from messages, with a new switch, from
derived attributes, from learning and with the index of a debug counter.  All of
them are values of the attributes of the object that they are stored for, of the
declared kinds, and lists among them are as long as they say.  So a slot made
for an attribute of an object always takes what is stored there.
-/

namespace SwitchAbstraction

open Results

/-! ## Attributes of a type -/

/-- The count of a list and the number of its items, if the value is a list. -/
def AttrValue.sizes? : AttrValue → Option (UInt32 × Nat)
  | .oidList list => some (list.count, list.items.length)
  | .u32List list => some (list.count, list.items.length)
  | .s32List list => some (list.count, list.items.length)
  | _ => none

namespace AttrValue

theorem normalized_normalized (value : AttrValue) :
    value.normalized.normalized = value.normalized := by
  cases value <;> rfl

/-- A value that is kept as a store keeps it has the length of its list as its count. -/
theorem count_of_normalized {value : AttrValue} (normal : value.normalized = value)
    {count : UInt32} {length : Nat} (sizes : value.sizes? = some (count, length)) :
    count = UInt32.ofNat length := by
  rw [← normal] at sizes
  cases value with
  | oidList | u32List | s32List =>
      cases sizes
      rfl
  | _ => cases sizes

/-- A slot takes every value of its own kind. -/
theorem exists_fill? {slot stored : AttrValue} (same : slot.kind = stored.kind) :
    ∃ filled, slot.fill? stored = some filled := by
  cases stored with
  | oidList | u32List | s32List =>
      cases slot with
      | oidList | u32List | s32List => first | exact ⟨_, rfl⟩ | cases same
      | _ => cases same
  | _ => cases slot <;> exact ⟨_, rfl⟩

end AttrValue

namespace Attribute

/-- Whether an attribute belongs to the objects of a type and its value is of the declared kind. -/
def fits (type : ObjectType) (attr : Attribute) : Bool :=
  attr.id.objectType = type && attr.hasDeclaredKind

theorem fits_iff {type : ObjectType} {attr : Attribute} :
    attr.fits type = true ↔ attr.id.objectType = type ∧ attr.value.kind = attr.id.kind := by
  simp [fits, hasDeclaredKind]

/-- A binding that fits the objects of a type and has the form in which values are stored. -/
structure IsStored (type : ObjectType) (attr : Attribute) : Prop where
  fits : attr.fits type = true
  normal : attr.value.normalized = attr.value

theorem isStored_normalized {type : ObjectType} {attr : Attribute}
    (fits : attr.fits type = true) : IsStored type ⟨attr.id, attr.value.normalized⟩ := by
  obtain ⟨own, kind⟩ := fits_iff.mp fits
  refine ⟨fits_iff.mpr ⟨own, ?_⟩, AttrValue.normalized_normalized _⟩
  rw [AttrValue.kind_normalized]
  exact kind

theorem fits_of_checkWritable {type : ObjectType} {readOnly : Bool} {attr : Attribute}
    (passed : attr.checkWritable type readOnly = .ok ()) : attr.fits type = true :=
  fits_iff.mpr (checkWritable_eq_ok passed)

/-- A slot that was made for an attribute of the objects of a type. -/
def IsRequest (type : ObjectType) (slot : Attribute) : Prop :=
  ∃ id capacity, slot = .request id capacity ∧ id.objectType = type

end Attribute

namespace Attributes

/-- All that is stored fits the objects of a type. -/
def AreOf (attrs : Attributes) (type : ObjectType) : Prop :=
  ∀ id value, attrs.get? id = some value → Attribute.IsStored type ⟨id, value⟩

variable {type : ObjectType} {attrs : Attributes}

theorem AreOf.insert (typed : attrs.AreOf type) {id : AttrId} {value : AttrValue}
    (stored : Attribute.IsStored type ⟨id, value⟩) :
    AreOf (OrderedMap.insert attrs id value) type := by
  intro other found bound
  rw [OrderedMap.get?_insert] at bound
  split at bound
  · next same =>
      cases same
      cases bound
      exact stored
  · exact typed other found bound

theorem AreOf.insertAll (typed : attrs.AreOf type) {values : List (AttrId × AttrValue)}
    (stored : ∀ entry ∈ values, Attribute.IsStored type ⟨entry.1, entry.2⟩) :
    AreOf (values.foldl (fun attrs entry => attrs.insert entry.1 entry.2) attrs) type := by
  induction values generalizing attrs with
  | nil => exact typed
  | cons entry rest ih =>
      obtain ⟨first, others⟩ := List.forall_mem_cons.mp stored
      exact ih (typed.insert first) others

/-- Attributes that fit a type are stored as such. -/
theorem areOf_ofList {given : List Attribute} (fit : given.all (Attribute.fits type) = true) :
    (ofList given).AreOf type := by
  intro id value stored
  obtain ⟨attr, listed, rfl, rfl⟩ := get?_ofList_eq_some stored
  exact Attribute.isStored_normalized (List.all_eq_true.mp fit attr listed)

theorem areOf_of_checkAll {given : List Attribute} {readOnly : Bool} {seen : List AttrId}
    (passed : Attribute.checkAll type readOnly seen given = .ok ()) :
    (ofList given).AreOf type := by
  apply areOf_ofList
  rw [List.all_eq_true]
  intro attr listed
  exact Attribute.fits_of_checkWritable ((Attribute.checkAll_eq_ok passed).1 attr listed).1

end Attributes

/-! ## A new switch -/

namespace Bootstrap

variable {boot : Bootstrap}

/-- The types of the objects of a new switch. -/
def firstTypes : List ObjectType :=
  [.switch, .vlan, .port, .virtualRouter, .bridge, .hostifTrapGroup, .bridgePort, .vlanMember]

theorem areOf_switchAttributes (given : boot.given.AreOf .switch) :
    boot.switchAttributes.AreOf .switch := by
  have aging : Attribute.IsStored .switch
      ⟨.switchFdbAgingTime, (boot.given.get? .switchFdbAgingTime).getD (.u32 0)⟩ := by
    cases there : boot.given.get? .switchFdbAgingTime with
    | none => exact ⟨rfl, rfl⟩
    | some value => exact given _ value there
  unfold switchAttributes
  iterate 7 refine Attributes.AreOf.insert ?_ ⟨rfl, rfl⟩
  refine Attributes.AreOf.insert ?_ aging
  iterate 2 refine Attributes.AreOf.insert ?_ ⟨rfl, rfl⟩
  exact given

/-- The objects of a new switch have ids of their types and fit them. -/
theorem typed_of_mem_objects (fits : boot.last + boot.needed < ObjectId.counterLimit)
    (given : boot.given.AreOf .switch) {entry : ObjectId × Attributes}
    (member : entry ∈ boot.objects) :
    ∃ type ∈ firstTypes, entry.1.type? = some type ∧ entry.2.AreOf type := by
  have needed : boot.needed = 3 * boot.ports + 5 := rfl
  have typed {type : ObjectType} {place : Nat} (within : place ≤ boot.needed) :
      (boot.idAt type place).type? = some type :=
    ObjectId.type?_compose (by omega)
  suffices each : boot.Each fun entry =>
      ∃ type ∈ firstTypes, entry.1.type? = some type ∧ entry.2.AreOf type from
    each_iff.mp each entry member
  constructor
  case switch =>
    exact ⟨.switch, by decide, ObjectId.type?_ofSwitchIndex _, areOf_switchAttributes given⟩
  case vlan => exact ⟨.vlan, by decide, typed (by omega), Attributes.areOf_ofList rfl⟩
  case cpuPort => exact ⟨.port, by decide, typed (by omega), Attributes.areOf_ofList rfl⟩
  case router =>
    exact ⟨.virtualRouter, by decide, typed (by omega), Attributes.areOf_ofList rfl⟩
  case bridge => exact ⟨.bridge, by decide, typed (by omega), Attributes.areOf_ofList rfl⟩
  case trapGroup =>
    exact ⟨.hostifTrapGroup, by decide, typed (by omega), Attributes.areOf_ofList rfl⟩
  case port =>
    intro position inside
    exact ⟨.port, by decide, typed (by omega), Attributes.areOf_ofList rfl⟩
  case bridgePort =>
    intro position inside
    exact ⟨.bridgePort, by decide, typed (by omega), Attributes.areOf_ofList rfl⟩
  case vlanMember =>
    intro position inside
    exact ⟨.vlanMember, by decide, typed (by omega), Attributes.areOf_ofList rfl⟩

end Bootstrap

/-! ## Edits -/

namespace ObjectKey

theorem isWellFormed_of_entry {key : ObjectKey} (entry : key.id? = none) : key.IsWellFormed := by
  cases key with
  | object id => cases entry
  | fdb | route | neighbor => trivial

theorem IsWellFormed.type_eq {key : ObjectKey} (wellFormed : key.IsWellFormed) {id : ObjectId}
    (own : key.id? = some id) : id.type? = some key.type ∧ key.type.isIdAddressed = true := by
  cases key with
  | object other =>
      cases own
      obtain ⟨type, typed, addressed⟩ := wellFormed
      rw [type_object typed]
      exact ⟨typed, addressed⟩
  | fdb | route | neighbor => cases own

/-- The key of an entry that names a switch passes as one. -/
theorem checkEntry_of_entry {key : ObjectKey} (entry : key.id? = none)
    (named : key.switchId.type? = some .switch) : key.checkEntry = .ok () := by
  have passes : key.switchId.expectType .switch = .ok () :=
    (ObjectId.expectType_eq_ok_iff (by decide)).mpr named
  cases key with
  | object id => cases entry
  | fdb | route | neighbor => exact bind_eq_ok_iff.mpr ⟨(), rfl, passes⟩

end ObjectKey

namespace Switch

variable {switch next : Switch} {key : ObjectKey} {attrs : Attributes} {now : UInt64}

/-- Every object has a key of its type and attributes that fit it. -/
def IsTyped (switch : Switch) : Prop :=
  ∀ key attrs, switch.object? key = some attrs → key.IsWellFormed ∧ attrs.AreOf key.type

theorem IsTyped.named (typed : switch.IsTyped) : switch.IsNamed := by
  intro id attrs stored
  exact ⟨_, ((typed _ attrs stored).1.type_eq rfl).1⟩

/-- A change that takes objects away, or leaves them alone, keeps the others well typed. -/
theorem IsTyped.weaken (typed : switch.IsTyped)
    (before : ∀ {key attrs}, next.object? key = some attrs → switch.object? key = some attrs) :
    next.IsTyped := by
  intro key attrs stored
  exact typed key attrs (before stored)

/-- A change to the attributes of one object keeps all well typed if it keeps that one so. -/
theorem IsTyped.update (typed : switch.IsTyped) {change : Attributes → Attributes}
    (stored : ∀ other, next.object? other =
      if other = key then (switch.object? other).map change else switch.object? other)
    (keeps : ∀ {attrs}, attrs.AreOf key.type → (change attrs).AreOf key.type) :
    next.IsTyped := by
  intro other attrs found
  rw [stored] at found
  split at found
  · next same =>
      subst same
      obtain ⟨before, there, rfl⟩ := Option.map_eq_some_iff.mp found
      exact ⟨(typed _ before there).1, keeps (typed _ before there).2⟩
  · exact typed other attrs found

/-- A new object keeps all well typed if it is. -/
theorem IsTyped.extend (typed : switch.IsTyped)
    (stored : ∀ other, next.object? other =
      if other = key then some attrs else switch.object? other)
    (placed : key.IsWellFormed) (fits : attrs.AreOf key.type) : next.IsTyped := by
  intro other found there
  rw [stored] at there
  split at there
  · next same =>
      cases same
      cases there
      exact ⟨placed, fits⟩
  · exact typed other found there

/-- Derived attributes fit the object that they are derived for. -/
theorem isStored_of_mem_derived {entry : AttrId × AttrValue}
    (member : entry ∈ switch.derived key) :
    Attribute.IsStored key.type ⟨entry.1, entry.2⟩ := by
  unfold derived at member
  split at member
  · cases member
  · split at member
    · next vlan =>
        rw [List.mem_singleton.mp member, vlan]
        exact ⟨rfl, rfl⟩
    · next bridge =>
        rw [List.mem_singleton.mp member, bridge]
        exact ⟨rfl, rfl⟩
    · next lag =>
        rw [List.mem_singleton.mp member, lag]
        exact ⟨rfl, rfl⟩
    · next own =>
        rw [own]
        rcases List.mem_cons.mp member with rfl | last
        · exact ⟨rfl, rfl⟩
        · rw [List.mem_singleton.mp last]
          exact ⟨rfl, rfl⟩
    · cases member

theorem IsTyped.refresh (typed : switch.IsTyped) (key : ObjectKey) :
    (switch.refresh key).IsTyped :=
  typed.update object?_refresh fun fits => fits.insertAll fun _ => isStored_of_mem_derived

theorem IsTyped.learn (typed : switch.IsTyped) {entry : FdbKey} {port : ObjectId}
    {events : List FdbEvent} (learned : switch.learn entry port now = .ok (events, next)) :
    next.IsTyped := by
  unfold Switch.learn at learned
  split at learned
  · cases learned
  · split at learned
    · obtain ⟨added, done, same⟩ := map_eq_ok_iff.mp learned
      cases same
      refine typed.extend (object?_addLearned done) (ObjectKey.isWellFormed_of_entry rfl) ?_
      exact Attributes.areOf_ofList rfl
    · split at learned
      · cases learned
      · cases learned
        exact typed
      · cases learned
        exact typed.update (object?_moveLearned entry port) fun fits => fits.insert ⟨rfl, rfl⟩

/-- Whatever is done to a switch keeps its objects well typed. -/
theorem IsTyped.edit (typed : switch.IsTyped) {command : Command} {owner : ObjectId}
    (edit : Edit now command owner switch next) : next.IsTyped := by
  cases edit with
  | remove _ removed =>
      apply typed.weaken
      intro key attrs stored
      rw [object?_removeObject removed] at stored
      split at stored
      · cases stored
      · exact stored
  | write _ writable _ _ _ =>
      refine typed.update (object?_write _) fun fits => fits.insert ?_
      exact Attribute.isStored_normalized (Attribute.fits_of_checkWritable writable)
  | refresh _ => exact typed.refresh _
  | addEntry _ _ passed added =>
      obtain ⟨_, isEntry, rest⟩ := bind_eq_ok_iff.mp passed
      obtain ⟨_, checked, _⟩ := bind_eq_ok_iff.mp rest
      exact typed.extend (object?_addEntry added)
        (ObjectKey.isWellFormed_of_entry (ObjectKey.checkEntry_eq_ok isEntry).1)
        (Attributes.areOf_of_checkAll checked)
  | count counts _ =>
      apply typed.weaken
      intro key attrs stored
      rwa [object?_setCounters] at stored
  | flush filter =>
      apply typed.weaken
      intro key attrs stored
      change (switch.withoutEntries _).object? key = some attrs at stored
      rw [object?_withoutEntries] at stored
      split at stored
      · cases stored
      · exact stored
  | learn _ _ learned => exact typed.learn learned

/-- What an object takes besides its id fits it too. -/
theorem areOf_of_equip {type : ObjectType} {stored : Attributes} (fits : attrs.AreOf type)
    (equipped : switch.equip type attrs = .ok (stored, next)) : stored.AreOf type := by
  rcases equip_eq_ok equipped with ⟨_, rfl, _⟩ | ⟨rfl, index, _, _, rfl, _⟩
  · exact fits
  · exact fits.insert ⟨rfl, rfl⟩

/-- The objects of a new switch are of the first types, and well typed. -/
theorem typed_of_isBuilt {boot : Bootstrap} {given : List Attribute}
    (passed : Chassis.checkCreate .switch given = .ok ())
    (same : boot.given = Attributes.ofList given) (built : boot.IsBuilt switch)
    (stored : switch.object? key = some attrs) :
    key.type ∈ Bootstrap.firstTypes ∧ key.IsWellFormed ∧ attrs.AreOf key.type := by
  obtain ⟨_, _, checked⟩ := bind_eq_ok_iff.mp passed
  obtain ⟨entry, listed, rfl, rfl⟩ := built.object?_iff.mp stored
  have fits := Attributes.areOf_of_checkAll checked
  rw [← same] at fits
  obtain ⟨type, first, typed, areOf⟩ := Bootstrap.typed_of_mem_objects built.fits fits listed
  have addressed : ∀ type ∈ Bootstrap.firstTypes, type.isIdAddressed = true := by decide
  rw [ObjectKey.type_object typed]
  exact ⟨first, ⟨type, typed, addressed type first⟩, areOf⟩

theorem isKept_isTyped : Chassis.IsKept (fun _ => True) fun _ switch => switch.IsTyped where
  built passed same built _ _ stored := (typed_of_isBuilt passed same built stored).2
  edited _ edit _ typed := typed.edit edit
  added passed counted equips inserted drawn typed := by
    obtain ⟨_, _, checked⟩ := bind_eq_ok_iff.mp passed
    obtain ⟨addressed, _⟩ := ObjectType.isCounted_iff.mp counted
    obtain ⟨isType, _⟩ := drawn
    have fits := areOf_of_equip (Attributes.areOf_of_checkAll checked) equips
    rw [← ObjectKey.type_object isType] at fits
    exact typed.extend (object?_insert_of_equip equips inserted) ⟨_, isType, addressed⟩ fits
  aged now typed := typed.weaken stored_before_expireAll

/-! ## Reads -/

/-- A slot that was made for an attribute of a type is filled, or the attribute was never set. -/
theorem fillSlot_eq_error {slot : Attribute} {fault : Fault} (fits : attrs.AreOf key.type)
    (request : slot.IsRequest key.type) (refused : fillSlot key attrs slot = .error fault) :
    fault = .notImplemented (.attribute slot.id key) := by
  obtain ⟨id, capacity, rfl, _⟩ := request
  unfold fillSlot at refused
  split at refused
  · exact (Except.error.inj refused).symm
  · next stored found =>
      obtain ⟨_, kind⟩ := Attribute.fits_iff.mp (fits _ stored found).fits
      have same : (Attribute.request id capacity).value.kind = stored.kind := by
        rw [kind]
        exact AttrValue.kind_slot id.kind capacity
      obtain ⟨filled, taken⟩ := AttrValue.exists_fill? same
      unfold Attribute.fill at refused
      rw [taken] at refused
      cases refused

theorem fillSlots_eq_error {slots : List Attribute} {fault : Fault} (fits : attrs.AreOf key.type)
    (requests : ∀ slot ∈ slots, slot.IsRequest key.type)
    (refused : (fillSlots key attrs slots).1 = .error fault) :
    fault.status = .notImplemented := by
  induction slots with
  | nil => cases refused
  | cons slot rest ih =>
      obtain ⟨first, others⟩ := List.forall_mem_cons.mp requests
      unfold fillSlots at refused
      split at refused
      · next cause failed =>
          cases refused
          rw [fillSlot_eq_error fits first failed]
          rfl
      · exact ih others (map_eq_error_iff.mp refused)

/-- Reading into such slots fails for attributes that were never set and for lack of room. -/
theorem read_eq_error {slots : List Attribute} {fault : Fault} (fits : attrs.AreOf key.type)
    (requests : ∀ slot ∈ slots, slot.IsRequest key.type)
    (refused : (read key attrs slots).result = .error fault) :
    fault.status = .notImplemented ∨ fault.status = .bufferOverflow := by
  unfold read readResult at refused
  dsimp only at refused
  split at refused
  · next cause failed =>
      cases refused
      exact .inl (fillSlots_eq_error fits requests failed)
  · cases refused
  · cases refused
    exact .inr rfl

end Switch

namespace Chassis

variable {chassis : Chassis} {switch : Switch} {key : ObjectKey} {attrs : Attributes}
  {slots : List Attribute} {fault : Fault}

theorem getOn_eq_error (typed : switch.IsTyped)
    (found : chassis.switches.find key.switchId = .ok switch)
    (stored : switch.object? key = some attrs)
    (requests : ∀ slot ∈ slots, slot.IsRequest key.type)
    (refused : (chassis.getOn key slots).1.result = .error fault) :
    fault.status = .notImplemented ∨ fault.status = .bufferOverflow := by
  have own : slots.find? (fun slot => slot.id.objectType ≠ key.type) = none := by
    rw [List.find?_eq_none]
    intro slot member foreign
    obtain ⟨id, capacity, rfl, same⟩ := requests slot member
    exact of_decide_eq_true foreign same
  have there : switch.require key = .ok () :=
    Switch.require_eq_ok_iff.mpr (Switch.contains_iff.mpr ⟨attrs, stored⟩)
  have passed : chassis.checkRead key slots = .ok switch := by
    unfold checkRead
    rw [own]
    exact bind_eq_ok_iff.mpr ⟨switch, found, bind_eq_ok_iff.mpr ⟨(), there, rfl⟩⟩
  have fresh : ((switch.refresh key).object? key).getD ∅ |>.AreOf key.type := by
    cases after : (switch.refresh key).object? key with
    | none =>
        intro id value impossible
        cases impossible
    | some refreshed => exact (typed.refresh key key refreshed after).2
  unfold getOn at refused
  rw [passed] at refused
  exact Switch.read_eq_error fresh requests refused

/-- An id with the type bits of a type that is addressed by ids names an object. -/
theorem ofId_of_typed {type : ObjectType} {id : ObjectId} (typed : id.type? = some type)
    (addressed : type.isIdAddressed = true) : ObjectKey.ofId id = .ok (.object id) := by
  unfold ObjectKey.ofId
  rw [typed]
  split
  · next null =>
      cases null
      cases addressed
  · next other same =>
      cases same
      rw [if_pos addressed]
  · next absent => cases absent

/-- An id with the type bits of a type that is addressed by ids is never an invalid argument. -/
theorem ofTypedId_eq_error {type expected : ObjectType} {id : ObjectId}
    (typed : id.type? = some type) (addressed : type.isIdAddressed = true)
    (refused : ObjectKey.ofTypedId expected id = .error fault) :
    fault.status = .invalidObjectId := by
  have named : id.isNull = false := ObjectId.isNull_eq_false typed addressed
  unfold ObjectKey.ofTypedId at refused
  rw [ofId_of_typed typed addressed] at refused
  unfold ObjectId.expectType at refused
  simp only [named, typed, Bool.false_eq_true, if_false] at refused
  split at refused
  · cases refused
  · cases refused
    rfl

variable (settings : Settings) (history : List (UInt64 × Command))

/-- The switch of a stored object is found by its key. -/
theorem find_of_stored {index : UInt8}
    (registered : ((start settings).run history).switches.get? index = some switch)
    (stored : switch.object? key = some attrs) :
    ((start settings).run history).switches.find key.switchId = .ok switch := by
  have always : ∀ entry ∈ history, (fun _ : Command => True) entry.2 := fun _ _ => trivial
  have named : key.switchId.type? = some .switch ∧ key.switchId.switchIndex = index := by
    cases key with
    | object id =>
        refine ⟨ObjectId.type?_ofSwitchIndex _, ?_⟩
        change (ObjectId.ofSwitchIndex id.switchIndex).switchIndex = index
        rw [ObjectId.switchIndex_ofSwitchIndex]
        exact isKept_switchIndex.run settings always registered stored
    | fdb | route | neighbor =>
        have kept := @isKept_entries (fun _ => True)
          (fun index key => key.switchId.type? = some .switch ∧ key.switchId.switchIndex = index)
          fun _ _ typed => ⟨typed, rfl⟩
        exact kept.run settings always registered stored rfl
  obtain ⟨typed, rfl⟩ := named
  exact Registry.find_eq_ok_iff.mpr ⟨typed, registered⟩

/--
Every object that is ever stored is listed with the objects of its type; an id
among the keys has that type, which is one that ids address, and the index of
the switch; and the attributes are of that type, with values of the declared
kinds and lists as long as they say.  So reading them into slots made for
attributes of the object is never refused as invalid.
-/
theorem stored_objects_are_typed {index : UInt8}
    (registered : ((start settings).run history).switches.get? index = some switch)
    (stored : switch.object? key = some attrs) :
    (∀ type, (key, attrs) ∈ switch.objectsOf type ↔ type = key.type) ∧
    (∀ id, key.id? = some id →
      id.type? = some key.type ∧ key.type.isIdAddressed = true ∧ id.switchIndex = index) ∧
    (∀ id value, attrs.get? id = some value →
      id.objectType = key.type ∧ value.kind = id.kind ∧
      ∀ {count length}, value.sizes? = some (count, length) → length < UInt32.size →
        count.toNat = length) ∧
    ∀ slots : List Attribute, (∀ slot ∈ slots, slot.IsRequest key.type) →
      (∀ id type fault, key.id? = some id →
        (((start settings).run history).get type id slots).1.result = .error fault →
        fault.status ≠ .invalidParameter) ∧
      ∀ fault, key.id? = none →
        (((start settings).run history).getEntry key slots).1.result = .error fault →
        fault.status ≠ .invalidParameter := by
  have always : ∀ entry ∈ history, (fun _ : Command => True) entry.2 := fun _ _ => trivial
  have typed : switch.IsTyped := Switch.isKept_isTyped.run settings always registered
  obtain ⟨wellFormed, fits⟩ := typed key attrs stored
  have found := find_of_stored settings history registered stored
  have valid {slots : List Attribute} {fault : Fault}
      (requests : ∀ slot ∈ slots, slot.IsRequest key.type)
      (refused : (((start settings).run history).getOn key slots).1.result = .error fault) :
      fault.status ≠ .invalidParameter := by
    rcases getOn_eq_error typed found stored requests refused with status | status
    · rw [status]
      decide
    · rw [status]
      decide
  refine ⟨?_, ?_, ?_, ?_⟩
  · intro type
    have listed : (key, attrs) ∈ switch.objects.entries := OrderedMap.get?_eq_some_iff.mp stored
    simp [Switch.objectsOf, listed, eq_comm]
  · intro id own
    obtain ⟨isType, addressed⟩ := wellFormed.type_eq own
    refine ⟨isType, addressed, ?_⟩
    cases key with
    | object other =>
        cases own
        exact isKept_switchIndex.run settings always registered stored
    | fdb | route | neighbor => cases own
  · intro id value bound
    obtain ⟨own, kind⟩ := Attribute.fits_iff.mp (fits id value bound).fits
    refine ⟨own, kind, ?_⟩
    intro count length sizes short
    rw [AttrValue.count_of_normalized (fits id value bound).normal sizes]
    exact UInt32.toNat_ofNat_of_lt' short
  · intro slots requests
    constructor
    · intro id type fault own refused
      obtain ⟨isType, addressed⟩ := wellFormed.type_eq own
      unfold get at refused
      split at refused
      · next failed =>
          cases refused
          rw [ofTypedId_eq_error isType addressed failed]
          decide
      · next read named =>
          obtain ⟨rfl, _, _⟩ := ObjectKey.ofTypedId_eq_ok named
          cases key with
          | object other =>
              cases own
              exact valid requests refused
          | fdb | route | neighbor => cases own
    · intro fault entry refused
      obtain ⟨isSwitch, _⟩ := Registry.find_eq_ok_iff.mp found
      unfold getEntry at refused
      rw [ObjectKey.checkEntry_of_entry entry isSwitch] at refused
      exact valid requests refused

/-- The default VLAN of the first switch has a number and members, and can be read. -/
theorem default_vlan_is_typed :
    ∃ switch attrs, ((start .singlePort).run [(0, .call (.create .switch .null []))]).switches.get?
        0 = some switch ∧
      switch.object? (.object (.compose 0 .vlan 1)) = some attrs ∧
      (∀ id value, attrs.get? id = some value →
        id.objectType = .vlan ∧ value.kind = id.kind) ∧
      ∀ fault, (((start .singlePort).run [(0, .call (.create .switch .null []))]).get .vlan
          (.compose 0 .vlan 1) [.request .vlanVlanId 0, .request .vlanMemberList 4]).1.result =
          .error fault →
        fault.status ≠ .invalidParameter := by
  have there : ((((start .singlePort).run [(0, .call (.create .switch .null []))]).switches.get?
      0).bind fun switch => switch.object? (.object (.compose 0 .vlan 1))).isSome = true := by
    decide +kernel
  obtain ⟨attrs, found⟩ := Option.isSome_iff_exists.mp there
  obtain ⟨switch, registered, stored⟩ := Option.bind_eq_some_iff.mp found
  obtain ⟨_, _, fits, reads⟩ := stored_objects_are_typed .singlePort _ registered stored
  refine ⟨switch, attrs, registered, stored, ?_, ?_⟩
  · intro id value bound
    obtain ⟨own, kind, _⟩ := fits id value bound
    exact ⟨own, kind⟩
  · intro fault refused
    refine (reads [.request .vlanVlanId 0, .request .vlanMemberList 4] ?_).1 _ _ fault rfl refused
    intro slot member
    rcases List.mem_pair.mp member with rfl | rfl
    · exact ⟨_, _, rfl, rfl⟩
    · exact ⟨_, _, rfl, rfl⟩

end Chassis

end SwitchAbstraction
