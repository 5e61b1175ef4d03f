import Mathlib.Data.List.Forall2
import SwitchAbstraction.Proofs.Members
import SwitchAbstraction.Proofs.ReadBack

/-!
# New switches are complete

A new switch refers to no object but its own ones, and to each of them as the
type that is expected there.  Its front panel ports stand in the order of the lane
map, each with its lanes, with one bridge port and one VLAN membership each.
-/

namespace SwitchAbstraction

open Results

/-- The type of the objects that an attribute of the first objects refers to. -/
def AttrId.referent? : AttrId → Option ObjectType
  | .switchPortList | .switchCpuPort | .bridgePortPortId => some .port
  | .switchDefaultVlanId | .vlanMemberVlanId => some .vlan
  | .switchDefaultVirtualRouterId => some .virtualRouter
  | .switchDefault1QBridgeId | .bridgePortBridgeId => some .bridge
  | .switchDefaultTrapGroup => some .hostifTrapGroup
  | .vlanMemberBridgePortId => some .bridgePort
  | _ => none

/-- The ids that a value holds. -/
def AttrValue.targets : AttrValue → List ObjectId
  | .oid id => [id]
  | .oidList list => list.items
  | _ => []

theorem AttrValue.targets_normalized (value : AttrValue) :
    value.normalized.targets = value.targets := by
  cases value <;> rfl

/-! ## References -/

/-- An attribute refers to objects that are there, of the type that is expected. -/
def Attribute.RefersTo (isThere : ObjectType → ObjectId → Prop) (attr : Attribute) : Prop :=
  ∀ target ∈ attr.value.targets, ∃ type, attr.id.referent? = some type ∧ isThere type target

namespace Attributes

variable {isThere : ObjectType → ObjectId → Prop} {attrs : Attributes} {given : List Attribute}

/-- All that attributes refer to is there, and of the type that is expected. -/
def RefersTo (isThere : ObjectType → ObjectId → Prop) (attrs : Attributes) : Prop :=
  ∀ id value, attrs.get? id = some value → Attribute.RefersTo isThere ⟨id, value⟩

theorem RefersTo.insert (refers : attrs.RefersTo isThere) {id : AttrId} {value : AttrValue}
    (own : Attribute.RefersTo isThere ⟨id, value⟩) :
    RefersTo isThere (OrderedMap.insert attrs id value) := by
  intro other found bound
  rw [OrderedMap.get?_insert] at bound
  split at bound
  · next same =>
      cases same
      cases bound
      exact own
  · exact refers other found bound

theorem refersTo_ofList (all : ∀ attr ∈ given, attr.RefersTo isThere) :
    (ofList given).RefersTo isThere := by
  intro id value stored target member
  obtain ⟨attr, listed, rfl, rfl⟩ := get?_ofList_eq_some stored
  rw [AttrValue.targets_normalized] at member
  exact all attr listed target member

/-- Attributes without ids refer to nothing. -/
theorem refersTo_of_plain (plain : given.all (fun attr => attr.value.targets.isEmpty) = true) :
    (ofList given).RefersTo isThere := by
  refine refersTo_ofList fun attr listed target member => ?_
  rw [List.isEmpty_iff.mp (List.all_eq_true.mp plain attr listed)] at member
  cases member

end Attributes

/-- The ids that a switch stores for itself cannot be given. -/
theorem AttrId.plain_of_writable {id : AttrId} (own : id.objectType = .switch)
    (writable : id.isReadOnly = false) : id.kind ≠ .oid ∧ id.kind ≠ .oidList := by
  revert own writable
  cases id <;> decide

theorem Attribute.AreCreatable.plain {given : List Attribute}
    (valid : AreCreatable .switch given) :
    given.all (fun attr => attr.value.targets.isEmpty) = true := by
  refine List.all_eq_true.mpr fun attr listed => ?_
  obtain ⟨own, kind⟩ := fits_iff.mp (valid.fit attr listed)
  obtain ⟨single, list⟩ := AttrId.plain_of_writable own (valid.writable attr listed)
  rw [← kind] at single list
  cases value : attr.value with
  | oid => exact absurd (congrArg AttrValue.kind value) single
  | oidList => exact absurd (congrArg AttrValue.kind value) list
  | _ => rfl

namespace Switch

/-- All objects of a switch refer to objects of this switch, of the types that are expected. -/
def IsClosed (switch : Switch) : Prop :=
  ∀ key attrs, switch.object? key = some attrs →
    attrs.RefersTo fun type id => id.type? = some type ∧ switch.contains (.object id) = true

/-- The ids of all objects of a type. -/
def allOf (switch : Switch) (type : ObjectType) : List ObjectId :=
  switch.idsOf type fun _ => true

/-- An object is there, with a value for an attribute. -/
def Stores (switch : Switch) (id : ObjectId) (attr : AttrId) (value : AttrValue) : Prop :=
  ∃ attrs, switch.object? (.object id) = some attrs ∧ attrs.get? attr = some value

/-- A switch has what it should come up with on these interfaces, and nothing else. -/
structure IsComplete (switch : Switch) (interfaces : List LaneMapEntry) : Prop where
  size_eq : switch.objects.size = 3 * interfaces.length + 6
  closed : switch.IsClosed
  distinct : switch.dataPorts.Nodup ∧ (switch.allOf .bridgePort).Nodup ∧
    (switch.allOf .vlanMember).Nodup
  portList : switch.Stores switch.id .switchPortList (.ofIds switch.dataPorts)
  portNumber : ∃ number, switch.Stores switch.id .switchPortNumber (.u32 number) ∧
    (interfaces.length < UInt32.size → number.toNat = interfaces.length)
  lanes : List.Forall₂ (fun port interface =>
    switch.Stores port .portHwLaneList (.u32List (.ofItems interface.lanes)))
    switch.dataPorts interfaces
  cpuPort : ∃ cpuPort, switch.Stores switch.id .switchCpuPort (.oid cpuPort) ∧
    cpuPort ∉ switch.dataPorts
  bridgePorts : ∃ bridge, switch.Stores switch.id .switchDefault1QBridgeId (.oid bridge) ∧
    List.Forall₂ (fun bridgePort port =>
      switch.Stores bridgePort .bridgePortPortId (.oid port) ∧
        switch.Stores bridgePort .bridgePortBridgeId (.oid bridge))
      (switch.allOf .bridgePort) switch.dataPorts
  vlanMembers : ∃ vlan, switch.Stores switch.id .switchDefaultVlanId (.oid vlan) ∧
    List.Forall₂ (fun vlanMember bridgePort =>
      switch.Stores vlanMember .vlanMemberBridgePortId (.oid bridgePort) ∧
        switch.Stores vlanMember .vlanMemberVlanId (.oid vlan))
      (switch.allOf .vlanMember) (switch.allOf .bridgePort)
  sourceMac : ∃ router mac,
    switch.Stores switch.id .switchDefaultVirtualRouterId (.oid router) ∧
      switch.Stores switch.id .switchSrcMacAddress (.mac mac) ∧
      switch.Stores router .virtualRouterSrcMacAddress (.mac mac)

end Switch

namespace Bootstrap

variable {boot : Bootstrap} {switch : Switch} {entry : ObjectId × Attributes}

/-- An id of a type is that of one of the first objects. -/
def Has (boot : Bootstrap) (type : ObjectType) (id : ObjectId) : Prop :=
  id.type? = some type ∧ id ∈ boot.objects.map Prod.fst

theorem has_idAt (fits : boot.last + boot.needed < ObjectId.counterLimit) {type : ObjectType}
    {place : Nat} {attrs : Attributes} (within : place ≤ 3 * boot.ports + 5)
    (listed : (boot.idAt type place, attrs) ∈ boot.objects) :
    boot.Has type (boot.idAt type place) :=
  ⟨type?_idAt (Nat.lt_of_le_of_lt (Nat.add_le_add_left within _) fits),
    List.mem_map_of_mem listed⟩

theorem refersTo_oid (fits : boot.last + boot.needed < ObjectId.counterLimit) {id : AttrId}
    {type : ObjectType} {place : Nat} {attrs : Attributes} (expected : id.referent? = some type)
    (within : place ≤ 3 * boot.ports + 5)
    (listed : (boot.idAt type place, attrs) ∈ boot.objects) :
    Attribute.RefersTo boot.Has ⟨id, .oid (boot.idAt type place)⟩ :=
  List.forall_mem_singleton.mpr ⟨type, expected, has_idAt fits within listed⟩

/-- A new switch refers to its own first objects, beside what it was given. -/
theorem refersTo_switchAttributes (fits : boot.last + boot.needed < ObjectId.counterLimit)
    (given : boot.given.RefersTo boot.Has) : boot.switchAttributes.RefersTo boot.Has := by
  have vlan : Attribute.RefersTo boot.Has ⟨.switchDefaultVlanId, .oid boot.vlan⟩ :=
    refersTo_oid fits rfl (by omega) each_mem_objects.vlan
  have cpuPort : Attribute.RefersTo boot.Has ⟨.switchCpuPort, .oid boot.cpuPort⟩ :=
    refersTo_oid fits rfl (by omega) each_mem_objects.cpuPort
  have router : Attribute.RefersTo boot.Has
      ⟨.switchDefaultVirtualRouterId, .oid boot.router⟩ :=
    refersTo_oid fits rfl (by omega) each_mem_objects.router
  have bridge : Attribute.RefersTo boot.Has ⟨.switchDefault1QBridgeId, .oid boot.bridge⟩ :=
    refersTo_oid fits rfl (by omega) each_mem_objects.bridge
  have trapGroup : Attribute.RefersTo boot.Has ⟨.switchDefaultTrapGroup, .oid boot.trapGroup⟩ :=
    refersTo_oid fits rfl (by omega) each_mem_objects.trapGroup
  have portList : Attribute.RefersTo boot.Has ⟨.switchPortList, .ofIds boot.portList⟩ := by
    intro target member
    obtain ⟨position, listed, rfl⟩ := List.mem_map.mp member
    have inside := List.mem_range.mp listed
    exact ⟨_, rfl, has_idAt fits (by omega) (each_mem_objects.port _ inside)⟩
  have aging : Attribute.RefersTo boot.Has
      ⟨.switchFdbAgingTime, (boot.given.get? .switchFdbAgingTime).getD (.u32 0)⟩ := by
    cases there : boot.given.get? .switchFdbAgingTime with
    | none => exact List.forall_mem_nil _
    | some value => exact given _ value there
  have portNumber : Attribute.RefersTo boot.Has
      ⟨.switchPortNumber, .u32 (UInt32.ofNat boot.ports)⟩ :=
    List.forall_mem_nil _
  have operStatus : Attribute.RefersTo boot.Has
      ⟨.switchOperStatus, .s32 SwitchOperStatus.up.code⟩ :=
    List.forall_mem_nil _
  have sourceMac : Attribute.RefersTo boot.Has ⟨.switchSrcMacAddress, .mac boot.sourceMac⟩ :=
    List.forall_mem_nil _
  have own := (given.insert operStatus).insert sourceMac
  have first := ((own.insert aging).insert vlan).insert cpuPort
  have ports := (first.insert portNumber).insert portList
  exact ((ports.insert router).insert bridge).insert trapGroup

/-- The objects of a new switch refer to one another, as they should. -/
theorem refersTo_of_mem_objects (fits : boot.last + boot.needed < ObjectId.counterLimit)
    (given : boot.given.RefersTo boot.Has) (member : entry ∈ boot.objects) :
    entry.2.RefersTo boot.Has := by
  suffices each : boot.Each fun entry => entry.2.RefersTo boot.Has from
    each_iff.mp each entry member
  constructor
  case switch => exact refersTo_switchAttributes fits given
  case vlan | cpuPort | router | bridge | trapGroup => exact Attributes.refersTo_of_plain rfl
  case port => exact fun _ _ => Attributes.refersTo_of_plain rfl
  case bridgePort =>
    intro position inside
    refine Attributes.refersTo_ofList fun attr listed => ?_
    simp only [List.mem_cons, List.not_mem_nil, or_false] at listed
    rcases listed with rfl | rfl | rfl | rfl | rfl
    · exact List.forall_mem_nil _
    · exact refersTo_oid fits rfl (by omega) (each_mem_objects.port _ inside)
    · exact refersTo_oid fits rfl (by omega) each_mem_objects.bridge
    · exact List.forall_mem_nil _
    · exact List.forall_mem_nil _
  case vlanMember =>
    intro position inside
    refine Attributes.refersTo_ofList fun attr listed => ?_
    simp only [List.mem_cons, List.not_mem_nil, or_false] at listed
    rcases listed with rfl | rfl | rfl
    · exact refersTo_oid fits rfl (by omega) each_mem_objects.vlan
    · exact refersTo_oid fits rfl (by omega) (each_mem_objects.bridgePort _ inside)
    · exact List.forall_mem_nil _

/-! ## What is stored -/

theorem IsBuilt.object?_of_mem (built : boot.IsBuilt switch) {id : ObjectId} {attrs : Attributes}
    (member : (id, attrs) ∈ boot.objects) : switch.object? (.object id) = some attrs :=
  built.object?_iff.mpr ⟨_, member, rfl, rfl⟩

theorem IsBuilt.isClosed (built : boot.IsBuilt switch) (given : boot.given.RefersTo boot.Has) :
    switch.IsClosed := by
  intro key attrs stored id value bound target member
  obtain ⟨entry, listed, rfl, rfl⟩ := built.object?_iff.mp stored
  obtain ⟨type, expected, typed, there⟩ :=
    refersTo_of_mem_objects built.fits given listed id value bound target member
  obtain ⟨⟨_, attrs⟩, listed, rfl⟩ := List.mem_map.mp there
  exact ⟨type, expected, typed, Switch.contains_iff.mpr ⟨attrs, built.object?_of_mem listed⟩⟩

/-- A new switch has exactly its first objects. -/
theorem IsBuilt.size_eq (built : boot.IsBuilt switch) :
    switch.objects.size = 3 * boot.ports + 6 := by
  have distinct : (boot.objects.map fun entry => ObjectKey.object entry.1).Nodup := by
    have ids : (boot.objects.map Prod.fst).Nodup := map_fst_objects built.fits ▸ nodup_issued
    have keys := ids.map fun _ _ same => ObjectKey.object.inj same
    rwa [List.map_map] at keys
  have same : switch.objects.keys.Perm
      (boot.objects.map fun entry => ObjectKey.object entry.1) := by
    refine (List.perm_ext_iff_of_nodup (OrderedMap.nodup_keys _) distinct).mpr fun key => ?_
    rw [OrderedMap.mem_keys_iff, Option.isSome_iff_exists, List.mem_map]
    constructor
    · rintro ⟨attrs, stored⟩
      obtain ⟨entry, listed, rfl, _⟩ := built.object?_iff.mp stored
      exact ⟨entry, listed, rfl⟩
    · rintro ⟨entry, listed, rfl⟩
      exact ⟨entry.2, built.object?_of_mem listed⟩
  -- Keys and plan are both without repetition, so the objects can be counted in the plan.
  have length := same.length_eq
  rw [List.length_map] at length
  have count : boot.objects.length = 3 * boot.ports + 6 := by
    unfold objects
    rw [List.length_cons, length_placed, length_planned]
    rfl
  have entries : switch.objects.keys.length = switch.objects.size := List.length_map ..
  omega

/-! ## The objects of a type -/

/-- What a first object of a type is, for the types with one object for each interface. -/
def IsAmong (boot : Bootstrap) (entry : ObjectId × Attributes) : ObjectType → Prop
  | .bridgePort =>
      ∃ position < boot.ports, entry = (boot.bridgePort position,
        bridgePortAttributes boot.bridge (boot.port position))
  | .vlanMember =>
      ∃ position < boot.ports, entry = (boot.vlanMember position,
        vlanMemberAttributes boot.vlan (boot.bridgePort position))
  | _ => True

theorem isAmong_of_mem_objects (fits : boot.last + boot.needed < ObjectId.counterLimit)
    {type : ObjectType} (member : entry ∈ boot.objects) :
    entry.1.type? = some type → boot.IsAmong entry type := by
  have placed {other : ObjectType} {place : Nat}
      (own : (boot.idAt other place).type? = some type) (within : place ≤ 3 * boot.ports + 5) :
      type = other :=
    Option.some.inj
      (own.symm.trans (type?_idAt (Nat.lt_of_le_of_lt (Nat.add_le_add_left within _) fits)))
  suffices each : boot.Each fun entry => entry.1.type? = some type → boot.IsAmong entry type from
    each_iff.mp each entry member
  constructor
  case switch =>
    intro own
    cases own.symm.trans (ObjectId.type?_ofSwitchIndex boot.index)
    trivial
  case vlan | cpuPort | router | bridge | trapGroup =>
    intro own
    obtain rfl := placed own (by omega)
    trivial
  case port =>
    intro position inside own
    obtain rfl := placed own (by omega)
    trivial
  case bridgePort | vlanMember =>
    intro position inside own
    obtain rfl := placed own (by omega)
    exact ⟨position, inside, rfl⟩

/-- Objects that stand at ascending places are selected in the order of the interfaces. -/
theorem IsBuilt.allOf_eq (built : boot.IsBuilt switch) {type : ObjectType} {place : Nat → Nat}
    (within : ∀ position < boot.ports, place position ≤ 3 * boot.ports + 5)
    (ascends : ∀ first second, first < second → place first < place second)
    (all : ∀ position < boot.ports,
      ∃ attrs, (boot.idAt type (place position), attrs) ∈ boot.objects)
    (only : ∀ entry ∈ boot.objects, entry.1.type? = some type →
      ∃ position < boot.ports, entry.1 = boot.idAt type (place position)) :
    switch.allOf type =
      (List.range boot.ports).map fun position => boot.idAt type (place position) := by
  have fits {position : Nat} (inside : position < boot.ports) :
      boot.last + place position < ObjectId.counterLimit :=
    Nat.lt_of_le_of_lt (Nat.add_le_add_left (within position inside) _) built.fits
  refine built.reached.isNamed.idsOf_eq (fun first second before inside => ?_)
    (fun position inside => ?_) fun {member attrs} isOf => ?_
  · exact raw_idAt_lt (ascends first second before) (fits inside)
  · obtain ⟨attrs, there⟩ := all position inside
    exact ⟨attrs, type?_idAt (fits inside), built.object?_of_mem there, rfl⟩
  · obtain ⟨entry, listed, same, rfl⟩ := built.object?_iff.mp isOf.live
    obtain rfl := ObjectKey.object.inj same
    exact only entry listed isOf.typed

theorem IsBuilt.dataPorts_eq (built : boot.IsBuilt switch) :
    switch.dataPorts = boot.portList := by
  refine built.reached.dataPorts_eq rfl ?_
  simp only [List.forall_mem_cons, List.forall_mem_append, List.forall_mem_flatMap, members]
  exact ⟨by decide, by decide, fun _ _ => ⟨by decide, by decide, List.forall_mem_nil _⟩,
    by decide, List.forall_mem_nil _⟩

theorem IsBuilt.bridgePorts_eq (built : boot.IsBuilt switch) :
    switch.allOf .bridgePort = (List.range boot.ports).map boot.bridgePort := by
  refine built.allOf_eq (fun _ inside => by omega) (fun _ _ before => by omega)
    (fun position inside => ⟨_, each_mem_objects.bridgePort _ inside⟩) fun entry listed own => ?_
  obtain ⟨position, inside, rfl⟩ := isAmong_of_mem_objects built.fits listed own
  exact ⟨position, inside, rfl⟩

theorem IsBuilt.vlanMembers_eq (built : boot.IsBuilt switch) :
    switch.allOf .vlanMember = (List.range boot.ports).map boot.vlanMember := by
  refine built.allOf_eq (fun _ inside => by omega) (fun _ _ before => by omega)
    (fun position inside => ⟨_, each_mem_objects.vlanMember _ inside⟩) fun entry listed own => ?_
  obtain ⟨position, inside, rfl⟩ := isAmong_of_mem_objects built.fits listed own
  exact ⟨position, inside, rfl⟩

/-- A new switch is complete, whatever attributes without ids it was given. -/
theorem IsBuilt.isComplete (built : boot.IsBuilt switch) (typed : switch.IsTyped)
    (given : boot.given.RefersTo boot.Has) : switch.IsComplete boot.interfaces := by
  have own {attr : AttrId} {value : AttrValue}
      (holds : boot.switchAttributes.get? attr = some value) :
      switch.Stores switch.id attr value := by
    rw [built.id_eq]
    exact ⟨_, built.object?_of_mem each_mem_objects.switch, holds⟩
  have inTurn {related : ObjectId → ObjectId → Prop} {first second : Nat → ObjectId}
      (each : ∀ position < boot.ports, related (first position) (second position)) :
      List.Forall₂ related ((List.range boot.ports).map first)
        ((List.range boot.ports).map second) := by
    rw [List.forall₂_map_left_iff, List.forall₂_map_right_iff, List.forall₂_same]
    exact fun position listed => each position (List.mem_range.mp listed)
  refine ⟨built.size_eq, built.isClosed given, ⟨?_, ?_, ?_⟩, ?_, ?_, ?_, ?_, ?_, ?_, ?_⟩
  · rw [Switch.dataPorts_eq_idsOf]
    exact built.reached.isNamed.nodup_idsOf _ _
  · exact built.reached.isNamed.nodup_idsOf _ _
  · exact built.reached.isNamed.nodup_idsOf _ _
  · rw [built.dataPorts_eq]
    exact own (by simp [switchAttributes, OrderedMap.get?_insert, portList])
  · refine ⟨UInt32.ofNat boot.ports,
      own (by simp [switchAttributes, OrderedMap.get?_insert]), fun bounded => ?_⟩
    exact UInt32.toNat_ofNat_of_lt' bounded
  · rw [built.dataPorts_eq, List.forall₂_iff_get]
    refine ⟨by simp [portList, ports], fun position inside listed => ?_⟩
    have stored := built.object?_of_mem (each_mem_objects.port _ listed)
    simp only [portList, List.get_eq_getElem, List.getElem_map, List.getElem_range]
    exact ⟨_, stored, rfl⟩
  · refine ⟨boot.cpuPort, own (by simp [switchAttributes, OrderedMap.get?_insert]), fun data => ?_⟩
    obtain ⟨_, attrs, stored, front⟩ := typed.mem_dataPorts_iff.mp data
    have cpu : switch.object? (.object boot.cpuPort) = some cpuPortAttributes :=
      built.object?_of_mem each_mem_objects.cpuPort
    cases stored.symm.trans cpu
    exact front rfl
  · refine ⟨boot.bridge, own (by simp [switchAttributes, OrderedMap.get?_insert]), ?_⟩
    rw [built.bridgePorts_eq, built.dataPorts_eq]
    refine inTurn fun position inside => ?_
    have stored := built.object?_of_mem (each_mem_objects.bridgePort _ inside)
    exact ⟨⟨_, stored, rfl⟩, _, stored, rfl⟩
  · refine ⟨boot.vlan, own (by simp [switchAttributes, OrderedMap.get?_insert]), ?_⟩
    rw [built.vlanMembers_eq, built.bridgePorts_eq]
    refine inTurn fun position inside => ?_
    have stored := built.object?_of_mem (each_mem_objects.vlanMember _ inside)
    exact ⟨⟨_, stored, rfl⟩, _, stored, rfl⟩
  · refine ⟨boot.router, boot.sourceMac,
      own (by simp [switchAttributes, OrderedMap.get?_insert]),
      own (by simp [switchAttributes, OrderedMap.get?_insert]), boot.routerAttributes, ?_, rfl⟩
    exact built.object?_of_mem each_mem_objects.router

end Bootstrap

namespace Chassis

variable {chassis : Chassis} {attrs : List Attribute} {index : UInt8}
  {indexes : SwitchIndexPool}

theorem create_switch (checked : checkCreate .switch attrs = .ok ()) (owner : ObjectId) :
    chassis.create .switch owner attrs = chassis.createSwitch attrs := by
  unfold create
  rw [checked]
  rfl

theorem createSwitch_of_lt (free : chassis.indexes.allocate = .ok (index, indexes))
    (fits : chassis.ids.last + (chassis.bootstrap index attrs).needed < ObjectId.counterLimit) :
    ∃ switch, (chassis.bootstrap index attrs).IsBuilt switch ∧
      chassis.createSwitch attrs =
        (.ok switch.id,
          { chassis with
            ids := ⟨chassis.ids.last + (chassis.bootstrap index attrs).needed⟩, indexes,
            switches := chassis.switches.insert index switch }) := by
  obtain ⟨switch, made, built⟩ := @Bootstrap.exists_run (chassis.bootstrap index attrs) fits
  refine ⟨switch, built, ?_⟩
  unfold createSwitch
  rw [free]
  dsimp only
  rw [made]
  rfl

/-- Without counters enough a switch is not registered, although its index is used up. -/
theorem createSwitch_of_not_lt (free : chassis.indexes.allocate = .ok (index, indexes))
    (short : ObjectId.counterLimit ≤
      chassis.ids.last + (chassis.bootstrap index attrs).needed) :
    chassis.createSwitch attrs =
      (.error (.failed .countersExhausted),
        { chassis with ids := ⟨max chassis.ids.last (ObjectId.counterLimit - 1)⟩, indexes }) := by
  have refused := @Bootstrap.run_of_not_lt (chassis.bootstrap index attrs) short
  unfold createSwitch
  rw [free]
  dsimp only
  rw [refused]
  rfl

/--
A switch is created with any attributes that may be given, if there is an index
for it and there are counters for its first objects, of which it takes exactly five
and three for each interface.  It is complete and holds the attributes that it was
given.  With fewer counters nothing is registered.
-/
theorem new_switch_is_complete (chassis : Chassis) (now : UInt64) (owner : ObjectId)
    (valid : Attribute.AreCreatable .switch attrs)
    (free : chassis.indexes.allocate = .ok (index, indexes)) :
    let interfaces := chassis.settings.laneMap.entries
    let last := chassis.ids.last + (3 * interfaces.length + 5)
    let outcome := chassis.perform now (.create .switch owner attrs)
    (last < ObjectId.counterLimit →
      ∃ switch, outcome.answer.result = .ok (.created switch.id) ∧
        switch.id = .ofSwitchIndex index ∧
        outcome.state =
          { chassis with
            ids := ⟨last⟩, indexes, switches := chassis.switches.insert index switch } ∧
        switch.IsComplete interfaces ∧
        ∀ attr ∈ attrs, switch.Stores switch.id attr.id attr.value.normalized) ∧
    (ObjectId.counterLimit ≤ last →
      outcome.answer.result = .error (.failed .countersExhausted) ∧
        outcome.state.switches = chassis.switches) := by
  intro interfaces last outcome
  have passed : Attribute.checkAll .switch false [] attrs = .ok () :=
    valid.checkAll fun _ _ old => by cases old
  have checked : checkCreate .switch attrs = .ok () := bind_eq_ok_iff.mpr ⟨(), rfl, passed⟩
  have asked : outcome = ⟨answerOf .created (chassis.createSwitch attrs).1,
      (chassis.createSwitch attrs).2, []⟩ := by
    rw [← create_switch checked owner]
    rfl
  constructor
  · intro fits
    obtain ⟨switch, built, made⟩ := createSwitch_of_lt free fits
    rw [made] at asked
    have typed : switch.IsTyped := fun _ _ stored =>
      (Switch.typed_of_isBuilt checked rfl built stored).2
    refine ⟨switch, ?_, built.id_eq, ?_, ?_, fun attr listed => ?_⟩
    · rw [asked]
      rfl
    · rw [asked]
      rfl
    · exact built.isComplete typed (Attributes.refersTo_of_plain valid.plain)
    · rw [built.id_eq]
      refine ⟨_, built.object?_of_mem Bootstrap.each_mem_objects.switch, ?_⟩
      exact Bootstrap.get?_switchAttributes_of_given (Attributes.areOf_of_checkAll passed)
        (valid.writable attr listed) (Attributes.get?_ofList_of_mem valid.distinct listed)
  · intro short
    rw [createSwitch_of_not_lt free short] at asked
    rw [asked]
    exact ⟨rfl, rfl⟩

/-- A source address that is given to a switch. -/
def givenMac : Attribute :=
  ⟨.switchSrcMacAddress, .mac .zero⟩

/-- A switch with one port has nine objects; without counters there is none. -/
theorem first_switch_is_complete :
    (∃ switch : Switch, ((start .singlePort).perform 0
        (.create .switch .null [givenMac])).answer.result = .ok (.created switch.id) ∧
      switch.IsComplete Settings.singlePort.laneMap.entries ∧ switch.objects.size = 9 ∧
      switch.Stores switch.id .switchSrcMacAddress (.mac .zero)) ∧
    (exhausted.perform 0 (.create .switch .null [givenMac])).state.switches =
      exhausted.switches := by
  have valid : Attribute.AreCreatable .switch [givenMac] := ⟨by decide, by decide, by decide⟩
  have free : (start .singlePort).indexes.allocate = .ok (0, ⟨1⟩) := rfl
  have second : exhausted.indexes.allocate = .ok (1, ⟨2⟩) := by decide +kernel
  obtain ⟨made, _⟩ := new_switch_is_complete (start .singlePort) 0 .null valid free
  obtain ⟨_, refused⟩ := new_switch_is_complete exhausted 0 .null valid second
  obtain ⟨switch, created, _, _, complete, keeps⟩ := made (by decide +kernel)
  refine ⟨⟨switch, created, complete, complete.size_eq.trans (by decide +kernel), ?_⟩, ?_⟩
  · exact keeps givenMac List.mem_cons_self
  · exact (refused (by decide +kernel)).2

end Chassis

end SwitchAbstraction
