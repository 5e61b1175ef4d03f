import SwitchAbstraction.Proofs.Drawing
import SwitchAbstraction.Switch.Bootstrap

/-!
# The plan of a new switch

The first objects of a switch in the order in which they are added.  Each has
the id that the allocator hands out for its type at its place, so all of them
have different ids.
-/

namespace SwitchAbstraction

namespace Bootstrap

variable (boot : Bootstrap)

/-- The number of front panel ports. -/
def ports : Nat :=
  boot.interfaces.length

/-- The number of counters that the first objects take. -/
def needed : Nat :=
  3 * boot.ports + 5

/-- The id at a place after the last one in use. -/
def idAt (type : ObjectType) (place : Nat) : ObjectId :=
  .compose boot.index type (boot.last + place)

/-- The id of the default VLAN. -/
def vlan : ObjectId :=
  boot.idAt .vlan 1

/-- The id of the processor port. -/
def cpuPort : ObjectId :=
  boot.idAt .port 2

/-- The id of the front panel port of an interface. -/
def port (interface : Nat) : ObjectId :=
  boot.idAt .port (3 + interface)

/-- The id of the virtual router. -/
def router : ObjectId :=
  boot.idAt .virtualRouter (boot.ports + 3)

/-- The id of the bridge. -/
def bridge : ObjectId :=
  boot.idAt .bridge (boot.ports + 4)

/-- The id of the bridge port of an interface. -/
def bridgePort (interface : Nat) : ObjectId :=
  boot.idAt .bridgePort (boot.ports + 5 + 2 * interface)

/-- The id of the VLAN membership of an interface. -/
def vlanMember (interface : Nat) : ObjectId :=
  boot.idAt .vlanMember (boot.ports + 6 + 2 * interface)

/-- The id of the trap group. -/
def trapGroup : ObjectId :=
  boot.idAt .hostifTrapGroup (3 * boot.ports + 5)

/-- The ids of the front panel ports. -/
def portList : List ObjectId :=
  (List.range boot.ports).map boot.port

/-- The attributes of the switch: those given, and those that every switch has. -/
def switchAttributes : Attributes :=
  boot.given
    |>.insert .switchOperStatus (.s32 SwitchOperStatus.up.code)
    |>.insert .switchSrcMacAddress (.mac boot.sourceMac)
    |>.insert .switchFdbAgingTime ((boot.given.get? .switchFdbAgingTime).getD (.u32 0))
    |>.insert .switchDefaultVlanId (.oid boot.vlan)
    |>.insert .switchCpuPort (.oid boot.cpuPort)
    |>.insert .switchPortNumber (.u32 (UInt32.ofNat boot.ports))
    |>.insert .switchPortList (.ofIds boot.portList)
    |>.insert .switchDefaultVirtualRouterId (.oid boot.router)
    |>.insert .switchDefault1QBridgeId (.oid boot.bridge)
    |>.insert .switchDefaultTrapGroup (.oid boot.trapGroup)

/-- The bridge port and the VLAN membership of an interface. -/
def members (interface : Nat) : List (ObjectType × Attributes) :=
  [(.bridgePort, bridgePortAttributes boot.bridge (boot.port interface)),
    (.vlanMember, vlanMemberAttributes boot.vlan (boot.bridgePort interface))]

/-- The processor port and those of the interfaces, after the default VLAN. -/
def plannedPorts : List (ObjectType × Attributes) :=
  (.vlan, vlanAttributes) :: (.port, cpuPortAttributes) ::
    boot.interfaces.map fun interface => (.port, boot.portAttributes interface)

/-- The objects besides the switch, in the order in which they draw their ids. -/
def planned : List (ObjectType × Attributes) :=
  boot.plannedPorts ++ (.virtualRouter, boot.routerAttributes) :: (.bridge, bridgeAttributes) ::
    ((List.range boot.ports).flatMap boot.members ++ [(.hostifTrapGroup, trapGroupAttributes)])

/-- Objects with ids that count up from a place. -/
def placed (place : Nat) : List (ObjectType × Attributes) → List (ObjectId × Attributes)
  | [] => []
  | (type, attrs) :: rest => (boot.idAt type place, attrs) :: placed (place + 1) rest

/-- All objects of the new switch. -/
def objects : List (ObjectId × Attributes) :=
  (boot.switchId, boot.switchAttributes) :: boot.placed 1 boot.planned

/-- The types of the objects besides the switch, in the order in which they draw their ids. -/
def plan : List ObjectType :=
  boot.planned.map Prod.fst

/-- The ids that a new switch is given: its own, and those drawn for its first objects. -/
def issued : List ObjectId :=
  boot.switchId :: ((⟨boot.last⟩ : IdAllocator).draw boot.index boot.plan).1

/-! ## Places -/

variable {boot} {planned others : List (ObjectType × Attributes)} {place : Nat}

theorem length_placed : (boot.placed place planned).length = planned.length := by
  induction planned generalizing place with
  | nil => rfl
  | cons entry rest ih => exact congrArg (· + 1) ih

theorem placed_append :
    boot.placed place (planned ++ others) =
      boot.placed place planned ++ boot.placed (planned.length + place) others := by
  induction planned generalizing place with
  | nil => rw [List.nil_append, List.length_nil, Nat.zero_add]; rfl
  | cons entry rest ih =>
      have later : rest.length + 1 + place = rest.length + (place + 1) := by omega
      rw [List.cons_append, List.length_cons, later]
      exact congrArg (_ :: ·) ih

theorem mem_placed_iff {entry : ObjectId × Attributes} :
    entry ∈ boot.placed place planned ↔
      ∃ position type attrs, planned[position]? = some (type, attrs) ∧
        entry = (boot.idAt type (place + position), attrs) := by
  induction planned generalizing place with
  | nil => simp [placed]
  | cons first rest ih =>
      unfold placed
      rw [List.mem_cons, ih]
      constructor
      · rintro (rfl | ⟨position, type, attrs, there, rfl⟩)
        · exact ⟨0, _, _, rfl, rfl⟩
        · refine ⟨position + 1, type, attrs, there, ?_⟩
          rw [Nat.add_assoc, Nat.add_comm 1]
      · rintro ⟨position, type, attrs, there, rfl⟩
        cases position with
        | zero =>
            cases there
            exact .inl rfl
        | succ position =>
            refine .inr ⟨position, type, attrs, there, ?_⟩
            rw [Nat.add_assoc, Nat.add_comm 1]

/-- The places are those at which the ids are drawn. -/
theorem map_fst_placed :
    (boot.placed (place + 1) planned).map Prod.fst =
      (planned.map Prod.fst).mapIdx fun position type =>
        .compose boot.index type (boot.last + place + (position + 1)) := by
  induction planned generalizing place with
  | nil => rfl
  | cons first rest ih =>
      rw [List.map_cons, List.mapIdx_cons]
      unfold placed
      rw [List.map_cons, ih]
      simp only [idAt, Nat.add_assoc, Nat.add_comm, Nat.add_left_comm]

theorem placed_interfaces (interfaces : List LaneMapEntry) :
    boot.placed place (interfaces.map fun interface => (.port, boot.portAttributes interface)) =
      interfaces.mapIdx fun position interface =>
        (boot.idAt .port (place + position), boot.portAttributes interface) := by
  induction interfaces generalizing place with
  | nil => rfl
  | cons first rest ih =>
      rw [List.map_cons, List.mapIdx_cons]
      unfold placed
      have later (position : Nat) : place + 1 + position = place + (position + 1) := by omega
      simp only [ih, later]
      rfl

theorem length_members (count : Nat) :
    ((List.range count).flatMap boot.members).length = 2 * count := by
  induction count with
  | zero => rfl
  | succ count ih =>
      rw [List.range_succ, List.flatMap_append, List.length_append, ih]
      rfl

theorem placed_members (count : Nat) :
    boot.placed (boot.ports + 5) ((List.range count).flatMap boot.members) =
      (List.range count).flatMap fun position =>
        [(boot.bridgePort position, bridgePortAttributes boot.bridge (boot.port position)),
          (boot.vlanMember position,
            vlanMemberAttributes boot.vlan (boot.bridgePort position))] := by
  induction count with
  | zero => rfl
  | succ count ih =>
      have first : 2 * count + (boot.ports + 5) = boot.ports + 5 + 2 * count := Nat.add_comm _ _
      have second : boot.ports + 5 + 2 * count + 1 = boot.ports + 6 + 2 * count := by omega
      rw [List.range_succ, List.flatMap_append, List.flatMap_append, placed_append, ih,
        length_members, first]
      simp only [List.flatMap_cons, List.flatMap_nil, List.append_nil, members, placed]
      rw [second]
      rfl

variable (boot)

theorem length_plannedPorts : boot.plannedPorts.length = boot.ports + 2 :=
  congrArg (· + 2) (List.length_map _)

theorem placed_plannedPorts :
    boot.placed 1 boot.plannedPorts =
      (boot.vlan, vlanAttributes) :: (boot.cpuPort, cpuPortAttributes) ::
        boot.interfaces.mapIdx fun position interface =>
          (boot.port position, boot.portAttributes interface) :=
  congrArg (fun rest => _ :: _ :: rest) (placed_interfaces boot.interfaces)

theorem objects_eq :
    boot.objects =
      (boot.switchId, boot.switchAttributes) :: (boot.vlan, vlanAttributes) ::
        (boot.cpuPort, cpuPortAttributes) ::
        (boot.interfaces.mapIdx fun position interface =>
          (boot.port position, boot.portAttributes interface)) ++
        (boot.router, boot.routerAttributes) :: (boot.bridge, bridgeAttributes) ::
        (((List.range boot.ports).flatMap fun position =>
          [(boot.bridgePort position, bridgePortAttributes boot.bridge (boot.port position)),
            (boot.vlanMember position,
              vlanMemberAttributes boot.vlan (boot.bridgePort position))]) ++
        [(boot.trapGroup, trapGroupAttributes)]) := by
  have routerPlace : boot.ports + 2 + 1 = boot.ports + 3 := rfl
  have last : 2 * boot.ports + (boot.ports + 5) = 3 * boot.ports + 5 := by omega
  unfold objects planned
  rw [placed_append, placed_plannedPorts, length_plannedPorts, routerPlace]
  simp only [placed, placed_append, placed_members, length_members, last]
  rfl

theorem length_planned : boot.planned.length = boot.needed := by
  unfold planned needed
  rw [List.length_append, length_plannedPorts, List.length_cons, List.length_cons,
    List.length_append, length_members, List.length_singleton]
  omega

variable {boot}

/-- Something holds of each single object, and of those at each position. -/
structure Each (boot : Bootstrap) (holds : ObjectId × Attributes → Prop) : Prop where
  switch : holds (boot.switchId, boot.switchAttributes)
  vlan : holds (boot.vlan, vlanAttributes)
  cpuPort : holds (boot.cpuPort, cpuPortAttributes)
  port : ∀ position, ∀ inside : position < boot.ports,
    holds (boot.port position, boot.portAttributes (boot.interfaces.get ⟨position, inside⟩))
  router : holds (boot.router, boot.routerAttributes)
  bridge : holds (boot.bridge, bridgeAttributes)
  bridgePort : ∀ position < boot.ports,
    holds (boot.bridgePort position, bridgePortAttributes boot.bridge (boot.port position))
  vlanMember : ∀ position < boot.ports,
    holds (boot.vlanMember position,
      vlanMemberAttributes boot.vlan (boot.bridgePort position))
  trapGroup : holds (boot.trapGroup, trapGroupAttributes)

theorem each_iff {holds : ObjectId × Attributes → Prop} :
    boot.Each holds ↔ ∀ entry ∈ boot.objects, holds entry := by
  rw [objects_eq]
  simp only [List.forall_mem_cons, List.forall_mem_append, List.forall_mem_flatMap,
    List.mem_range]
  constructor
  · intro each
    refine ⟨⟨each.switch, each.vlan, each.cpuPort, fun entry member => ?_⟩, each.router,
      each.bridge, fun position inside => ?_, each.trapGroup, fun _ => nofun⟩
    · obtain ⟨position, inside, rfl⟩ := List.mem_mapIdx.mp member
      exact each.port position inside
    · exact ⟨each.bridgePort position inside, each.vlanMember position inside, fun _ => nofun⟩
  · rintro ⟨⟨switch, vlan, cpuPort, ports⟩, router, bridge, members, trapGroup, _⟩
    exact ⟨switch, vlan, cpuPort,
      fun position inside => ports _ (List.mem_mapIdx.mpr ⟨position, inside, rfl⟩),
      router, bridge, fun position inside => (members position inside).1,
      fun position inside => (members position inside).2.1, trapGroup⟩

/-- The first objects are those there are. -/
theorem each_mem_objects : boot.Each (· ∈ boot.objects) :=
  each_iff.mpr fun _ => id

/-! ## Ids -/

theorem isCounted_of_mem_planned :
    ∀ entry ∈ boot.planned, entry.1.isCounted = true := by
  unfold planned plannedPorts members
  simp only [List.forall_mem_cons, List.forall_mem_append, List.forall_mem_flatMap,
    List.forall_mem_map]
  exact ⟨⟨rfl, rfl, fun _ _ => rfl⟩, rfl, rfl, fun _ _ => ⟨rfl, rfl, fun _ => nofun⟩,
    rfl, fun _ => nofun⟩

theorem isCounted_of_mem_plan : ∀ type ∈ boot.plan, type.isCounted = true :=
  List.forall_mem_map.mpr isCounted_of_mem_planned

theorem length_plan : boot.plan.length = boot.needed := by
  unfold plan
  rw [List.length_map, length_planned]

/-- The objects of a new switch have the ids that are handed out for it. -/
theorem map_fst_objects (fits : boot.last + boot.needed < ObjectId.counterLimit) :
    boot.objects.map Prod.fst = boot.issued := by
  unfold objects issued
  rw [IdAllocator.draw_of_lt isCounted_of_mem_plan (by rw [length_plan]; exact fits)]
  exact congrArg (boot.switchId :: ·) map_fst_placed

theorem mem_issued_of_mem_objects (fits : boot.last + boot.needed < ObjectId.counterLimit)
    {entry : ObjectId × Attributes} (member : entry ∈ boot.objects) :
    entry.1 ∈ boot.issued := by
  rw [← map_fst_objects fits]
  exact List.mem_map_of_mem member

/-- The ids that a new switch is given are all different. -/
theorem nodup_issued : boot.issued.Nodup := by
  obtain ⟨_, drawn, distinct⟩ :=
    @IdAllocator.draw_spec ⟨boot.last⟩ boot.index boot.plan isCounted_of_mem_plan
  refine List.nodup_cons.mpr ⟨fun again => ?_, distinct⟩
  exact (drawn _ again).type_ne (ObjectId.type?_ofSwitchIndex _)

theorem type?_idAt {type : ObjectType} (fits : boot.last + place < ObjectId.counterLimit) :
    (boot.idAt type place).type? = some type :=
  ObjectId.type?_compose fits

theorem raw_idAt_lt {type : ObjectType} {first second : Nat} (before : first < second)
    (fits : boot.last + second < ObjectId.counterLimit) :
    (boot.idAt type first).raw.toNat < (boot.idAt type second).raw.toNat := by
  unfold idAt
  rw [ObjectId.toNat_raw_compose (by omega), ObjectId.toNat_raw_compose fits]
  omega

theorem counter_idAt {type : ObjectType} (fits : boot.last + place < ObjectId.counterLimit) :
    (boot.idAt type place).counter = boot.last + place :=
  ObjectId.counter_compose fits

end Bootstrap

end SwitchAbstraction
