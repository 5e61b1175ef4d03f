import SwitchAbstraction.Proofs.NewSwitch
import SwitchAbstraction.Proofs.Selections

/-!
# Building a switch leads to its plan

Building goes through stages.  Each step leads from one stage to the next if
there are counters enough, and uses up those that are left if not.  Put
together, the steps lead to the switch as it was planned, so a switch is built
whenever there are counters for all of its objects.
-/

namespace SwitchAbstraction

namespace Bootstrap

/-- How far a switch is built: its own attributes, and the objects added in their order. -/
structure Stage where
  own : Attributes
  added : List (ObjectType × Attributes)

namespace Stage

/-- The counters that were drawn. -/
def drawn (stage : Stage) : Nat :=
  stage.added.length

/-- The objects that are there. -/
def objects (stage : Stage) (boot : Bootstrap) : List (ObjectId × Attributes) :=
  (boot.switchId, stage.own) :: boot.placed 1 stage.added

end Stage

variable {boot : Bootstrap} {builder : Builder} {before middle stage : Stage}
  {own attrs : Attributes} {added : List (ObjectType × Attributes)} {type : ObjectType}

/-- A builder has come to a stage. -/
structure Reached (boot : Bootstrap) (stage : Stage) (builder : Builder) : Prop where
  ids_eq : builder.ids = ⟨boot.last + stage.drawn⟩
  fits : 0 < stage.drawn → boot.last + stage.drawn < ObjectId.counterLimit
  id_eq : builder.switch.id = boot.switchId
  learned_eq : builder.switch.learned = ∅
  counters_eq : builder.switch.counters = ∅
  debugCounters_eq : builder.switch.debugCounters = .fresh
  object?_iff : ∀ {key attrs}, builder.switch.object? key = some attrs ↔
    ∃ entry ∈ stage.objects boot, key = .object entry.1 ∧ attrs = entry.2
  counted : ∀ entry ∈ stage.added, entry.1.isCounted = true

/--
Steps lead from one stage to another with a result if there are counters for
what they add; if not, they use up all counters that are left and fail.
-/
structure Leads {α : Type} (boot : Bootstrap) (steps : Building α) (result : α)
    (before after : Stage) : Prop where
  forward : before.drawn ≤ after.drawn
  success : ∀ {builder}, boot.Reached before builder →
    (before.drawn < after.drawn → boot.last + after.drawn < ObjectId.counterLimit) →
      ∃ next, steps.run builder = .ok result next ∧ boot.Reached after next
  failure : ∀ {builder}, boot.Reached before builder → before.drawn < after.drawn →
    ObjectId.counterLimit ≤ boot.last + after.drawn →
      ∃ next, steps.run builder = .error (.failed .countersExhausted) next ∧
        next.ids = ⟨max (boot.last + before.drawn) (ObjectId.counterLimit - 1)⟩

/-! ## Steps after one another -/

section Steps

variable {α β : Type} {first : Building α} {second : α → Building β} {result : α} {final : β}
  {after : Stage}

theorem run_bind_ok {next : Builder} (done : first.run builder = .ok result next) :
    (first >>= second).run builder = (second result).run next := by
  change EStateM.bind first second builder = _
  unfold EStateM.bind
  rw [show first builder = .ok result next from done]
  rfl

theorem run_bind_error {next : Builder} {fault : Fault}
    (failed : first.run builder = .error fault next) :
    (first >>= second).run builder = .error fault next := by
  change EStateM.bind first second builder = _
  unfold EStateM.bind
  rw [show first builder = .error fault next from failed]

/-- Steps after one another lead as far as the last of them. -/
theorem Leads.bind (leads : boot.Leads first result before middle)
    (rest : boot.Leads (second result) final middle after) :
    boot.Leads (first >>= second) final before after where
  forward := Nat.le_trans leads.forward rest.forward
  success {builder} reached fits := by
    have forward := rest.forward
    obtain ⟨next, done, reachedNext⟩ := leads.success reached fun _ => by
      have := fits (by omega)
      omega
    obtain ⟨last, doneToo, reachedLast⟩ := rest.success reachedNext fun _ => by
      have := leads.forward
      exact fits (by omega)
    exact ⟨last, (run_bind_ok done).trans doneToo, reachedLast⟩
  failure {builder} reached moves short := by
    have forward := leads.forward
    by_cases early : before.drawn < middle.drawn ∧
        ObjectId.counterLimit ≤ boot.last + middle.drawn
    · obtain ⟨next, failed, ids⟩ := leads.failure reached early.1 early.2
      exact ⟨next, run_bind_error failed, ids⟩
    · -- The first steps still succeed, so what is missing is missing for the others.
      obtain ⟨next, done, reachedNext⟩ := leads.success reached fun _ => by omega
      obtain ⟨last, failed, ids⟩ := rest.failure reachedNext (by omega) short
      refine ⟨last, (run_bind_ok done).trans failed, ids.trans ?_⟩
      congr 1
      omega

theorem leads_pure (result : α) : boot.Leads (pure result) result stage stage where
  forward := Nat.le_refl _
  success reached _ := ⟨_, rfl, reached⟩
  failure _ moves := absurd moves (Nat.lt_irrefl _)

theorem Leads.discard (leads : boot.Leads first result before after) :
    boot.Leads (discard first) () before after :=
  leads.bind (leads_pure ())

end Steps

/-! ## Single steps -/

theorem objects_concat :
    Stage.objects ⟨own, added ++ [(type, attrs)]⟩ boot =
      Stage.objects ⟨own, added⟩ boot ++ [(boot.idAt type (added.length + 1), attrs)] := by
  unfold Stage.objects
  rw [placed_append]
  rfl

theorem drawn_concat : Stage.drawn ⟨own, added ++ [(type, attrs)]⟩ = added.length + 1 :=
  List.length_append

/-- An object besides the switch is of a counted type and has the id of its place. -/
theorem Reached.mem_placed (reached : boot.Reached stage builder)
    {entry : ObjectId × Attributes} (member : entry ∈ boot.placed 1 stage.added) :
    ∃ type place, type.isCounted = true ∧ place ≤ stage.drawn ∧
      boot.last + place < ObjectId.counterLimit ∧ entry.1 = boot.idAt type place := by
  obtain ⟨position, type, attrs, there, rfl⟩ := mem_placed_iff.mp member
  have inside : position < stage.drawn := (List.getElem?_eq_some_iff.mp there).1
  have fits := reached.fits (by omega)
  exact ⟨type, 1 + position, reached.counted _ (List.mem_of_getElem? there), by omega, by omega,
    rfl⟩

theorem switchId_ne_idAt {place : Nat} (counted : type.isCounted = true)
    (fits : boot.last + place < ObjectId.counterLimit) :
    boot.switchId ≠ boot.idAt type place := by
  intro same
  have typed := (congrArg ObjectId.type? same).trans (type?_idAt fits)
  rw [switchId, ObjectId.type?_ofSwitchIndex] at typed
  exact (ObjectType.isCounted_iff.mp counted).2 (Option.some.inj typed).symm

/-- The id at the next place is not taken. -/
theorem Reached.object?_next (reached : boot.Reached ⟨own, added⟩ builder)
    (counted : type.isCounted = true)
    (fits : boot.last + (added.length + 1) < ObjectId.counterLimit) :
    builder.switch.object? (.object (boot.idAt type (added.length + 1))) = none := by
  rw [Option.eq_none_iff_forall_ne_some]
  intro attrs stored
  obtain ⟨entry, member, same, _⟩ := reached.object?_iff.mp stored
  have taken : boot.idAt type (added.length + 1) = entry.1 := ObjectKey.object.inj same
  rcases List.mem_cons.mp member with rfl | placed
  · exact switchId_ne_idAt counted fits taken.symm
  · obtain ⟨other, place, _, upTo, fitsToo, own⟩ := reached.mem_placed placed
    have counters := congrArg ObjectId.counter (taken.trans own)
    have earlier : place ≤ added.length := upTo
    rw [counter_idAt fits, counter_idAt fitsToo] at counters
    omega

theorem Reached.insert (reached : boot.Reached ⟨own, added⟩ builder)
    (counted : type.isCounted = true)
    (fits : boot.last + (added.length + 1) < ObjectId.counterLimit) {next : Switch}
    (inserted : builder.switch.insert (.object (boot.idAt type (added.length + 1))) attrs =
      .ok next) :
    boot.Reached ⟨own, added ++ [(type, attrs)]⟩
      ⟨next, ⟨boot.last + (added.length + 1)⟩⟩ where
  ids_eq := by rw [drawn_concat]
  fits _ := by
    rw [drawn_concat]
    exact fits
  id_eq := (Switch.id_insert inserted).trans reached.id_eq
  learned_eq := (Switch.learned_insert inserted).trans reached.learned_eq
  counters_eq := (Switch.counters_insert inserted).trans reached.counters_eq
  debugCounters_eq := (Switch.debugCounters_insert inserted).trans reached.debugCounters_eq
  object?_iff {key stored} := by
    obtain ⟨absent, _⟩ := Switch.insert_eq_ok_iff.mp inserted
    rw [Switch.object?_insert inserted, objects_concat]
    simp only [List.mem_append, List.mem_singleton, or_and_right, exists_or, exists_eq_left]
    rw [← reached.object?_iff]
    by_cases taken : key = .object (boot.idAt type (added.length + 1))
    · simp [taken, absent, eq_comm]
    · simp [taken]
  counted := List.forall_mem_append.mpr
    ⟨reached.counted, List.forall_mem_singleton.mpr counted⟩

theorem run_add_ok {id : ObjectId} {rest : IdAllocator} {next : Switch}
    (drawn : builder.ids.allocate boot.index type = .ok (id, rest))
    (inserted : builder.switch.insert (.object id) attrs = .ok next) :
    (boot.add type attrs).run builder = .ok id ⟨next, rest⟩ := by
  have placed : builder.switch.place builder.ids boot.index type attrs =
      (.ok (id, next), rest) := by
    unfold Switch.place
    rw [drawn]
    dsimp only
    rw [inserted]
    rfl
  simp only [add, Building.add, EStateM.run, placed]

theorem run_add_error {fault : Fault}
    (refused : builder.ids.allocate boot.index type = .error fault) :
    (boot.add type attrs).run builder = .error fault builder := by
  have placed : builder.switch.place builder.ids boot.index type attrs =
      (.error fault, builder.ids) := by
    unfold Switch.place
    rw [refused]
  simp only [add, Building.add, EStateM.run, placed]

/-- Adding an object leads to the stage with this object, under the id at the next place. -/
theorem leads_add (counted : type.isCounted = true) {place : Nat}
    (following : place = added.length + 1) :
    boot.Leads (boot.add type attrs) (boot.idAt type place) ⟨own, added⟩
      ⟨own, added ++ [(type, attrs)]⟩ where
  forward := by
    rw [drawn_concat]
    exact Nat.le_succ _
  success {builder} reached fits := by
    subst following
    rw [drawn_concat] at fits
    have room := fits (Nat.lt_succ_self _)
    have drawn : builder.ids.allocate boot.index type =
        .ok (boot.idAt type (added.length + 1), ⟨boot.last + (added.length + 1)⟩) := by
      rw [reached.ids_eq]
      exact IdAllocator.allocate_of_lt counted room
    obtain ⟨next, inserted⟩ : ∃ next, builder.switch.insert
        (.object (boot.idAt type (added.length + 1))) attrs = .ok next :=
      ⟨_, Switch.insert_eq_ok_iff.mpr ⟨reached.object?_next counted room, rfl⟩⟩
    exact ⟨_, run_add_ok drawn inserted, reached.insert counted room inserted⟩
  failure {builder} reached _ short := by
    rw [drawn_concat] at short
    have refused : builder.ids.allocate boot.index type =
        .error (.failed .countersExhausted) := by
      rw [reached.ids_eq]
      exact IdAllocator.allocate_of_not_lt counted short
    have past : ObjectId.counterLimit - 1 ≤ boot.last + added.length := by omega
    exact ⟨builder, run_add_error refused,
      reached.ids_eq.trans (congrArg IdAllocator.mk (Nat.max_eq_left past).symm)⟩

theorem Reached.setAttr (reached : boot.Reached ⟨own, added⟩ builder) (id : AttrId)
    (value : AttrValue) :
    boot.Reached ⟨own.insert id value, added⟩
      { builder with switch := builder.switch.setAttr (.object boot.switchId) id value } where
  ids_eq := reached.ids_eq
  fits := reached.fits
  id_eq := reached.id_eq
  learned_eq := reached.learned_eq
  counters_eq := reached.counters_eq
  debugCounters_eq := reached.debugCounters_eq
  object?_iff {key stored} := by
    dsimp only
    rw [Switch.object?_setAttr]
    simp only [Stage.objects, List.exists_mem_cons_iff]
    split
    · next self =>
        have there : builder.switch.object? key = some own :=
          reached.object?_iff.mpr ⟨_, List.mem_cons_self, self, rfl⟩
        rw [there, Option.map_some, Option.some_inj]
        constructor
        · exact fun same => .inl ⟨self, same.symm⟩
        · rintro (⟨_, same⟩ | ⟨entry, placed, same, _⟩)
          · exact same.symm
          · obtain ⟨_, _, counted, _, fits, other⟩ := reached.mem_placed placed
            have taken := ObjectKey.object.inj (self.symm.trans same)
            exact absurd (taken.trans other) (switchId_ne_idAt counted fits)
    · next other =>
        rw [reached.object?_iff]
        simp only [Stage.objects, List.exists_mem_cons_iff, other, false_and, false_or]
  counted := reached.counted

/-- Telling the switch of something changes its own attributes. -/
theorem leads_tell (id : AttrId) (value : AttrValue) :
    boot.Leads (Building.tell id value) () ⟨own, added⟩ ⟨own.insert id value, added⟩ where
  forward := Nat.le_refl _
  success {builder} reached _ := by
    refine ⟨_, rfl, ?_⟩
    dsimp only
    rw [reached.id_eq]
    exact reached.setAttr id value
  failure _ moves := absurd moves (Nat.lt_irrefl _)

theorem leads_introduce (counted : type.isCounted = true) {place : Nat}
    (following : place = added.length + 1) (attr : AttrId) :
    boot.Leads (boot.introduce type attrs attr) (boot.idAt type place) ⟨own, added⟩
      ⟨own.insert attr (.oid (boot.idAt type place)), added ++ [(type, attrs)]⟩ :=
  (leads_add counted following).bind ((leads_tell attr _).bind (leads_pure _))

/-- Looking at the front panel ports leads nowhere else. -/
theorem leads_dataPorts {ids : List ObjectId}
    (read : ∀ {builder}, boot.Reached stage builder → builder.switch.dataPorts = ids) :
    boot.Leads Building.dataPorts ids stage stage where
  forward := Nat.le_refl _
  success {builder} reached _ := ⟨builder, by rw [← read reached]; rfl, reached⟩
  failure _ moves := absurd moves (Nat.lt_irrefl _)

/-! ## Loops -/

theorem leads_addPorts (interfaces : List LaneMapEntry) :
    boot.Leads (interfaces.forM boot.addPort) () ⟨own, added⟩
      ⟨own, added ++ interfaces.map fun interface => (.port, boot.portAttributes interface)⟩ := by
  induction interfaces generalizing added with
  | nil =>
      rw [List.map_nil, List.append_nil]
      exact leads_pure ()
  | cons interface rest ih =>
      have later := @ih (added ++ [(.port, boot.portAttributes interface)])
      rw [List.append_assoc] at later
      exact (leads_add rfl rfl).discard.bind later

theorem leads_addMember {interface : Nat}
    (place : added.length = boot.ports + 4 + 2 * interface) :
    boot.Leads (boot.addMember boot.vlan boot.bridge (boot.port interface)) () ⟨own, added⟩
      ⟨own, added ++ boot.members interface⟩ := by
  have bridgePort : boot.Leads
      (boot.add .bridgePort (bridgePortAttributes boot.bridge (boot.port interface)))
      (boot.bridgePort interface) ⟨own, added⟩ _ :=
    leads_add rfl (by omega)
  have both : added ++ boot.members interface =
      added ++ [(.bridgePort, bridgePortAttributes boot.bridge (boot.port interface))] ++
        [(.vlanMember, vlanMemberAttributes boot.vlan (boot.bridgePort interface))] := by
    rw [List.append_assoc]
    rfl
  rw [both]
  exact bridgePort.bind (leads_add rfl rfl).discard

theorem leads_addMembers_range' {interface : Nat} (count : Nat)
    (place : added.length = boot.ports + 4 + 2 * interface) :
    boot.Leads
      (((List.range' interface count).map boot.port).forM (boot.addMember boot.vlan boot.bridge))
      () ⟨own, added⟩
      ⟨own, added ++ (List.range' interface count).flatMap boot.members⟩ := by
  induction count generalizing interface added with
  | zero =>
      rw [List.range'_zero, List.flatMap_nil, List.append_nil]
      exact leads_pure ()
  | succ count ih =>
      have later := @ih (added ++ boot.members interface) (interface + 1) (by
        have pair : (boot.members interface).length = 2 := rfl
        rw [List.length_append, pair]
        omega)
      rw [List.append_assoc] at later
      rw [List.range'_succ, List.flatMap_cons]
      exact (leads_addMember place).bind later

/-- Bridge ports and memberships are added in pairs, at their place in the plan. -/
theorem leads_addMembers (place : added.length = boot.ports + 4) :
    boot.Leads (boot.portList.forM (boot.addMember boot.vlan boot.bridge)) () ⟨own, added⟩
      ⟨own, added ++ (List.range boot.ports).flatMap boot.members⟩ := by
  unfold portList
  rw [List.range_eq_range']
  exact leads_addMembers_range' _ place

/-! ## The front panel ports -/

theorem Reached.isNamed (reached : boot.Reached stage builder) : builder.switch.IsNamed := by
  intro id attrs stored
  obtain ⟨entry, member, same, _⟩ := reached.object?_iff.mp stored
  obtain rfl := ObjectKey.object.inj same
  rcases List.mem_cons.mp member with rfl | placed
  · exact ⟨.switch, ObjectId.type?_ofSwitchIndex _⟩
  · obtain ⟨type, place, _, _, fits, own⟩ := reached.mem_placed placed
    exact ⟨type, own ▸ type?_idAt fits⟩

/-- The front panel ports are found in their order, once they and no other ports were added. -/
theorem Reached.dataPorts_eq (reached : boot.Reached stage builder)
    {others : List (ObjectType × Attributes)} (all : stage.added = boot.plannedPorts ++ others)
    (apart : ∀ entry ∈ others, entry.1 ≠ .port) : builder.switch.dataPorts = boot.portList := by
  have drawn : stage.drawn = boot.ports + 2 + others.length := by
    unfold Stage.drawn
    rw [all, List.length_append, length_plannedPorts]
  have fits := reached.fits (by omega)
  have objects : stage.objects boot =
      (boot.switchId, stage.own) :: (boot.placed 1 boot.plannedPorts ++
        boot.placed (boot.ports + 3) others) := by
    unfold Stage.objects
    rw [all, placed_append, length_plannedPorts]
  rw [Switch.dataPorts_eq_idsOf]
  refine reached.isNamed.idsOf_eq (fun first second before inside => ?_)
    (fun position inside => ?_) fun {member attrs} isOf => ?_
  · exact raw_idAt_lt (by omega) (by omega)
  · refine ⟨boot.portAttributes (boot.interfaces.get ⟨position, inside⟩),
      type?_idAt (by omega), reached.object?_iff.mpr ⟨(_, _), ?_, rfl, rfl⟩, rfl⟩
    rw [objects, placed_plannedPorts]
    refine .tail _ (List.mem_append_left _ (.tail _ (.tail _ ?_)))
    exact List.mem_mapIdx.mpr ⟨position, inside, rfl⟩
  · obtain ⟨entry, listed, same, rfl⟩ := reached.object?_iff.mp isOf.live
    obtain rfl := ObjectKey.object.inj same
    rw [objects, placed_plannedPorts] at listed
    rcases List.mem_cons.mp listed with rfl | listed
    · cases (ObjectId.type?_ofSwitchIndex boot.index).symm.trans isOf.typed
    rcases List.mem_append.mp listed with first | later
    · rcases List.mem_cons.mp first with rfl | ports
      · cases (type?_idAt (by omega)).symm.trans isOf.typed
      rcases List.mem_cons.mp ports with rfl | front
      · cases isOf.kept
      obtain ⟨position, inside, rfl⟩ := List.mem_mapIdx.mp front
      exact ⟨position, inside, rfl⟩
    · obtain ⟨position, type, attrs, there, rfl⟩ := mem_placed_iff.mp later
      have inside := (List.getElem?_eq_some_iff.mp there).1
      have typed := (type?_idAt (by omega)).symm.trans isOf.typed
      exact absurd (Option.some.inj typed) (apart _ (List.mem_of_getElem? there))

/-! ## The whole switch -/

/-- The stage at which all objects were added. -/
def finished (boot : Bootstrap) : Stage :=
  ⟨boot.switchAttributes, boot.planned⟩

theorem drawn_finished : boot.finished.drawn = boot.needed :=
  boot.length_planned

theorem leads_addObjects :
    boot.Leads boot.addObjects () ⟨boot.firstAttributes, []⟩ boot.finished := by
  have ports : boot.portList.length = boot.ports := by simp [portList]
  have planned : boot.planned =
      boot.plannedPorts ++ [(.virtualRouter, boot.routerAttributes)] ++
        [(.bridge, bridgeAttributes)] ++ (List.range boot.ports).flatMap boot.members ++
        [(.hostifTrapGroup, trapGroupAttributes)] := by
    simp [Bootstrap.planned]
  have front := boot.length_plannedPorts
  have bridgePlace (router : ObjectType × Attributes) :
      boot.ports + 4 = (boot.plannedPorts ++ [router]).length + 1 := by
    rw [List.length_append, front]
    rfl
  have membersPlace (router bridge : ObjectType × Attributes) :
      (boot.plannedPorts ++ [router] ++ [bridge]).length = boot.ports + 4 := by
    rw [List.length_append, List.length_append, front]
    rfl
  have trapGroupPlace (router bridge : ObjectType × Attributes) :
      3 * boot.ports + 5 = (boot.plannedPorts ++ [router] ++ [bridge] ++
        (List.range boot.ports).flatMap boot.members).length + 1 := by
    rw [List.length_append, membersPlace, length_members]
    omega
  unfold finished addObjects
  rw [planned]
  refine .bind (leads_introduce rfl (rfl : 1 = _) _) ?_
  refine .bind (leads_introduce rfl (rfl : 2 = _) _).discard ?_
  refine .bind (leads_addPorts _) ?_
  refine .bind (leads_dataPorts fun reached =>
    reached.dataPorts_eq (List.append_nil _).symm nofun) ?_
  rw [ports]
  refine .bind (leads_tell _ _) ?_
  refine .bind (leads_tell _ _) ?_
  refine .bind (leads_introduce rfl (congrArg (· + 1) front.symm) _).discard ?_
  refine .bind (leads_introduce rfl (bridgePlace _) _) ?_
  refine .bind (leads_addMembers (membersPlace _ _)) ?_
  exact (leads_introduce rfl (trapGroupPlace _ _) _).discard

/-! ## The new switch -/

/-- What is known of a switch that has just been built. -/
structure IsBuilt (boot : Bootstrap) (switch : Switch) : Prop where
  fits : boot.last + boot.needed < ObjectId.counterLimit
  id_eq : switch.id = boot.switchId
  learned_eq : switch.learned = ∅
  counters_eq : switch.counters = ∅
  debugCounters_eq : switch.debugCounters = .fresh
  object?_iff : ∀ {key : ObjectKey} {attrs : Attributes},
    switch.object? key = some attrs ↔
      ∃ entry ∈ boot.objects, key = .object entry.1 ∧ attrs = entry.2

variable {switch : Switch} {ids : IdAllocator}

theorem needed_pos : 0 < boot.needed :=
  Nat.succ_pos _

theorem Reached.isBuilt (reached : boot.Reached boot.finished builder) :
    boot.IsBuilt builder.switch where
  fits := by
    rw [← drawn_finished]
    exact reached.fits (drawn_finished ▸ needed_pos)
  id_eq := reached.id_eq
  learned_eq := reached.learned_eq
  counters_eq := reached.counters_eq
  debugCounters_eq := reached.debugCounters_eq
  object?_iff := reached.object?_iff

theorem IsBuilt.reached (built : boot.IsBuilt switch) :
    boot.Reached boot.finished ⟨switch, ⟨boot.last + boot.needed⟩⟩ where
  ids_eq := by rw [drawn_finished]
  fits _ := by
    rw [drawn_finished]
    exact built.fits
  id_eq := built.id_eq
  learned_eq := built.learned_eq
  counters_eq := built.counters_eq
  debugCounters_eq := built.debugCounters_eq
  object?_iff := built.object?_iff
  counted := isCounted_of_mem_planned

/-- Building begins with the switch alone. -/
theorem exists_reached_first : ∃ first,
    (Switch.empty boot.switchId).insert (.object boot.switchId) boot.firstAttributes = .ok first ∧
      boot.Reached ⟨boot.firstAttributes, []⟩ ⟨first, ⟨boot.last⟩⟩ := by
  obtain ⟨first, inserted⟩ : ∃ first,
      (Switch.empty boot.switchId).insert (.object boot.switchId) boot.firstAttributes =
        .ok first :=
    ⟨_, Switch.insert_eq_ok_iff.mpr ⟨rfl, rfl⟩⟩
  refine ⟨first, inserted, rfl, fun drawn => absurd drawn (Nat.lt_irrefl _),
    Switch.id_insert inserted, Switch.learned_insert inserted, Switch.counters_insert inserted,
    Switch.debugCounters_insert inserted, fun {key attrs} => ?_, nofun⟩
  rw [Switch.object?_insert inserted]
  change _ ↔ ∃ entry ∈ [(boot.switchId, boot.firstAttributes)], _
  simp only [List.mem_singleton, exists_eq_left]
  split
  · next self => simp only [self, true_and, Option.some_inj, eq_comm]
  · next other => exact ⟨nofun, fun same => absurd same.1 other⟩

/-- A switch is built whenever there are counters enough for its objects. -/
theorem exists_run (fits : boot.last + boot.needed < ObjectId.counterLimit) :
    ∃ switch, boot.run = (.ok switch, ⟨boot.last + boot.needed⟩) ∧ boot.IsBuilt switch := by
  obtain ⟨first, inserted, reached⟩ := @exists_reached_first boot
  obtain ⟨last, done, reachedLast⟩ := leads_addObjects.success reached fun _ => by
    rw [drawn_finished]
    exact fits
  refine ⟨last.switch, ?_, reachedLast.isBuilt⟩
  unfold run
  rw [inserted]
  dsimp only
  rw [done]
  dsimp only
  rw [reachedLast.ids_eq, drawn_finished]

/-- Without counters enough no switch is built, and those that are left are used up. -/
theorem run_of_not_lt (short : ObjectId.counterLimit ≤ boot.last + boot.needed) :
    boot.run =
      (.error (.failed .countersExhausted), ⟨max boot.last (ObjectId.counterLimit - 1)⟩) := by
  obtain ⟨first, inserted, reached⟩ := @exists_reached_first boot
  obtain ⟨last, failed, ids⟩ := leads_addObjects.failure reached
    (by rw [drawn_finished]; exact needed_pos) (by rw [drawn_finished]; exact short)
  unfold run
  rw [inserted]
  dsimp only
  rw [failed]
  dsimp only
  rw [ids]
  rfl

theorem run_eq_ok (done : boot.run = (.ok switch, ids)) : boot.IsBuilt switch := by
  by_cases fits : boot.last + boot.needed < ObjectId.counterLimit
  · obtain ⟨built, made, isBuilt⟩ := exists_run fits
    obtain ⟨same, _⟩ := Prod.mk.inj (made.symm.trans done)
    cases same
    exact isBuilt
  · rw [run_of_not_lt (Nat.not_lt.mp fits)] at done
    cases (Prod.mk.inj done).1

/-- A switch is not built only for want of counters. -/
theorem run_eq_error {fault : Fault} (done : boot.run = (.error fault, ids)) :
    fault = .failed .countersExhausted := by
  by_cases fits : boot.last + boot.needed < ObjectId.counterLimit
  · obtain ⟨switch, built, _⟩ := exists_run fits
    rw [built] at done
    cases (Prod.mk.inj done).1
  · rw [run_of_not_lt (Nat.not_lt.mp fits)] at done
    exact (Except.error.inj (Prod.mk.inj done).1).symm

/-- Building a switch uses up the counters that drawing the ids one by one would. -/
theorem run_ids : boot.run.2 = ((⟨boot.last⟩ : IdAllocator).draw boot.index boot.plan).2 := by
  by_cases fits : boot.last + boot.needed < ObjectId.counterLimit
  · obtain ⟨switch, built, _⟩ := exists_run fits
    rw [built, IdAllocator.draw_of_lt isCounted_of_mem_plan (by rw [length_plan]; exact fits),
      length_plan]
  · have short := Nat.not_lt.mp fits
    rw [run_of_not_lt short, IdAllocator.draw_of_not_lt isCounted_of_mem_plan
      (by rw [length_plan]; exact short)]

end Bootstrap

end SwitchAbstraction
