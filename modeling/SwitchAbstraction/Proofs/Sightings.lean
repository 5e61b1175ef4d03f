import SwitchAbstraction.Proofs.ForwardingEvents
import SwitchAbstraction.Proofs.LearnTimes
import SwitchAbstraction.Proofs.SwitchNames
import SwitchAbstraction.Proofs.TypedStore

/-!
# Addresses that are seen

An address seen on a bridge port that its switch holds becomes a dynamic entry,
or puts the dynamic entry that there is on that port and starts its life anew.
A static entry stays as it is.  All sightings are taken but those on a port or
a switch that is not there, and none touches more than the one entry and its
record.
-/

namespace SwitchAbstraction

open Results

/-- An id that names an object is its key. -/
theorem ObjectKey.ofId_eq_ok {id : ObjectId} {key : ObjectKey} (read : ofId id = .ok key) :
    key = .object id := by
  unfold ofId at read
  split at read
  · cases read
  · split at read
    · exact (Except.ok.inj read).symm
    · cases read
  · cases read

namespace Switch

variable {switch next : Switch} {key : FdbKey} {port : ObjectId} {now : UInt64}
  {stored : Attributes}

/-- The switch with an entry stored that has just been seen on a port. -/
def withSeen (switch : Switch) (key : FdbKey) (port : ObjectId) (now : UInt64)
    (entry : Attributes) : Switch :=
  { switch with
    objects := switch.objects.insert (.fdb key) entry
    learned := switch.learned.insert key
      { bridgePort := port, vlan := switch.vlanOf key.bvId, learnedAt := now } }

/--
What becomes of a switch when an address is seen on one of its bridge ports,
and what it reports.  Seen for the first time the address gets an entry of its
own.  A dynamic entry moves if it was on another port or on none.
-/
inductive Sighting (switch : Switch) (key : FdbKey) (port : ObjectId) (now : UInt64) :
    List FdbEvent → Switch → Prop where
  | first (absent : switch.object? (.fdb key) = none) :
      Sighting switch key port now
        [⟨.learned, key,
          [⟨.fdbEntryType, .s32 FdbEntryType.dynamic.code⟩,
            ⟨.fdbEntryPacketAction, .s32 PacketAction.forward.code⟩,
            ⟨.fdbEntryBridgePortId, .oid port⟩]⟩]
        (switch.withSeen key port now (.ofList
          [⟨.fdbEntryType, .s32 FdbEntryType.dynamic.code⟩,
            ⟨.fdbEntryPacketAction, .s32 PacketAction.forward.code⟩,
            ⟨.fdbEntryBridgePortId, .oid port⟩]))
  | ofStatic {stored : Attributes} (there : switch.object? (.fdb key) = some stored)
      (static : stored.HasEntryType .static) : Sighting switch key port now [] switch
  | inPlace {stored : Attributes} (there : switch.object? (.fdb key) = some stored)
      (dynamic : stored.HasEntryType .dynamic)
      (same : stored.get? .fdbEntryBridgePortId = some (.oid port)) :
      Sighting switch key port now []
        (switch.withSeen key port now (stored.insert .fdbEntryBridgePortId (.oid port)))
  | elsewhere {stored : Attributes} (there : switch.object? (.fdb key) = some stored)
      (dynamic : stored.HasEntryType .dynamic)
      (other : stored.get? .fdbEntryBridgePortId ≠ some (.oid port)) :
      Sighting switch key port now
        [⟨.move, key,
          [⟨.fdbEntryType, .s32 FdbEntryType.dynamic.code⟩,
            ⟨.fdbEntryPacketAction, .s32 PacketAction.forward.code⟩,
            ⟨.fdbEntryBridgePortId, .oid port⟩]⟩]
        (switch.withSeen key port now (stored.insert .fdbEntryBridgePortId (.oid port)))

/-! ## The entry and its record -/

/-- What an id names depends on objects with ids only, and so does the number of a VLAN. -/
theorem vlanOf_congr (same : ∀ id, next.object? (.object id) = switch.object? (.object id))
    (domain : ObjectId) : next.vlanOf domain = switch.vlanOf domain := by
  have named : next.byId? domain = switch.byId? domain := by
    unfold byId?
    cases read : ObjectKey.ofId domain with
    | error fault => rfl
    | ok key =>
        rw [ObjectKey.ofId_eq_ok read]
        exact same domain
  unfold vlanOf
  rw [named]

/-- A dynamic entry that is stored and that the index does not know counts as just seen. -/
theorem syncLearned_eq_withSeen (dynamic : isDynamic stored = true)
    {index : OrderedMap FdbKey LearnedEntry} (unknown : index.get? key = none)
    (rest : ∀ record, index.insert key record = switch.learned.insert key record) :
    syncLearned { switch with
        objects := switch.objects.insert (.fdb key) stored
        learned := index } key now =
      switch.withSeen key (bridgePort stored) now stored := by
  have there : (switch.objects.insert (.fdb key) stored).get? (.fdb key) = some stored :=
    OrderedMap.get?_insert_self _ _ _
  have domain : vlanOf { switch with
      objects := switch.objects.insert (.fdb key) stored
      learned := index } key.bvId = switch.vlanOf key.bvId := by
    apply vlanOf_congr
    intro id
    exact (OrderedMap.get?_insert _ _ _ _).trans (if_neg nofun)
  unfold syncLearned object? learnedAt withSeen
  rw [there, Option.filter_some_pos dynamic]
  dsimp only
  rw [unknown, domain, rest]
  rfl

/-- An entry that is not there is added as one that has just been seen. -/
theorem Mirrored.addLearned_eq (mirrored : switch.Mirrored)
    (absent : switch.object? (.fdb key) = none) :
    switch.addLearned key port now =
      .ok (switch.withSeen key port now (learnedAttributes port)) := by
  have inserted : switch.insert (.fdb key) (learnedAttributes port) = .ok { switch with
      objects := switch.objects.insert (.fdb key) (learnedAttributes port) } :=
    insert_eq_ok_iff.mpr ⟨absent, rfl⟩
  have unknown : switch.learned.get? key = none :=
    Option.map_eq_none_iff.mp (mirrored.learnTime?_eq_none absent)
  have dynamic : isDynamic (learnedAttributes port) = true := rfl
  unfold Switch.addLearned
  rw [inserted]
  exact congrArg Except.ok (syncLearned_eq_withSeen dynamic unknown fun _ => rfl)

/-- A dynamic entry that is moved counts as one that has just been seen. -/
theorem moveLearned_eq (there : switch.object? (.fdb key) = some stored)
    (dynamic : stored.HasEntryType .dynamic) :
    switch.moveLearned key port now =
      switch.withSeen key port now (stored.insert .fdbEntryBridgePortId (.oid port)) := by
  have moved : isDynamic (stored.insert .fdbEntryBridgePortId (.oid port)) = true := by
    rw [Attributes.isDynamic_iff, OrderedMap.get?_insert, if_neg nofun]
    exact dynamic
  have port_eq : bridgePort (stored.insert .fdbEntryBridgePortId (.oid port)) = port := by
    unfold bridgePort Attributes.oid?
    rw [OrderedMap.get?_insert_self]
    rfl
  have forgotten : (switch.learned.erase key).get? key = none :=
    (OrderedMap.get?_erase _ _ _).trans (if_pos rfl)
  unfold moveLearned setAttr forgetLearned
  rw [OrderedMap.modify_of_get? _ there]
  exact (syncLearned_eq_withSeen moved forgotten (switch.learned.insert_erase key)).trans
    (by rw [port_eq])

/-! ## One sighting -/

/-- Of the ids of bridge ports, those of ports that the switch holds are taken. -/
theorem byId?_isNone_iff (typed : port.type? = some .bridgePort) :
    (switch.byId? port).isNone = true ↔ switch.object? (.object port) = none := by
  unfold byId?
  rw [Chassis.ofId_of_typed typed rfl]
  exact Option.isNone_iff_eq_none

/-- An address that is seen on a port of the switch is always taken. -/
theorem Mirrored.sighting_of_learn (mirrored : switch.Mirrored)
    (typed : port.type? = some .bridgePort) {attrs : Attributes}
    (held : switch.object? (.object port) = some attrs) :
    ∃ events next, switch.learn key port now = .ok (events, next) ∧
      switch.Sighting key port now events next := by
  have there : ¬ (switch.byId? port).isNone = true := by
    rw [byId?_isNone_iff typed, held]
    nofun
  unfold Switch.learn
  rw [if_neg there]
  cases entry : switch.object? (.fdb key) with
  | none =>
      dsimp only
      rw [mirrored.addLearned_eq entry]
      exact ⟨_, _, rfl, .first entry⟩
  | some stored =>
      -- What is stored of an entry says its type, so reading it cannot fail.
      obtain ⟨type, given⟩ := ((mirrored key).isEntry entry).typed
      dsimp only
      rw [given]
      cases type with
      | static => exact ⟨_, _, rfl, .ofStatic entry given⟩
      | dynamic =>
          refine ⟨_, _, rfl, ?_⟩
          rw [moveLearned_eq entry given]
          split
          · next same => exact .inPlace entry given (Attributes.oid?_eq_some_iff.mp same)
          · next other =>
              exact .elsewhere entry given fun same => other (Attributes.oid?_eq_some_iff.mpr same)

end Switch

namespace Chassis

variable {chassis : Chassis} {key : FdbKey} {port : ObjectId} {now : UInt64} {switch : Switch}

/-- The switch of an entry is registered and holds a bridge port. -/
structure HoldsPort (chassis : Chassis) (key : FdbKey) (port : ObjectId) (switch : Switch) :
    Prop where
  named : key.switchId.type? = some .switch
  registered : chassis.switches.get? key.switchId.switchIndex = some switch
  typed : port.type? = some .bridgePort
  held : ∃ attrs, switch.object? (.object port) = some attrs

/-- What is learned is learned on a port that the switch of the entry holds. -/
theorem holdsPort_of_learn (accepted : (chassis.learn key port now).answer = .ok ()) :
    ∃ switch, chassis.HoldsPort key port switch := by
  obtain ⟨events, next, attempt⟩ :=
    attempt_of_reported (fun answer : Except Fault Unit => answer = .ok ()) error_ne_ok accepted
  obtain ⟨_, expected, rest⟩ := bind_eq_ok_iff.mp attempt
  obtain ⟨switch, _, found, learned, _⟩ := onSwitch_eq_ok_iff.mp rest
  obtain ⟨named, registered⟩ := Registry.find_eq_ok_iff.mp found
  have typed := (ObjectId.expectType_eq_ok_iff (by decide)).mp expected
  refine ⟨switch, named, registered, typed, ?_⟩
  cases held : switch.object? (.object port) with
  | some attrs => exact ⟨attrs, rfl⟩
  | none =>
      unfold Switch.learn at learned
      rw [if_pos ((Switch.byId?_isNone_iff typed).mpr held)] at learned
      cases learned

/-- What is learned of the switch that holds the port is all that changes. -/
theorem HoldsPort.learn_eq (holds : chassis.HoldsPort key port switch) {events : List FdbEvent}
    {next : Switch} (learned : switch.learn key port now = .ok (events, next)) :
    chassis.learn key port now =
      ⟨.ok (), chassis.put key.switchId next, events.map fun event => .fdbEvents [event]⟩ := by
  have expected := (ObjectId.expectType_eq_ok_iff (by decide)).mpr holds.typed
  have found := Registry.find_eq_ok_iff.mpr ⟨holds.named, holds.registered⟩
  unfold learn
  dsimp only
  rw [expected, ok_bind, onSwitch_eq_ok_iff.mpr ⟨switch, next, found, learned, rfl⟩]
  rfl

variable (settings : Settings) (history : List (UInt64 × Command))

/--
An address that is seen on a port is learned if the port is a bridge port of
the switch of the entry, and only then.  The entry and its record are all that
changes, as the sighting demands, and each event is a notification of its own.
-/
theorem learning_records_sighting (key : FdbKey) (port : ObjectId) (now : UInt64) :
    ((((start settings).run history).learn key port now).answer = .ok () ↔
      ∃ switch, ((start settings).run history).HoldsPort key port switch) ∧
    ∀ {switch}, ((start settings).run history).HoldsPort key port switch →
      ∃ events next, switch.Sighting key port now events next ∧
        ((start settings).run history).learn key port now =
          ⟨.ok (), ((start settings).run history).put key.switchId next,
            events.map fun event => .fdbEvents [event]⟩ := by
  have records {switch : Switch}
      (holds : ((start settings).run history).HoldsPort key port switch) :
      ∃ events next, switch.Sighting key port now events next ∧
        ((start settings).run history).learn key port now =
          ⟨.ok (), ((start settings).run history).put key.switchId next,
            events.map fun event => .fdbEvents [event]⟩ := by
    have mirrored := mirrored_run settings history holds.registered
    obtain ⟨attrs, held⟩ := holds.held
    obtain ⟨events, next, learned, sighting⟩ := mirrored.sighting_of_learn holds.typed held
    exact ⟨events, next, sighting, holds.learn_eq learned⟩
  refine ⟨⟨holdsPort_of_learn, ?_⟩, records⟩
  rintro ⟨switch, holds⟩
  obtain ⟨events, next, _, same⟩ := records holds
  rw [same]

theorem entry_moves_from_null_port :
    ∃ switch events next, ((start .singlePort).run withNullPort).HoldsPort inNone onlyPort switch ∧
      switch.Sighting inNone onlyPort 9 events next ∧
      events =
        [⟨.move, inNone,
          [⟨.fdbEntryType, .s32 0⟩, ⟨.fdbEntryPacketAction, .s32 1⟩,
            ⟨.fdbEntryBridgePortId, .oid onlyPort⟩]⟩] ∧
      ((start .singlePort).run withNullPort).learn inNone onlyPort 9 =
        ⟨.ok (), ((start .singlePort).run withNullPort).put inNone.switchId next,
          events.map fun event => .fdbEvents [event]⟩ := by
  obtain ⟨accepted_iff, records⟩ :=
    learning_records_sighting .singlePort withNullPort inNone onlyPort 9
  have accepted : (((start .singlePort).run withNullPort).learn inNone onlyPort 9).answer =
      .ok () := by
    decide +kernel
  have told : (((start .singlePort).run withNullPort).learn inNone onlyPort 9).notifications.flatMap
      Notification.forwarding =
        [⟨.move, inNone,
          [⟨.fdbEntryType, .s32 0⟩, ⟨.fdbEntryPacketAction, .s32 1⟩,
            ⟨.fdbEntryBridgePortId, .oid onlyPort⟩]⟩] := by
    decide +kernel
  obtain ⟨switch, holds⟩ := accepted_iff.mp accepted
  obtain ⟨events, next, sighting, same⟩ := records holds
  rw [same, forwarding_of_single] at told
  exact ⟨switch, events, next, holds, sighting, told, same⟩

end Chassis

end SwitchAbstraction
