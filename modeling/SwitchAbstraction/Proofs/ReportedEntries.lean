import SwitchAbstraction.Proofs.Sightings

/-!
# What is reported of entries that were seen

The event of a sighting calls its entry dynamic, forwarded and on its port.
An entry that is seen for the first time is stored as just that.  An entry that
moves keeps the packet action that it had, if it had one, so its event is true
of what is stored only if the entry was forwarded before.
-/

namespace SwitchAbstraction

/-- All that an event says of its entry is stored, with exactly the values that it gives. -/
def FdbEvent.IsTrueOf (event : FdbEvent) (stored : Attributes) : Prop :=
  ∀ attr ∈ event.attrs, stored.get? attr.id = some attr.value

/-- A stored entry is forwarded. -/
def Attributes.IsForwarded (stored : Attributes) : Prop :=
  stored.get? .fdbEntryPacketAction = some (.s32 PacketAction.forward.code)

namespace FdbEvent

variable {type : FdbEventType} {key : FdbKey} {port : ObjectId} {stored : Attributes}

theorem isTrueOf_ofLearning_iff :
    (ofLearning type key port).IsTrueOf stored ↔
      stored.HasEntryType .dynamic ∧ stored.IsForwarded ∧
        stored.get? .fdbEntryBridgePortId = some (.oid port) := by
  unfold IsTrueOf ofLearning
  rw [List.forall_mem_cons, List.forall_mem_cons, List.forall_mem_singleton]
  rfl

/-- An event of learning is true of an entry on its port, but perhaps for the packet action. -/
theorem stored_of_mem_ofLearning (dynamic : stored.HasEntryType .dynamic)
    (onPort : stored.get? .fdbEntryBridgePortId = some (.oid port)) {attr : Attribute}
    (told : attr ∈ (ofLearning type key port).attrs) (other : attr.id ≠ .fdbEntryPacketAction) :
    stored.get? attr.id = some attr.value := by
  simp only [ofLearning, List.mem_cons, List.not_mem_nil, or_false] at told
  rcases told with rfl | rfl | rfl
  · exact dynamic
  · exact absurd rfl other
  · exact onPort

end FdbEvent

namespace Switch

variable {switch next : Switch} {key : FdbKey} {port : ObjectId} {now : UInt64}
  {events : List FdbEvent} {event : FdbEvent}

theorem object?_withSeen (entry : Attributes) :
    (switch.withSeen key port now entry).object? (.fdb key) = some entry :=
  OrderedMap.get?_insert_self _ _ _

/-- Moving an entry changes its port and nothing else. -/
theorem moved_entry {stored : Attributes} (dynamic : stored.HasEntryType .dynamic) :
    Attributes.HasEntryType (stored.insert .fdbEntryBridgePortId (.oid port)) .dynamic ∧
      OrderedMap.get? (stored.insert .fdbEntryBridgePortId (.oid port)) .fdbEntryBridgePortId =
        some (.oid port) ∧
      (Attributes.IsForwarded (stored.insert .fdbEntryBridgePortId (.oid port)) ↔
        stored.IsForwarded) := by
  unfold Attributes.HasEntryType Attributes.IsForwarded
  rw [OrderedMap.get?_insert, OrderedMap.get?_insert, OrderedMap.get?_insert, if_neg nofun,
    if_pos rfl, if_neg nofun]
  exact ⟨dynamic, rfl, Iff.rfl⟩

/--
What a sighting reports of its entry is stored, but perhaps for the packet
action.  That one is stored too exactly if the entry is new or was forwarded.
-/
theorem Sighting.isTrueOf_iff (sighting : switch.Sighting key port now events next)
    (told : event ∈ events) :
    event.entry = key ∧ ∃ after, next.object? (.fdb key) = some after ∧
      (∀ attr ∈ event.attrs, attr.id ≠ .fdbEntryPacketAction →
        after.get? attr.id = some attr.value) ∧
      (event.IsTrueOf after ↔
        ∀ before, switch.object? (.fdb key) = some before → before.IsForwarded) := by
  cases sighting with
  | first absent =>
      obtain rfl := List.mem_singleton.mp told
      have whole : (FdbEvent.ofLearning .learned key port).IsTrueOf (learnedAttributes port) :=
        FdbEvent.isTrueOf_ofLearning_iff.mpr ⟨rfl, rfl, rfl⟩
      refine ⟨rfl, _, object?_withSeen _, fun attr listed _ => whole attr listed, ?_⟩
      rw [absent]
      exact ⟨nofun, fun _ => whole⟩
  | ofStatic => cases told
  | inPlace => cases told
  | elsewhere there dynamic other =>
      obtain rfl := List.mem_singleton.mp told
      obtain ⟨still, onPort, forwarded⟩ := @moved_entry port _ dynamic
      refine ⟨rfl, _, object?_withSeen _,
        fun attr => FdbEvent.stored_of_mem_ofLearning still onPort,
        FdbEvent.isTrueOf_ofLearning_iff.trans ?_⟩
      rw [forwarded, there]
      constructor
      · rintro ⟨_, before, _⟩ _ same
        exact Option.some.inj same ▸ before
      · intro before
        exact ⟨still, before _ rfl, onPort⟩

end Switch

namespace Chassis

/-- Of a sighting that is refused nothing is told. -/
theorem accepted_of_told {chassis : Chassis} {key : FdbKey} {port : ObjectId} {now : UInt64}
    {notification : Notification}
    (told : notification ∈ (chassis.learn key port now).notifications) :
    (chassis.learn key port now).answer = .ok () := by
  cases answer : (chassis.learn key port now).answer with
  | ok _ => rfl
  | error fault =>
      have unchanged : chassis.Unchanged (chassis.learn key port now) :=
        reported_unchanged (fun answer : Except Fault Unit => answer = .error fault)
          (ok_ne_error fault ()) answer
      rw [unchanged.notifications_eq] at told
      cases told

variable (settings : Settings) (history : List (UInt64 × Command))

/--
Every notification of a sighting is one event about the entry that was seen,
and the type and the port that it gives are stored after it.  All that it says
is stored exactly if the entry was not there before or was forwarded.
-/
theorem sightings_report_forwarded_entries {key : FdbKey} {port : ObjectId} {now : UInt64}
    {notification : Notification}
    (told : notification ∈
      (((start settings).run history).learn key port now).notifications) :
    ∃ event after, notification = .fdbEvents [event] ∧ event.entry = key ∧
      (((start settings).run history).learn key port now).state.objectAt?
        key.switchId.switchIndex (.fdb key) = some after ∧
      (∀ attr ∈ event.attrs, attr.id ≠ .fdbEntryPacketAction →
        after.get? attr.id = some attr.value) ∧
      (event.IsTrueOf after ↔
        ∀ before, ((start settings).run history).objectAt? key.switchId.switchIndex (.fdb key) =
          some before → before.IsForwarded) := by
  obtain ⟨switch, holds⟩ := holdsPort_of_learn (accepted_of_told told)
  obtain ⟨_, held⟩ := holds.held
  obtain ⟨events, next, learned, sighting⟩ :=
    (mirrored_run settings history holds.registered).sighting_of_learn holds.typed held
  rw [holds.learn_eq learned] at told ⊢
  obtain ⟨event, reported, rfl⟩ := List.mem_map.mp told
  obtain ⟨own, after, stored, others, whole⟩ := sighting.isTrueOf_iff reported
  refine ⟨event, after, rfl, own, ?_, others, ?_⟩
  · rw [objectAt?_of_get? ((get?_put _).trans (if_pos rfl))]
    exact stored
  · rw [objectAt?_of_get? holds.registered]
    exact whole

/-- An entry whose packets are dropped is created on no port. -/
def withDropped : List (UInt64 × Command) :=
  [(0, .call (.create .switch .null [])),
    (7, .call (.createEntry (.fdb inNone)
      [⟨.fdbEntryType, .s32 FdbEntryType.dynamic.code⟩,
        ⟨.fdbEntryPacketAction, .s32 PacketAction.drop.code⟩]))]

theorem first_sighting_is_true :
    ∃ (event : FdbEvent) (after : Attributes),
      (((start .singlePort).run withDropped).learn inVlan onlyPort 9).state.objectAt? 0
        (.fdb inVlan) = some after ∧
      event.IsTrueOf after := by
  have told : .fdbEvents [.ofLearning .learned inVlan onlyPort] ∈
      (((start .singlePort).run withDropped).learn inVlan onlyPort 9).notifications := by
    decide +kernel
  have absent : ((start .singlePort).run withDropped).objectAt? 0 (.fdb inVlan) = none := by
    decide +kernel
  obtain ⟨event, after, _, _, stored, _, whole⟩ :=
    sightings_report_forwarded_entries .singlePort withDropped told
  refine ⟨event, after, stored, whole.mpr fun before there => ?_⟩
  exact absurd (absent.symm.trans there) nofun

/-- What is reported of the entry when it is seen on the only port. -/
def forwardedMove : FdbEvent :=
  ⟨.move, inNone,
    [⟨.fdbEntryType, .s32 FdbEntryType.dynamic.code⟩,
      ⟨.fdbEntryPacketAction, .s32 PacketAction.forward.code⟩,
      ⟨.fdbEntryBridgePortId, .oid onlyPort⟩]⟩

/-- An entry that moves is reported as forwarded while its packets are dropped. -/
theorem dropped_entry_is_reported_forwarded :
    ∃ after, (((start .singlePort).run withDropped).learn inNone onlyPort 9).notifications =
        [.fdbEvents [forwardedMove]] ∧
      (((start .singlePort).run withDropped).learn inNone onlyPort 9).state.objectAt? 0
        (.fdb inNone) = some after ∧
      after.get? .fdbEntryPacketAction = some (.s32 PacketAction.drop.code) ∧
      ¬ forwardedMove.IsTrueOf after := by
  have stored : ((((start .singlePort).run withDropped).learn inNone onlyPort 9).state.objectAt? 0
      (.fdb inNone)).map (fun after => after.get? .fdbEntryPacketAction) =
        some (some (.s32 PacketAction.drop.code)) := by
    decide +kernel
  obtain ⟨after, there, dropped⟩ := Option.map_eq_some_iff.mp stored
  refine ⟨after, by decide +kernel, there, dropped, fun whole => ?_⟩
  obtain ⟨_, forwarded, _⟩ := FdbEvent.isTrueOf_ofLearning_iff.mp whole
  have same : PacketAction.drop.code = PacketAction.forward.code :=
    AttrValue.s32.inj (Option.some.inj (dropped.symm.trans forwarded))
  exact absurd same (by decide)

end Chassis

end SwitchAbstraction
