import SwitchAbstraction.Proofs.Negotiation
import SwitchAbstraction.Proofs.Statistics

/-!
# Accepted counts

A message may set any statistic of an object that is stored, but a read is given
only the statistics that objects of its type have.  So of the counts that a
message sets those can be read that belong to the type of the object.
-/

namespace SwitchAbstraction

open Results

/-- A list has a last count for each statistic that it counts. -/
theorem exists_lastCount? {counts : List (Stat × UInt64)} {stat : Stat}
    (counted : stat ∈ counts.map Prod.fst) : ∃ count, lastCount? counts stat = some count := by
  obtain ⟨⟨_, count⟩, member, rfl⟩ := List.mem_map.mp counted
  exact OrderedMap.exists_lookup_of_mem (List.mem_reverse.mpr member)

namespace Chassis

variable {settings : Settings} {history : List (UInt64 × Command)} {chassis : Chassis}
  {message : Message} {id : ObjectId} {type : ObjectType} {stats : List Stat} {now : UInt64}

/-- A message that sets statistics is taken where its object is stored, and sets them all. -/
theorem administer_counts (counts : message.op = Admin.statsOp)
    (accepted : (chassis.administer message now).answer = .ok ()) :
    ∃ key switch given, chassis.testMode = true ∧ ObjectKey.parse message.key = .ok key ∧
      message.fields.mapM Admin.statOfField = .ok given ∧
      chassis.switches.find key.switchId = .ok switch ∧ switch.contains key = true ∧
      (chassis.administer message now).state =
        chassis.put key.switchId (switch.setCounters key given) := by
  rw [administer_stats counts] at accepted ⊢
  cases wrote : chassis.writeStats message with
  | error fault =>
      rw [wrote] at accepted
      cases accepted
  | ok pair =>
      obtain ⟨_, testing, rest⟩ := bind_eq_ok_iff.mp wrote
      obtain ⟨key, parsed, rest⟩ := bind_eq_ok_iff.mp rest
      obtain ⟨switch, changed, found, set, same⟩ := onSwitch_eq_ok_iff.mp rest
      obtain ⟨_, there, set⟩ := bind_eq_ok_iff.mp set
      obtain ⟨given, read, set⟩ := bind_eq_ok_iff.mp set
      cases set
      refine ⟨key, switch, given, ?_, parsed, read, found, Switch.require_eq_ok_iff.mp there, same⟩
      unfold requireTestMode at testing
      split at testing
      · assumption
      · cases testing

/-- A statistic that objects of the type do not have cannot be read. -/
theorem readStats_of_foreign (typed : id.type? = some type)
    (addressed : type.isIdAddressed = true) (foreign : ∃ stat ∈ stats, stat.objectType ≠ type)
    (mode : StatsMode) (chassis : Chassis) :
    ∃ stat ∈ stats, stat.objectType ≠ type ∧
      chassis.readStats type id stats mode = .error (.invalid (.foreignStat stat type)) := by
  cases first : stats.find? fun stat => stat.objectType ≠ type with
  | none =>
      obtain ⟨stat, member, other⟩ := foreign
      exact absurd (decide_eq_true other) (List.find?_eq_none.mp first stat member)
  | some stat =>
      have other := List.find?_some first
      refine ⟨stat, List.mem_of_find?_eq_some first, of_decide_eq_true other, ?_⟩
      unfold readStats statsKey
      rw [ObjectKey.ofTypedId_of_typed typed addressed, ok_bind, first]
      rfl

/-- Where counts were set, the last ones are read, if objects of the type have the statistics. -/
theorem readStats_of_setCounters {switch : Switch} {counts : List (Stat × UInt64)}
    (typed : id.type? = some type) (addressed : type.isIdAddressed = true)
    (found : chassis.switches.find (ObjectKey.object id).switchId = .ok switch)
    (there : switch.contains (.object id) = true) (own : ∀ stat ∈ stats, stat.objectType = type)
    (counted : ∀ stat ∈ stats, stat ∈ counts.map Prod.fst) :
    ∃ values next,
      (chassis.put (ObjectKey.object id).switchId
        (switch.setCounters (.object id) counts)).readStats type id stats .read =
        .ok (values, next) ∧
      List.Forall₂ (fun stat value => lastCount? counts stat = some value) stats values := by
  have isSwitch := (Registry.find_eq_ok_iff.mp found).1
  have still : (switch.setCounters (.object id) counts).contains (.object id) = true := by
    rw [Switch.contains_setCounters]
    exact there
  refine ⟨_, _, readStats_of_stored typed addressed (find_put isSwitch) still own, ?_⟩
  rw [List.forall₂_map_right_iff, List.forall₂_same]
  intro stat member
  obtain ⟨count, last⟩ := exists_lastCount? (counted stat member)
  rw [Switch.counter_setCounters, if_pos rfl, last]
  rfl

/--
After any history, when a message that sets statistics of an object with an id
is taken, a read of statistics that the message names, directly after it, gives
for each of them the last count in the message if objects of this type have all
of them, and is refused otherwise.
-/
theorem accepted_counts_are_read (settings : Settings) (history : List (UInt64 × Command))
    {message : Message} {now : UInt64} {id : ObjectId} (counts : message.op = Admin.statsOp)
    (named : ObjectKey.parse message.key = .ok (.object id))
    (accepted : (((start settings).run history).administer message now).answer = .ok ()) :
    ∃ type given, id.type? = some type ∧ message.fields.mapM Admin.statOfField = .ok given ∧
      ∀ later stats, (∀ stat ∈ stats, stat ∈ given.map Prod.fst) →
        ∃ outcome, (((start settings).run history).administer message now).state.perform later
            (.readStats type id stats .read) = outcome ∧
          ((∀ stat ∈ stats, stat.objectType = type) →
            ∃ values, outcome.answer.result = .ok (.counted values) ∧
              List.Forall₂ (fun stat value => lastCount? given stat = some value) stats values) ∧
          ((∃ stat ∈ stats, stat.objectType ≠ type) →
            ∃ stat ∈ stats, stat.objectType ≠ type ∧
              outcome.answer.result = .error (.invalid (.foreignStat stat type))) := by
  obtain ⟨key, switch, given, _, parsed, read, found, there, state⟩ :=
    administer_counts counts accepted
  cases named.symm.trans parsed
  obtain ⟨attrs, stored⟩ := Switch.contains_iff.mp there
  have typed : switch.IsTyped := Switch.isKept_isTyped.run settings (fun _ _ => trivial)
    (Registry.find_eq_ok_iff.mp found).2
  obtain ⟨isType, addressed⟩ := (typed _ attrs stored).1.type_eq rfl
  refine ⟨_, given, isType, read, fun later stats counted => ⟨_, rfl, ?_, ?_⟩⟩
  · intro own
    obtain ⟨values, next, reads, last⟩ :=
      readStats_of_setCounters isType addressed found there own counted
    refine ⟨values, ?_, last⟩
    change (settled _ _ (answerOf .counted)).answer.result = _
    rw [state, reads]
    rfl
  · intro foreign
    obtain ⟨stat, member, other, refused⟩ := readStats_of_foreign isType addressed foreign .read
      (((start settings).run history).administer message now).state
    refine ⟨stat, member, other, ?_⟩
    change (settled _ _ (answerOf .counted)).answer.result = _
    rw [refused]
    rfl

/-- A switch with one port is created, and test mode is put on. -/
def testedSwitch : List (UInt64 × Command) :=
  [(0, .call (.create .switch .null [])), (1, .administer ⟨Admin.testModeOp, "true", []⟩)]

/-- The octets of the port read as what the message gave them last. -/
theorem accepted_octets_are_read :
    ∃ outcome, (((start .singlePort).run testedSwitch).administer octetsMessage 2).answer =
        .ok () ∧
      (((start .singlePort).run testedSwitch).administer octetsMessage 2).state.perform 3
        (.readStats .port (.compose 0 .port 3) [.portIfInOctets] .read) = outcome ∧
      outcome.answer.result = .ok (.counted [7]) := by
  have named : ObjectKey.parse octetsMessage.key = .ok (.object (.compose 0 .port 3)) := by
    decide +kernel
  have accepted : (((start .singlePort).run testedSwitch).administer octetsMessage 2).answer =
      .ok () := by
    decide +kernel
  obtain ⟨type, given, typed, read, reads⟩ :=
    accepted_counts_are_read .singlePort testedSwitch rfl named accepted
  have counts : octetsMessage.fields.mapM Admin.statOfField =
      .ok [(.portIfInOctets, 9), (.portIfInOctets, 7)] := by
    decide +kernel
  cases counts.symm.trans read
  obtain rfl : type = .port := Option.some.inj (typed.symm.trans (by decide))
  obtain ⟨outcome, made, ofOwn, _⟩ := reads 3 [.portIfInOctets] (by decide)
  obtain ⟨values, result, last⟩ := ofOwn (by decide)
  refine ⟨outcome, accepted, made, ?_⟩
  cases last with
  | cons first rest =>
      cases first
      cases rest
      exact result

/-- A message that sets the packets of a queue for the front panel port of the first switch. -/
def foreignMessage : Message :=
  ⟨Admin.statsOp, (ObjectKey.object (.compose 0 .port 3)).text, [(Stat.queuePackets.name, "7")]⟩

/-- The packets are taken for the port, but cannot be read. -/
theorem accepted_packets_are_not_read :
    (((start .singlePort).run testedSwitch).administer foreignMessage 2).answer = .ok () ∧
      ObjectKey.parse foreignMessage.key = .ok (.object (.compose 0 .port 3)) ∧
      foreignMessage.fields.mapM Admin.statOfField = .ok [(.queuePackets, 7)] ∧
      ((((start .singlePort).run testedSwitch).administer foreignMessage 2).state.perform 3
        (.readStats .port (.compose 0 .port 3) [.queuePackets] .read)).answer.result =
        .error (.invalid (.foreignStat .queuePackets .port)) := by
  refine ⟨?_, ?_, ?_, ?_⟩ <;> decide +kernel

end Chassis

end SwitchAbstraction
