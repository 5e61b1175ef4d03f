import SwitchAbstraction.Proofs.Isolation
import SwitchAbstraction.Proofs.LearnTimes
import SwitchAbstraction.Proofs.Statistics
import SwitchAbstraction.Proofs.TypedStore

/-!
# Entries that age out

When forwarding entries leave a switch, their records and their statistics
leave with them and all the rest stays.  An aging pass takes away exactly the
dynamic entries that have not been seen for the aging time of their switch,
with one report each.  A second pass finds nothing more, unless the clock has
gone on.
-/

namespace SwitchAbstraction

/-- An object is a forwarding entry whose key has a property. -/
def ObjectKey.IsAmong (keys : FdbKey → Prop) : ObjectKey → Prop
  | .fdb key => keys key
  | _ => False

theorem ObjectKey.not_isAmong_object {keys : FdbKey → Prop} (id : ObjectId) :
    ¬ (ObjectKey.object id).IsAmong keys := nofun

namespace Switch

variable {switch middle next : Switch} {gone others : FdbKey → Prop} {key : FdbKey}
  {now earlier : UInt64}

/-! ## What is left of a switch -/

/--
A switch loses some forwarding entries: they are stored no longer, have no
record and no statistics, and nothing else changes.
-/
structure Loses (switch : Switch) (gone : FdbKey → Prop) (next : Switch) : Prop where
  id_eq : next.id = switch.id
  debugCounters_eq : next.debugCounters = switch.debugCounters
  kept : ∀ {object : ObjectKey}, ¬ object.IsAmong gone →
    next.object? object = switch.object? object ∧
      next.counters.get? object = switch.counters.get? object
  records : ∀ {key}, ¬ gone key → next.learned.get? key = switch.learned.get? key
  dropped : ∀ {key}, gone key →
    next.object? (.fdb key) = none ∧ next.counters.get? (.fdb key) = none ∧
      next.learned.get? key = none

theorem loses_nothing (switch : Switch) (stay : ∀ key, ¬ gone key) : switch.Loses gone switch where
  id_eq := rfl
  debugCounters_eq := rfl
  kept _ := ⟨rfl, rfl⟩
  records _ := rfl
  dropped out := absurd out (stay _)

/-- What goes first and what goes then are gone together. -/
theorem Loses.trans (first : switch.Loses gone middle) (second : middle.Loses others next) :
    switch.Loses (fun key => gone key ∨ others key) next where
  id_eq := second.id_eq.trans first.id_eq
  debugCounters_eq := second.debugCounters_eq.trans first.debugCounters_eq
  kept {object} stays := by
    have neither : ¬ object.IsAmong gone ∧ ¬ object.IsAmong others := by
      cases object with
      | fdb key => exact not_or.mp stays
      | object | route | neighbor => exact ⟨nofun, nofun⟩
    obtain ⟨stored, counted⟩ := first.kept neither.1
    obtain ⟨storedThen, countedThen⟩ := second.kept neither.2
    exact ⟨storedThen.trans stored, countedThen.trans counted⟩
  records stays := by
    obtain ⟨before, after⟩ := not_or.mp stays
    exact (second.records after).trans (first.records before)
  dropped {key} out := by
    by_cases last : others key
    · exact second.dropped last
    · obtain ⟨absent, uncounted, unknown⟩ := first.dropped (out.resolve_right last)
      have stays : ¬ (ObjectKey.fdb key).IsAmong others := last
      rw [(second.kept stays).1, (second.kept stays).2, second.records last]
      exact ⟨absent, uncounted, unknown⟩

theorem CountsStored.loses_expire (stored : switch.CountsStored) (key : FdbKey) :
    switch.Loses (fun other => other = key) (switch.expire key) where
  id_eq := expire_id key
  debugCounters_eq := expire_debugCounters key
  kept {object} stays := by
    have other : object ≠ .fdb key := by
      rintro rfl
      exact stays rfl
    rw [object?_expire, stored.counters_expire, if_neg other, if_neg other]
    exact ⟨rfl, rfl⟩
  records stays := by
    rw [learned_expire, if_neg stays]
  dropped own := by
    subst own
    rw [object?_expire, stored.counters_expire, learned_expire]
    simp

theorem CountsStored.loses_expireAll (stored : switch.CountsStored) (keys : List FdbKey) :
    switch.Loses (fun key => key ∈ keys) (switch.expireAll keys).2 := by
  induction keys generalizing switch with
  | nil => exact switch.loses_nothing fun key => List.not_mem_nil
  | cons key rest ih =>
      have first := stored.loses_expire key
      have rest := ih (stored.keeps_expire key).stored
      simp only [List.mem_cons]
      exact first.trans rest

/-! ## Which entries age out -/

/-- The aging time that is stored for a switch, in seconds. -/
def HasAgingTime (switch : Switch) (time : UInt32) : Prop :=
  ∃ attrs, switch.object? (.object switch.id) = some attrs ∧
    attrs.get? .switchFdbAgingTime = some (.u32 time)

/--
A dynamic entry has not been seen for the aging time of its switch.  A clock
that was put back behind the time of the entry counts as no time at all, and an
aging time of zero is never over.
-/
structure IsOverdue (switch : Switch) (now : UInt64) (key : FdbKey) : Prop where
  dynamic : ∃ stored, switch.object? (.fdb key) = some stored ∧ stored.HasEntryType .dynamic
  unseen : ∃ record time, switch.learned.get? key = some record ∧ switch.HasAgingTime time ∧
    0 < time.toNat ∧ time.toNat ≤ now.toNat - record.learnedAt.toNat

theorem agingTime_eq_iff (typed : switch.id.type? = some .switch) {time : UInt32}
    (positive : 0 < time.toNat) : switch.agingTime = time ↔ switch.HasAgingTime time := by
  have named : switch.byId? switch.id = switch.object? (.object switch.id) := by
    unfold byId?
    rw [Chassis.ofId_of_typed typed rfl]
    rfl
  have real : (0 : UInt32) ≠ time := by
    rintro rfl
    cases positive
  unfold agingTime HasAgingTime
  rw [named]
  cases switch.object? (.object switch.id) with
  | none => simp [real]
  | some attrs =>
      unfold Attributes.u32?
      cases bound : attrs.get? .switchFdbAgingTime with
      | none => simp [bound, real]
      | some value => cases value <;> simp [bound, AttrValue.u32?, real]

theorem isExpired_iff (typed : switch.id.type? = some .switch) {record : LearnedEntry} :
    switch.isExpired now record = true ↔
      ∃ time, switch.HasAgingTime time ∧ 0 < time.toNat ∧
        time.toNat ≤ now.toNat - record.learnedAt.toNat := by
  unfold isExpired
  rw [Bool.and_eq_true, decide_eq_true_iff, decide_eq_true_iff]
  constructor
  · rintro ⟨ages, reached⟩
    have positive := Nat.pos_of_ne_zero ages
    exact ⟨switch.agingTime, (agingTime_eq_iff typed positive).mp rfl, positive, reached⟩
  · rintro ⟨time, stored, positive, reached⟩
    rw [(agingTime_eq_iff typed positive).mpr stored]
    exact ⟨positive.ne', reached⟩

theorem get?_expired_eq_some_iff {record : LearnedEntry} :
    (switch.expired now).get? key = some record ↔
      switch.learned.get? key = some record ∧ switch.isExpired now record = true := by
  unfold expired
  rw [OrderedMap.get?_filter, Option.filter_eq_some_iff]

/-- The entries of which the records have expired are those that are overdue. -/
theorem Mirrored.mem_keys_expired_iff (mirrored : switch.Mirrored)
    (typed : switch.id.type? = some .switch) :
    key ∈ (switch.expired now).keys ↔ switch.IsOverdue now key := by
  rw [OrderedMap.mem_keys_iff, Option.isSome_iff_exists]
  constructor
  · rintro ⟨record, expired⟩
    obtain ⟨known, late⟩ := get?_expired_eq_some_iff.mp expired
    obtain ⟨stored, there, dynamic, _⟩ := mirrored.stored_of_record known
    obtain ⟨time, aging, positive, reached⟩ := (isExpired_iff typed).mp late
    have isDynamic := Attributes.isDynamic_iff.mp dynamic
    exact ⟨⟨stored, there, isDynamic⟩, record, time, known, aging, positive, reached⟩
  · rintro ⟨_, record, time, known, reached⟩
    exact ⟨record, get?_expired_eq_some_iff.mpr ⟨known, (isExpired_iff typed).mpr ⟨time, reached⟩⟩⟩

/-- What an aging pass says of an entry that is gone: its key, and the port where it last was. -/
def IsReported (switch : Switch) (now : UInt64) (event : FdbEvent) : Prop :=
  switch.IsOverdue now event.entry ∧
    ∃ stored port, switch.object? (.fdb event.entry) = some stored ∧ stored.IsOnPort port ∧
      event = ⟨.aged, event.entry,
        [⟨.fdbEntryType, .s32 FdbEntryType.dynamic.code⟩, ⟨.fdbEntryBridgePortId, .oid port⟩]⟩

theorem Mirrored.mem_age_iff (mirrored : switch.Mirrored)
    (typed : switch.id.type? = some .switch) {event : FdbEvent} :
    event ∈ (switch.age now).1 ↔ switch.IsReported now event := by
  unfold age
  rw [List.mem_map]
  constructor
  · rintro ⟨⟨key, record⟩, listed, rfl⟩
    have expired := OrderedMap.get?_eq_some_iff.mpr listed
    have overdue := (mirrored.mem_keys_expired_iff typed).mp
      (OrderedMap.mem_keys_iff.mpr (Option.isSome_of_eq_some expired))
    obtain ⟨known, _⟩ := get?_expired_eq_some_iff.mp expired
    obtain ⟨stored, there, _, onPort⟩ := mirrored.stored_of_record known
    exact ⟨overdue, stored, record.bridgePort, there, onPort, rfl⟩
  · rintro ⟨overdue, stored, port, there, onPort, same⟩
    obtain ⟨record, expired⟩ := Option.isSome_iff_exists.mp
      (OrderedMap.mem_keys_iff.mp ((mirrored.mem_keys_expired_iff typed).mpr overdue))
    obtain ⟨known, _⟩ := get?_expired_eq_some_iff.mp expired
    obtain ⟨_, again, _, last⟩ := mirrored.stored_of_record known
    obtain rfl := Option.some.inj (there.symm.trans again)
    have entry := (mirrored _).isEntry there
    obtain rfl : record.bridgePort = port :=
      (entry.isOnPort_iff.mp last).symm.trans (entry.isOnPort_iff.mp onPort)
    exact ⟨(event.entry, record), OrderedMap.get?_eq_some_iff.mp expired, same.symm⟩

theorem Mirrored.loses_age (mirrored : switch.Mirrored) (counts : switch.CountsStored)
    (typed : switch.id.type? = some .switch) :
    switch.Loses (switch.IsOverdue now) (switch.age now).2 := by
  have same : (fun key => key ∈ (switch.expired now).keys) = switch.IsOverdue now :=
    funext fun key => propext (mirrored.mem_keys_expired_iff typed)
  rw [← same]
  exact counts.loses_expireAll _

/-! ## A second pass -/

/-- The entries that an aging pass has left are not overdue, now or at an earlier time. -/
theorem Loses.not_isOverdue (loses : switch.Loses (switch.IsOverdue now) next)
    (notLater : earlier ≤ now) : ¬ next.IsOverdue earlier key := by
  rintro ⟨⟨stored, there, dynamic⟩, record, time, known, ⟨attrs, own, aging⟩, positive, reached⟩
  have stays : ¬ switch.IsOverdue now key := by
    intro gone
    rw [(loses.dropped gone).1] at there
    cases there
  have isEntry : ¬ (ObjectKey.fdb key).IsAmong (switch.IsOverdue now) := stays
  rw [(loses.kept isEntry).1] at there
  rw [(loses.kept (ObjectKey.not_isAmong_object _)).1, loses.id_eq] at own
  rw [loses.records stays] at known
  have before : earlier.toNat ≤ now.toNat := UInt64.le_iff_toNat_le.mp notLater
  refine stays ⟨⟨stored, there, dynamic⟩, record, time, known, ⟨attrs, own, aging⟩, positive, ?_⟩
  omega

/-- A pass over a switch without overdue entries reports nothing and changes nothing. -/
theorem Mirrored.age_eq (mirrored : switch.Mirrored) (typed : switch.id.type? = some .switch)
    (none : ∀ key, ¬ switch.IsOverdue now key) : switch.age now = ([], switch) := by
  have nothing : (switch.expired now).entries = [] := by
    rw [List.eq_nil_iff_forall_not_mem]
    rintro ⟨key, record⟩ listed
    have member : key ∈ (switch.expired now).keys := List.mem_map.mpr ⟨_, listed, rfl⟩
    exact none key ((mirrored.mem_keys_expired_iff typed).mp member)
  unfold age OrderedMap.keys
  rw [nothing]
  rfl

end Switch

/-- Events come in the order of their switches, and those of one switch in the order of keys. -/
def FdbEvent.Precedes (first second : FdbEvent) : Prop :=
  first.entry.switchId.switchIndex < second.entry.switchId.switchIndex ∨
    first.entry.switchId.switchIndex = second.entry.switchId.switchIndex ∧
      Ranked.Before first.entry second.entry

namespace Chassis

variable (settings : Settings) (history : List (UInt64 × Command)) {index : UInt8}
  {switch : Switch} {now : UInt64}

theorem id_type?_run
    (registered : ((start settings).run history).switches.get? index = some switch) :
    switch.id.type? = some .switch := by
  rw [isKept_id.run settings (fun _ _ => trivial) registered]
  exact ObjectId.type?_ofSwitchIndex index

theorem mem_age_run_iff
    (registered : ((start settings).run history).switches.get? index = some switch)
    {event : FdbEvent} : event ∈ (switch.age now).1 ↔ switch.IsReported now event :=
  (mirrored_run settings history registered).mem_age_iff (id_type?_run settings history registered)

theorem loses_age_run
    (registered : ((start settings).run history).switches.get? index = some switch) :
    switch.Loses (switch.IsOverdue now) (switch.age now).2 :=
  (mirrored_run settings history registered).loses_age
    (countsStored_run settings history registered) (id_type?_run settings history registered)

/-- What is reported of a switch is about entries that name it by its index. -/
theorem switchIndex_of_reported
    (registered : ((start settings).run history).switches.get? index = some switch)
    {event : FdbEvent} (reported : switch.IsReported now event) :
    event.entry.switchId.switchIndex = index := by
  obtain ⟨_, stored, _, there, _⟩ := reported
  exact switchIndex_of_stored settings history registered there

/-- What is reported of one switch comes in the order of the keys. -/
theorem pairwise_age_run
    (registered : ((start settings).run history).switches.get? index = some switch) :
    (switch.age now).1.Pairwise FdbEvent.Precedes := by
  have named {event : FdbEvent} (member : event ∈ (switch.age now).1) :
      event.entry.switchId.switchIndex = index :=
    switchIndex_of_reported settings history registered
      ((mem_age_run_iff settings history registered).mp member)
  have ascending : (switch.age now).1.Pairwise fun first second =>
      Ranked.Before first.entry second.entry :=
    List.pairwise_map.mpr (switch.expired now).sorted
  refine ascending.imp_of_mem fun {first second} earlier later before => .inr ⟨?_, before⟩
  rw [named earlier, named later]

/-- A pass reports switch by switch. -/
theorem pairwise_flatMap_age_run :
    (((start settings).run history).switches.values.flatMap fun switch =>
      (switch.age now).1).Pairwise FdbEvent.Precedes := by
  unfold OrderedMap.values
  rw [List.flatMap_map, List.pairwise_flatMap]
  constructor
  · intro entry member
    exact pairwise_age_run settings history (OrderedMap.get?_eq_some_iff.mpr member)
  · have ascending := List.pairwise_map.mp (@sorted_indexes ((start settings).run history))
    refine ascending.imp_of_mem fun {first second} earlier later less event own other theirs => ?_
    have registered := OrderedMap.get?_eq_some_iff.mpr earlier
    have registeredToo := OrderedMap.get?_eq_some_iff.mpr later
    left
    rw [switchIndex_of_reported settings history registered
        ((mem_age_run_iff settings history registered).mp own),
      switchIndex_of_reported settings history registeredToo
        ((mem_age_run_iff settings history registeredToo).mp theirs)]
    exact less

/-- A pass over switches without overdue entries leaves everything as it is. -/
theorem age_run_eq
    (none : ((start settings).run history).Everywhere fun _ switch =>
      ∀ key, ¬ switch.IsOverdue now key) :
    ((start settings).run history).age now = ⟨0, (start settings).run history, []⟩ := by
  have idle {entry : UInt8 × Switch}
      (member : entry ∈ ((start settings).run history).switches.entries) :
      entry.2.age now = ([], entry.2) := by
    have registered := OrderedMap.get?_eq_some_iff.mpr member
    exact (mirrored_run settings history registered).age_eq
      (id_type?_run settings history registered) (none registered)
  have quiet : (((start settings).run history).switches.values.flatMap fun switch =>
      (switch.age now).1) = [] := by
    rw [List.flatMap_eq_nil_iff]
    intro switch member
    obtain ⟨entry, listed, rfl⟩ := List.mem_map.mp member
    rw [idle listed]
  have same : (((start settings).run history).switches.mapValues fun _ switch =>
      (switch.age now).2) = ((start settings).run history).switches := by
    apply OrderedMap.ext_get?
    intro index
    rw [OrderedMap.get?_mapValues]
    cases registered : ((start settings).run history).switches.get? index with
    | none => rfl
    | some switch => rw [Option.map_some, idle (OrderedMap.get?_eq_some_iff.mp registered)]
  unfold age
  rw [quiet, same]
  rfl

/--
An aging pass takes from every switch the dynamic entries that are overdue on
it, and nothing else.  It reports each of them once, by the key and the port
where it last was, switch by switch and key by key, and answers with their
number.  A pass right after it, at the same or at an earlier time, takes nothing
and reports nothing.
-/
theorem aging_takes_overdue_entries (now : UInt64) :
    ∃ (next : Chassis) (events : List FdbEvent),
      ((start settings).run history).age now =
        ⟨events.length, next, events.map fun event => .fdbEvents [event]⟩ ∧
      next = { (start settings).run history with switches := next.switches } ∧
      (∀ index, Option.Rel (fun before after => before.Loses (before.IsOverdue now) after)
        (((start settings).run history).switches.get? index) (next.switches.get? index)) ∧
      (∀ event, event ∈ events ↔
        ∃ index switch, ((start settings).run history).switches.get? index = some switch ∧
          switch.IsReported now event) ∧
      events.Pairwise FdbEvent.Precedes ∧
      ∀ earlier ≤ now, next.age earlier = ⟨0, next, []⟩ := by
  refine ⟨(((start settings).run history).age now).state,
    ((start settings).run history).switches.values.flatMap fun switch => (switch.age now).1,
    rfl, rfl, ?_, ?_, pairwise_flatMap_age_run settings history, ?_⟩
  · intro index
    rw [get?_age]
    cases registered : ((start settings).run history).switches.get? index with
    | none => exact .none
    | some switch => exact .some (loses_age_run settings history registered)
  · intro event
    rw [List.mem_flatMap]
    constructor
    · rintro ⟨switch, member, aged⟩
      obtain ⟨⟨index, _⟩, listed, rfl⟩ := List.mem_map.mp member
      have registered := OrderedMap.get?_eq_some_iff.mpr listed
      exact ⟨index, _, registered, (mem_age_run_iff settings history registered).mp aged⟩
    · rintro ⟨index, switch, registered, reported⟩
      have listed := OrderedMap.get?_eq_some_iff.mp registered
      exact ⟨switch, List.mem_map.mpr ⟨_, listed, rfl⟩,
        (mem_age_run_iff settings history registered).mpr reported⟩
  · intro earlier notLater
    -- The state after the pass is that of a run with one command more.
    have after := @run_concat (start settings) history now .age
    have second := @age_run_eq settings (history ++ [(now, .age)]) earlier
    rw [after] at second
    apply second
    intro index next registered key
    obtain ⟨switch, before, rfl⟩ := Option.map_eq_some_iff.mp
      ((@get?_age ((start settings).run history) now index).symm.trans registered)
    exact (loses_age_run settings history before).not_isOverdue notLater

/--
Two switches, of which only the first lets entries age.  It has an entry that
was seen before the other one, and a static entry.
-/
def twoSightings : List (UInt64 × Command) :=
  [(0, .call (.create .switch .null [⟨.switchFdbAgingTime, .u32 10⟩])),
    (0, .call (.create .switch .null [])),
    (1, .call (.createEntry (.fdb inNone) [⟨.fdbEntryType, .s32 FdbEntryType.static.code⟩])),
    (2, .learn ⟨.ofSwitchIndex 1, .zero, .compose 1 .vlan 9⟩ (.compose 1 .bridgePort 14)),
    (5, .learn inVlan onlyPort),
    (9, .learn ⟨.ofSwitchIndex 0, .zero, .compose 0 .bridge 5⟩ onlyPort)]

theorem first_sighting_ages_out :
    ∃ (next : Chassis) (events : List FdbEvent),
      ((start .singlePort).run twoSightings).age 15 =
        ⟨1, next, events.map fun event => .fdbEvents [event]⟩ ∧
      events =
        [⟨.aged, inVlan, [⟨.fdbEntryType, .s32 0⟩, ⟨.fdbEntryBridgePortId, .oid onlyPort⟩]⟩] ∧
      next.age 15 = ⟨0, next, []⟩ ∧ next.age 3 = ⟨0, next, []⟩ := by
  obtain ⟨next, events, pass, _, _, _, _, again⟩ :=
    aging_takes_overdue_entries .singlePort twoSightings 15
  have answer : (((start .singlePort).run twoSightings).age 15).answer = 1 := by
    decide +kernel
  have told : (((start .singlePort).run twoSightings).age 15).notifications.flatMap
      Notification.forwarding =
        [⟨.aged, inVlan, [⟨.fdbEntryType, .s32 0⟩, ⟨.fdbEntryBridgePortId, .oid onlyPort⟩]⟩] := by
    decide +kernel
  rw [pass, forwarding_of_single] at told
  rw [pass] at answer
  refine ⟨next, events, ?_, told, again 15 (by decide), again 3 (by decide)⟩
  rw [pass]
  exact congrArg (Outcome.mk · next _) answer

end Chassis

end SwitchAbstraction
