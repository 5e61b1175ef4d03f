import SwitchAbstraction.Proofs.DebugCounters

/-!
# Messages that write past the rules

In test mode a message may write every attribute, the index of a debug counter
among them, and the pool of indexes is not told.  A message that gives a debug
counter another index than it holds puts pool and counters at odds.  Every
other message leaves them agreed.
-/

namespace SwitchAbstraction

open Results

/-! ## Attributes written one after another -/

/-- Of attributes in reverse, those behind the first one come before it. -/
theorem Attribute.find?_reverse_cons (attr : Attribute) (rest : List Attribute) (id : AttrId) :
    find? (attr :: rest).reverse id =
      (find? rest.reverse id).or (if attr.id = id then some attr.value else none) := by
  unfold find?
  rw [List.reverse_cons, List.find?_append, Option.map_or]
  congr 1
  by_cases own : attr.id = id
  · simp [own]
  · simp [own]

/-- The attributes after the values of others are stored, one after another. -/
def Attributes.overwrite (attrs : Attributes) (written : List Attribute) : Attributes :=
  written.foldl (fun attrs attr => attrs.insert attr.id attr.value.normalized) attrs

namespace Switch

variable {switch : Switch} {key : ObjectKey} {attrs : List Attribute} {now : UInt64}

/-- Stores the values of attributes, one after another. -/
def writeAll (switch : Switch) (key : ObjectKey) (now : UInt64) (attrs : List Attribute) :
    Switch :=
  attrs.foldl (fun written attr => written.write key attr now) switch

theorem writeAll_debugCounters :
    (switch.writeAll key now attrs).debugCounters = switch.debugCounters := by
  unfold writeAll
  induction attrs generalizing switch with
  | nil => rfl
  | cons attr rest ih => exact ih.trans (write_debugCounters attr)

theorem object?_writeAll (other : ObjectKey) :
    (switch.writeAll key now attrs).object? other =
      if other = key then (switch.object? other).map (·.overwrite attrs)
      else switch.object? other := by
  unfold writeAll
  induction attrs generalizing switch with
  | nil =>
      split
      · exact Option.map_id'.symm
      · rfl
  | cons attr rest ih =>
      rw [List.foldl_cons, ih, object?_write]
      by_cases own : other = key
      · rw [if_pos own, if_pos own, if_pos own, Option.map_map]
        rfl
      · rw [if_neg own, if_neg own, if_neg own]

/-- Of the values that are written for the index of an object, the last one stays. -/
theorem indexSlot?_writeAll (other : ObjectKey) :
    (switch.writeAll key now attrs).indexSlot? other =
      if other = key then
        (switch.indexSlot? other).map fun slot =>
          ((Attribute.find? attrs.reverse .debugCounterIndex).map AttrValue.normalized).or slot
      else switch.indexSlot? other := by
  unfold writeAll
  induction attrs generalizing switch with
  | nil =>
      split
      · exact Option.map_id'.symm
      · rfl
  | cons attr rest ih =>
      rw [List.foldl_cons, ih, indexSlot?_write, Attribute.find?_reverse_cons]
      by_cases own : other = key
      · by_cases indexing : attr.id = .debugCounterIndex
        · cases Attribute.find? rest.reverse .debugCounterIndex <;>
            simp [own, indexing, Function.comp_def]
        · simp [own, indexing]
      · simp [own]

/-- Writing to a debug counter keeps pool and counters agreed if its index stays what it was. -/
theorem PoolAgrees.writeAll (agrees : switch.PoolAgrees)
    (kept : ∀ value, key.type = .debugCounter →
      Attribute.find? attrs.reverse .debugCounterIndex = some value →
      switch.indexSlot? key = some (some value.normalized)) :
    (switch.writeAll key now attrs).PoolAgrees := by
  refine agrees.congr writeAll_debugCounters fun other counter => ?_
  rw [indexSlot?_writeAll]
  split
  · next own =>
      subst own
      cases last : Attribute.find? attrs.reverse .debugCounterIndex with
      | none => exact Option.map_id'
      | some value =>
          rw [kept value counter last]
          rfl
  · rfl

/-- An index that is written over another one leaves an index in use that no counter holds. -/
theorem PoolAgrees.not_writeAll (agrees : switch.PoolAgrees) (counter : key.type = .debugCounter)
    (stored : switch.contains key = true) {value : AttrValue}
    (last : Attribute.find? attrs.reverse .debugCounterIndex = some value)
    (other : switch.indexSlot? key ≠ some (some value.normalized)) :
    ¬ (switch.writeAll key now attrs).PoolAgrees := by
  intro still
  obtain ⟨attrs, there⟩ := contains_iff.mp stored
  have slot : switch.indexSlot? key = some (attrs.get? .debugCounterIndex) := by
    unfold indexSlot?
    rw [there]
    rfl
  obtain ⟨index, same, _⟩ := agrees.indexed counter slot
  rw [same] at slot
  have used : index ∈ switch.debugCounters.used.keys :=
    agrees.used_iff.mpr ⟨key, counter, slot⟩
  rw [← @writeAll_debugCounters switch key _ now] at used
  obtain ⟨holder, isCounter, held⟩ := still.used_iff.mp used
  rw [indexSlot?_writeAll] at held
  split at held
  · next own =>
      subst own
      rw [slot, last] at held
      apply other
      rw [slot]
      exact held.symm
  · next different =>
      exact different (agrees.distinct ⟨isCounter, held⟩ ⟨counter, slot⟩)

/-- A debug counter that is removed frees the index that it held, and no other one. -/
theorem PoolAgrees.used_removeObject (agrees : switch.PoolAgrees) {next : Switch}
    (removed : switch.removeObject key = .ok ((), next)) (index : UInt32) :
    index ∈ next.debugCounters.used.keys ↔
      index ∈ switch.debugCounters.used.keys ∧ ¬ switch.Holds key index := by
  have after := agrees.removeObject removed
  have holds {other : ObjectKey} : next.Holds other index ↔
      other ≠ key ∧ switch.Holds other index := by
    unfold Holds indexSlot?
    rw [object?_removeObject removed]
    by_cases own : other = key
    · simp [own]
    · simp [own]
  rw [after.used_iff, agrees.used_iff]
  constructor
  · rintro ⟨other, still⟩
    obtain ⟨different, held⟩ := holds.mp still
    exact ⟨⟨other, held⟩, fun own => different (agrees.distinct held own)⟩
  · rintro ⟨⟨other, held⟩, free⟩
    refine ⟨other, holds.mpr ⟨?_, held⟩⟩
    rintro rfl
    exact free held

end Switch

namespace Chassis

variable {chassis : Chassis} {message : Message} {now : UInt64}

theorem find_put {id : ObjectId} {switch : Switch} (typed : id.type? = some .switch) :
    (chassis.put id switch).switches.find id = .ok switch :=
  Registry.find_eq_ok_iff.mpr ⟨typed, (get?_put _).trans (if_pos rfl)⟩

theorem put_put (id : ObjectId) (first second : Switch) :
    (chassis.put id first).put id second = chassis.put id second := by
  have same : (chassis.switches.insert id.switchIndex first).insert id.switchIndex second =
      chassis.switches.insert id.switchIndex second := by
    apply OrderedMap.ext_get?
    intro index
    rw [OrderedMap.get?_insert, OrderedMap.get?_insert, OrderedMap.get?_insert]
    split <;> rfl
  unfold put
  rw [same]

/-- Attributes that can all be written are written to the one switch of their object. -/
theorem writeEach_state {key : ObjectKey} {attrs : List Attribute} {switch : Switch}
    (found : chassis.switches.find key.switchId = .ok switch)
    (passed : ∀ attr ∈ attrs, chassis.checkWrite true key attr = .ok ()) :
    (chassis.writeEach key now attrs).state =
      chassis.put key.switchId (switch.writeAll key now attrs) := by
  obtain ⟨typed, registered⟩ := Registry.find_eq_ok_iff.mp found
  induction attrs generalizing chassis switch with
  | nil => exact (put_of_get? registered).symm
  | cons attr rest ih =>
      obtain ⟨own, others⟩ := List.forall_mem_cons.mp passed
      have first : chassis.setOn true key attr now = .ok ((), chassis.write key attr now) :=
        bind_eq_ok_iff.mpr ⟨(), own, rfl⟩
      have written : chassis.write key attr now =
          chassis.put key.switchId (switch.write key attr now) := write_eq_put found
      have later : ((chassis.write key attr now).writeEach key now rest).state =
          (chassis.write key attr now).put key.switchId
            ((switch.write key attr now).writeAll key now rest) := by
        have refound : (chassis.write key attr now).switches.find key.switchId =
            .ok (switch.write key attr now) := by
          rw [written]
          exact find_put typed
        refine ih refound (fun other member => checkWrite_write attr (others other member)) ?_
        exact (Registry.find_eq_ok_iff.mp refound).2
      unfold writeEach writeAny
      rw [first]
      refine later.trans ?_
      rw [written, put_put]
      rfl

/--
A message that is taken and writes over the index that a debug counter holds:
the last value that it gives for the index is another one.
-/
inductive Reindexes (chassis : Chassis) (message : Message) : Prop where
  | write {key : ObjectKey} {attrs : List Attribute} {switch : Switch} {value : AttrValue}
      (writes : message.op = Admin.writeOp) (taken : chassis.checkWrites message = .ok (key, attrs))
      (found : chassis.switches.find key.switchId = .ok switch) (counter : key.type = .debugCounter)
      (last : Attribute.find? attrs.reverse .debugCounterIndex = some value)
      (other : switch.indexSlot? key ≠ some (some value.normalized))

theorem administer_write (writes : message.op = Admin.writeOp) :
    chassis.administer message now = chassis.writeAll message now := by
  unfold administer
  rw [if_neg (by rw [writes]; decide), if_pos writes]

theorem administer_stats (counts : message.op = Admin.statsOp) :
    chassis.administer message now =
      chassis.settled (chassis.writeStats message) fun result => result := by
  unfold administer
  rw [if_neg (by rw [counts]; decide), if_neg (by rw [counts]; decide), if_pos counts]

theorem administer_of_taken {key : ObjectKey} {attrs : List Attribute}
    (writes : message.op = Admin.writeOp) (taken : chassis.checkWrites message = .ok (key, attrs)) :
    chassis.administer message now = chassis.writeEach key now attrs := by
  rw [administer_write writes]
  unfold writeAll
  rw [taken]

theorem administer_of_refused {fault : Fault} (writes : message.op = Admin.writeOp)
    (refused : chassis.checkWrites message = .error fault) :
    chassis.administer message now = ⟨.error fault, chassis, []⟩ := by
  rw [administer_write writes]
  unfold writeAll
  rw [refused]

theorem checkWrites_outside_test (outside : chassis.testMode = false) :
    chassis.checkWrites message = .error (.failed (.testModeRequired Admin.writeOp)) := by
  unfold checkWrites requireTestMode
  rw [outside]
  rfl

/-- The switch of an object that can be written is found, and holds the object. -/
theorem find_of_checkWrite {key : ObjectKey} {attr : Attribute} {readOnly : Bool}
    (passed : chassis.checkWrite readOnly key attr = .ok ()) :
    ∃ switch, chassis.switches.find key.switchId = .ok switch ∧ switch.contains key = true := by
  obtain ⟨_, _, switch, found, there⟩ := checkWrite_eq_ok_iff.mp passed
  exact ⟨switch, found, there⟩

/-- A message that writes over no index keeps the pools and the debug counters agreed. -/
theorem everywhere_administer (agreed : chassis.Everywhere fun _ switch => switch.PoolAgrees)
    (harmless : ¬ chassis.Reindexes message) :
    (chassis.administer message now).state.Everywhere fun _ switch => switch.PoolAgrees := by
  by_cases writes : message.op = Admin.writeOp
  · cases taken : chassis.checkWrites message with
    | error fault =>
        rw [administer_of_refused writes taken]
        exact agreed
    | ok pair =>
        obtain ⟨key, attrs⟩ := pair
        rw [administer_of_taken writes taken]
        cases attrs with
        | nil => exact agreed
        | cons attr rest =>
            have passed := checkWrite_of_checkWrites taken
            obtain ⟨switch, found, _⟩ := find_of_checkWrite (passed attr List.mem_cons_self)
            obtain ⟨_, registered⟩ := Registry.find_eq_ok_iff.mp found
            rw [writeEach_state found passed]
            refine agreed.put ((agreed registered).writeAll fun value counter last => ?_)
            by_contra other
            exact harmless (.write writes taken found counter last other)
  · have ordinary : ∀ entry ∈ [(now, Command.administer message)],
        entry.2.overrides = false := by
      intro entry member
      rw [List.mem_singleton.mp member]
      exact decide_eq_false writes
    exact Switch.isKept_poolAgrees.runFrom agreed ordinary

/-- A message that writes over an index puts pool and debug counters at odds. -/
theorem Reindexes.disagrees (reindexes : chassis.Reindexes message)
    (agreed : chassis.Everywhere fun _ switch => switch.PoolAgrees) :
    ∃ index switch, (chassis.administer message now).state.switches.get? index = some switch ∧
      ¬ switch.PoolAgrees := by
  cases reindexes with
  | @write key attrs switch value writes taken found counter last other =>
      have passed := checkWrite_of_checkWrites taken
      have stored : switch.contains key = true := by
        cases attrs with
        | nil => cases last
        | cons attr rest =>
            obtain ⟨same, refound, there⟩ := find_of_checkWrite (passed attr List.mem_cons_self)
            rw [found] at refound
            cases refound
            exact there
      obtain ⟨_, registered⟩ := Registry.find_eq_ok_iff.mp found
      refine ⟨key.switchId.switchIndex, switch.writeAll key now attrs, ?_,
        (agreed registered).not_writeAll counter stored last other⟩
      rw [administer_of_taken writes taken, writeEach_state found passed]
      exact (get?_put _).trans (if_pos rfl)

/--
Where pools and debug counters agree, they agree after every message that does
not write another index over the one that a debug counter holds.  They go on to
agree as long as no message writes past the rules, so a debug counter that is
removed frees the index that it held, which no other one holds, and nothing else.
-/
theorem admin_messages_keep_pool
    (agreed : ∀ {index switch}, chassis.switches.get? index = some switch → switch.PoolAgrees)
    (harmless : ¬ chassis.Reindexes message) (now : UInt64) :
    (∀ {index switch}, (chassis.administer message now).state.switches.get? index = some switch →
      switch.PoolAgrees) ∧
    ∀ later : List (UInt64 × Command), (∀ entry ∈ later, entry.2.overrides = false) →
      let reached := (chassis.administer message now).state.run later
      (∀ {index switch}, reached.switches.get? index = some switch → switch.PoolAgrees) ∧
      ∀ {id next}, reached.remove .debugCounter id = .ok ((), next) →
        ∃ before after, reached.switches.get? id.switchIndex = some before ∧
          next.switches.get? id.switchIndex = some after ∧
          ∀ index, index ∈ after.debugCounters.used.keys ↔
            index ∈ before.debugCounters.used.keys ∧ ¬ before.Holds (.object id) index := by
  have kept : (chassis.administer message now).state.Everywhere fun _ switch =>
      switch.PoolAgrees :=
    everywhere_administer agreed harmless
  refine ⟨kept, ?_⟩
  intro later ordinary reached
  have still : reached.Everywhere fun _ switch => switch.PoolAgrees :=
    Switch.isKept_poolAgrees.runFrom kept ordinary
  refine ⟨still, ?_⟩
  intro id next done
  rcases remove_eq_ok done with ⟨impossible, _⟩ | ⟨_, _, before, after, found, removed, rfl⟩
  · cases impossible
  · have registered := registered_of_find found
    refine ⟨before, after, registered, ?_, (still registered).used_removeObject removed⟩
    refine (get?_put _).trans (if_pos ?_)
    unfold ObjectId.switchId
    rw [ObjectId.switchIndex_ofSwitchIndex]

/-- A switch with two debug counters, in test mode. -/
def twoCounters : List (UInt64 × Command) :=
  [(0, .call (.create .switch .null [])),
    (1, .call (.create .debugCounter (.ofSwitchIndex 0) [])),
    (2, .call (.create .debugCounter (.ofSwitchIndex 0) [])),
    (3, .administer ⟨Admin.testModeOp, "true", []⟩)]

theorem everywhere_twoCounters :
    ((start .singlePort).run twoCounters).Everywhere fun _ switch => switch.PoolAgrees :=
  Switch.isKept_poolAgrees.run .singlePort (by decide)

/-- A message that writes attributes of the object with a key. -/
def writing (key : ObjectKey) (attrs : List Attribute) : Message :=
  ⟨Admin.writeOp, key.text, Attribute.toFields attrs⟩

/-- In test mode a message is taken if all attributes in it can be written. -/
theorem checkWrites_writing {key : ObjectKey} {attrs : List Attribute}
    (inTest : chassis.testMode = true) (wellFormed : key.IsWellFormed)
    (passed : ∀ attr ∈ attrs, chassis.checkWrite true key attr = .ok ()) :
    chassis.checkWrites (writing key attrs) = .ok (key, attrs) := by
  have allowed : chassis.requireTestMode Admin.writeOp = .ok () := if_pos inTest
  refine bind_eq_ok_iff.mpr ⟨(), allowed, ?_⟩
  refine bind_eq_ok_iff.mpr ⟨key, ObjectKey.parse_text wellFormed, ?_⟩
  refine bind_eq_ok_iff.mpr ⟨attrs, Attribute.ofFields_toFields attrs, ?_⟩
  exact bind_eq_ok_iff.mpr ⟨(), forM_of_forall passed, rfl⟩

/-- The key of the first of the two debug counters. -/
def firstCounter : ObjectKey :=
  .object (.compose 0 .debugCounter 9)

theorem checkWrites_firstCounter (index : UInt32) :
    ((start .singlePort).run twoCounters).checkWrites
        (writing firstCounter [⟨.debugCounterIndex, .u32 index⟩]) =
      .ok (firstCounter, [⟨.debugCounterIndex, .u32 index⟩]) := by
  have there : (((start .singlePort).run twoCounters).switches.get? 0).map
      (fun switch => switch.contains firstCounter) = some true := by
    decide +kernel
  obtain ⟨switch, registered, stored⟩ := Option.map_eq_some_iff.mp there
  refine checkWrites_writing (by decide +kernel) ⟨.debugCounter, by decide, by decide⟩ ?_
  intro attr member
  rw [List.mem_singleton.mp member]
  have found : ((start .singlePort).run twoCounters).switches.find firstCounter.switchId =
      .ok switch :=
    Registry.find_eq_ok_iff.mpr ⟨by decide, registered⟩
  refine checkWrite_eq_ok_iff.mpr ⟨rfl, ?_, switch, found, stored⟩
  intro impossible
  cases impossible

theorem firstCounter_holds_first :
    ∃ switch, ((start .singlePort).run twoCounters).switches.find firstCounter.switchId =
        .ok switch ∧ switch.indexSlot? firstCounter = some (some (.u32 0)) := by
  have slot : (((start .singlePort).run twoCounters).switches.get? 0).map
      (fun switch => switch.indexSlot? firstCounter) = some (some (some (.u32 0))) := by
    decide +kernel
  obtain ⟨switch, registered, slot⟩ := Option.map_eq_some_iff.mp slot
  exact ⟨switch, Registry.find_eq_ok_iff.mpr ⟨by decide, registered⟩, slot⟩

/-- A message that writes the index that a debug counter holds anyway does no harm. -/
theorem written_index_keeps_pool :
    ¬ ((start .singlePort).run twoCounters).Reindexes
        (writing firstCounter [⟨.debugCounterIndex, .u32 0⟩]) ∧
      ∃ switch, (((start .singlePort).run twoCounters).administer
          (writing firstCounter [⟨.debugCounterIndex, .u32 0⟩]) 4).state.switches.get? 0 =
            some switch ∧
        switch.PoolAgrees ∧ switch.Holds firstCounter 0 := by
  have harmless : ¬ ((start .singlePort).run twoCounters).Reindexes
      (writing firstCounter [⟨.debugCounterIndex, .u32 0⟩]) := by
    rintro ⟨_, taken, found, _, last, other⟩
    rw [checkWrites_firstCounter] at taken
    cases taken
    cases last
    obtain ⟨switch, own, slot⟩ := firstCounter_holds_first
    rw [own] at found
    cases found
    exact other slot
  have written : (((((start .singlePort).run twoCounters).administer
      (writing firstCounter [⟨.debugCounterIndex, .u32 0⟩]) 4).state.switches.get? 0).map
        fun switch => switch.indexSlot? firstCounter) = some (some (some (.u32 0))) := by
    rw [administer_of_taken rfl (checkWrites_firstCounter 0)]
    decide +kernel
  obtain ⟨switch, registered, slot⟩ := Option.map_eq_some_iff.mp written
  obtain ⟨kept, _⟩ := admin_messages_keep_pool everywhere_twoCounters harmless 4
  exact ⟨harmless, switch, registered, kept registered, by decide, slot⟩

/--
In test mode a message gives the first of two debug counters the index of the
second one.  Then pool and counters disagree: removing the first counter frees
the index that the second one holds, and once both are removed the index that
the first one held before is still in use.
-/
theorem overwritten_index_loses_pool :
    (∀ index switch, ((start .singlePort).run twoCounters).switches.get? index = some switch →
      switch.PoolAgrees) ∧
    (((start .singlePort).run twoCounters).administer
      (writing firstCounter [⟨.debugCounterIndex, .u32 1⟩]) 4).answer = .ok () ∧
    (∃ index switch, (((start .singlePort).run twoCounters).administer
        (writing firstCounter [⟨.debugCounterIndex, .u32 1⟩]) 4).state.switches.get? index =
          some switch ∧ ¬ switch.PoolAgrees) ∧
    ((((start .singlePort).run twoCounters).administer
        (writing firstCounter [⟨.debugCounterIndex, .u32 1⟩]) 4).state.step 5
      (.call (.remove .debugCounter (.compose 0 .debugCounter 9)))).switches.values.map
        (fun switch => (switch.debugCounters.used.keys,
          switch.indexSlot? (.object (.compose 0 .debugCounter 10)))) =
      [([0], some (some (.u32 1)))] ∧
    ((((start .singlePort).run twoCounters).administer
        (writing firstCounter [⟨.debugCounterIndex, .u32 1⟩]) 4).state.run
      [(5, .call (.remove .debugCounter (.compose 0 .debugCounter 9))),
        (6, .call (.remove .debugCounter (.compose 0 .debugCounter 10)))]).switches.values.map
        (fun switch => (switch.debugCounters.used.keys,
          (switch.objectsOf .debugCounter).length)) =
      [([0], 0)] := by
  obtain ⟨switch, found, slot⟩ := firstCounter_holds_first
  have written : ((start .singlePort).run twoCounters).administer
        (writing firstCounter [⟨.debugCounterIndex, .u32 1⟩]) 4 =
      ((start .singlePort).run twoCounters).writeEach firstCounter 4
        [⟨.debugCounterIndex, .u32 1⟩] :=
    administer_of_taken rfl (checkWrites_firstCounter 1)
  have reindexes : ((start .singlePort).run twoCounters).Reindexes
      (writing firstCounter [⟨.debugCounterIndex, .u32 1⟩]) := by
    refine .write rfl (checkWrites_firstCounter 1) found (by decide) rfl ?_
    rw [slot]
    decide
  refine ⟨?_, ?_, reindexes.disagrees everywhere_twoCounters, ?_, ?_⟩
  · intro index switch registered
    exact everywhere_twoCounters registered
  · rw [written]
    exact writeEach_answer (checkWrite_of_checkWrites (checkWrites_firstCounter 1))
  · rw [written]
    decide +kernel
  · rw [written]
    decide +kernel

end Chassis

end SwitchAbstraction
