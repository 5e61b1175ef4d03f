import SwitchAbstraction.Proofs.Runs

/-!
# What a refused command leaves behind

A command that is refused leaves every switch as it was and reports nothing,
although some commands take an index or an id before they can fail.  Only a
read may leave the derived attributes of its object up to date.
-/

namespace SwitchAbstraction

open Results

def AttrId.isDerived (id : AttrId) : Bool :=
  id ∈ [.vlanMemberList, .bridgePortList, .lagPortList, .switchPortNumber, .switchPortList]

namespace Switch

/-- One switch is another one but for derived attributes of one object. -/
structure SameBut (key : ObjectKey) (before after : Switch) : Prop where
  id_eq : after.id = before.id
  counters_eq : after.counters = before.counters
  learned_eq : after.learned = before.learned
  debugCounters_eq : after.debugCounters = before.debugCounters
  others : ∀ other, other ≠ key → after.object? other = before.object? other
  absent : before.object? key = none → after.object? key = none
  present : ∀ {attrs}, before.object? key = some attrs →
    ∃ fresh, after.object? key = some fresh ∧
      ∀ id, id.isDerived = false → fresh.get? id = attrs.get? id

variable {switch : Switch} {key : ObjectKey}

theorem SameBut.refl (key : ObjectKey) (switch : Switch) : SameBut key switch switch where
  id_eq := rfl
  counters_eq := rfl
  learned_eq := rfl
  debugCounters_eq := rfl
  others _ _ := rfl
  absent nothing := nothing
  present {attrs} there := ⟨attrs, there, fun _ _ => rfl⟩

theorem isDerived_of_mem_derived {entry : AttrId × AttrValue}
    (member : entry ∈ switch.derived key) : entry.1.isDerived = true := by
  unfold derived at member
  split at member
  · cases member
  · split at member
    · rw [List.mem_singleton.mp member]
      rfl
    · rw [List.mem_singleton.mp member]
      rfl
    · rw [List.mem_singleton.mp member]
      rfl
    · rcases List.mem_cons.mp member with rfl | last
      · rfl
      · rw [List.mem_singleton.mp last]
        rfl
    · cases member

theorem get?_insertAll {values : List (AttrId × AttrValue)} {id : AttrId}
    (other : ∀ entry ∈ values, entry.1 ≠ id) (attrs : Attributes) :
    (values.foldl (fun attrs entry => attrs.insert entry.1 entry.2) attrs).get? id =
      attrs.get? id := by
  induction values generalizing attrs with
  | nil => rfl
  | cons entry rest ih =>
      rw [List.foldl_cons, ih fun later member => other later (List.mem_cons_of_mem _ member)]
      have different := other entry List.mem_cons_self
      rw [OrderedMap.get?_insert, if_neg (Ne.symm different)]

theorem sameBut_refresh (key : ObjectKey) (switch : Switch) :
    SameBut key switch (switch.refresh key) := by
  obtain ⟨sameId, learned, counters, pool⟩ := @refresh_frame switch key
  refine ⟨sameId, counters, learned, pool, ?_, ?_, ?_⟩
  · intro other different
    rw [object?_refresh, if_neg different]
  · intro nothing
    rw [object?_refresh, if_pos rfl, nothing]
    rfl
  · intro attrs there
    rw [object?_refresh, if_pos rfl, there]
    refine ⟨_, rfl, fun id stored => get?_insertAll ?_ attrs⟩
    rintro entry member rfl
    rw [isDerived_of_mem_derived member] at stored
    cases stored

end Switch

/-- One registry is another one but for derived attributes of one object. -/
structure Registry.SameBut (key : ObjectKey) (before after : Registry) : Prop where
  others : ∀ index, index ≠ key.switchId.switchIndex → after.get? index = before.get? index
  own : Option.Rel (Switch.SameBut key) (before.get? key.switchId.switchIndex)
    (after.get? key.switchId.switchIndex)

theorem Registry.SameBut.refl (key : ObjectKey) (registry : Registry) :
    SameBut key registry registry := by
  refine ⟨fun _ _ => rfl, ?_⟩
  cases registry.get? key.switchId.switchIndex with
  | none => exact .none
  | some switch => exact .some (Switch.SameBut.refl key switch)

namespace Chassis

variable {chassis : Chassis} {now : UInt64}

/-! ## Operations that settle their answer first -/

/-- An outcome that leaves every switch and the test mode as they were and reports nothing. -/
structure Unchanged {α : Type} (chassis : Chassis) (outcome : Outcome Chassis α) : Prop where
  switches_eq : outcome.state.switches = chassis.switches
  testMode_eq : outcome.state.testMode = chassis.testMode
  notifications_eq : outcome.notifications = []

theorem settled_unchanged {α β : Type} {attempt : Except Fault (α × Chassis)}
    {answer : Except Fault α → β} (rejects : β → Prop)
    (accepts : ∀ value, ¬ rejects (answer (.ok value)))
    (refused : rejects (chassis.settled attempt answer).answer) :
    chassis.Unchanged (chassis.settled attempt answer) := by
  unfold settled at refused ⊢
  cases attempt with
  | error fault => exact ⟨rfl, rfl, rfl⟩
  | ok pair => exact absurd refused (accepts pair.1)

theorem reported_unchanged {β : Type} {attempt : Except Fault (List FdbEvent × Chassis)}
    {answer : Except Fault Unit → β} (rejects : β → Prop)
    (accepts : ¬ rejects (answer (.ok ())))
    (refused : rejects (chassis.reported attempt answer).answer) :
    chassis.Unchanged (chassis.reported attempt answer) := by
  unfold reported at refused ⊢
  cases attempt with
  | error fault => exact ⟨rfl, rfl, rfl⟩
  | ok pair => exact absurd refused accepts

/-! ## Creations -/

theorem createSwitch_refused {attrs : List Attribute} {fault : Fault} {next : Chassis}
    (refused : chassis.createSwitch attrs = (.error fault, next)) :
    next.switches = chassis.switches ∧ next.testMode = chassis.testMode := by
  unfold createSwitch at refused
  split at refused
  · obtain ⟨_, rfl⟩ := Prod.mk.inj refused
    exact ⟨rfl, rfl⟩
  · split at refused
    · obtain ⟨_, rfl⟩ := Prod.mk.inj refused
      exact ⟨rfl, rfl⟩
    · cases (Prod.mk.inj refused).1

theorem create_refused {type : ObjectType} {owner : ObjectId} {attrs : List Attribute}
    {fault : Fault} {next : Chassis}
    (refused : chassis.create type owner attrs = (.error fault, next)) :
    next.switches = chassis.switches ∧ next.testMode = chassis.testMode := by
  unfold create at refused
  split at refused
  · obtain ⟨_, rfl⟩ := Prod.mk.inj refused
    exact ⟨rfl, rfl⟩
  · split at refused
    · exact createSwitch_refused refused
    · rcases createObject_eq_error refused with rfl | ⟨_, _, _, _, rfl⟩
      · exact ⟨rfl, rfl⟩
      · exact ⟨rfl, rfl⟩

/-! ## Messages that write several attributes -/

theorem contains_write {switch : Switch} {key : ObjectKey} (attr : Attribute)
    (other : ObjectKey) :
    (switch.write key attr now).contains other = switch.contains other := by
  unfold Switch.write
  rw [← @Switch.contains_setAttr switch key attr.id attr.value.normalized]
  unfold Switch.contains
  rw [Switch.settle_objects]

/-- A write takes nothing away that another write to the same object needs. -/
theorem checkWrite_write {readOnly : Bool} {key : ObjectKey} {attr : Attribute}
    (first : Attribute) (passed : chassis.checkWrite readOnly key attr = .ok ()) :
    (chassis.write key first now).checkWrite readOnly key attr = .ok () := by
  obtain ⟨writable, typed, switch, found, there⟩ := checkWrite_eq_ok_iff.mp passed
  obtain ⟨isSwitch, _⟩ := Registry.find_eq_ok_iff.mp found
  refine checkWrite_eq_ok_iff.mpr ⟨writable, typed, switch.write key first now, ?_, ?_⟩
  · rw [write_eq_put found]
    refine Registry.find_eq_ok_iff.mpr ⟨isSwitch, ?_⟩
    rw [get?_put, if_pos rfl]
  · rw [contains_write]
    exact there

/-- Attributes that have all passed the check are all written. -/
theorem writeEach_answer {key : ObjectKey} {attrs : List Attribute}
    (passed : ∀ attr ∈ attrs, chassis.checkWrite true key attr = .ok ()) :
    (chassis.writeEach key now attrs).answer = .ok () := by
  induction attrs generalizing chassis with
  | nil => rfl
  | cons attr rest ih =>
      have first : chassis.setOn true key attr now = .ok ((), chassis.write key attr now) :=
        bind_eq_ok_iff.mpr ⟨(), passed attr List.mem_cons_self, rfl⟩
      have others : ((chassis.write key attr now).writeEach key now rest).answer = .ok () :=
        ih fun other member =>
          checkWrite_write attr (passed other (List.mem_cons_of_mem _ member))
      unfold writeEach writeAny
      rw [first]
      exact others

/-- A message to write attributes passes only if each of them can be written. -/
theorem checkWrite_of_checkWrites {message : Message} {key : ObjectKey} {attrs : List Attribute}
    (checked : chassis.checkWrites message = .ok (key, attrs)) :
    ∀ attr ∈ attrs, chassis.checkWrite true key attr = .ok () := by
  obtain ⟨_, _, rest⟩ := bind_eq_ok_iff.mp checked
  obtain ⟨_, _, rest⟩ := bind_eq_ok_iff.mp rest
  obtain ⟨_, _, rest⟩ := bind_eq_ok_iff.mp rest
  obtain ⟨_, passed, same⟩ := bind_eq_ok_iff.mp rest
  cases same
  exact forM_eq_ok passed

/-- A message is taken to write what it says to the object that it names. -/
theorem read_of_checkWrites {message : Message} {key : ObjectKey} {attrs : List Attribute}
    (checked : chassis.checkWrites message = .ok (key, attrs)) :
    ObjectKey.parse message.key = .ok key ∧ Attribute.ofFields message.fields = .ok attrs := by
  obtain ⟨_, _, rest⟩ := bind_eq_ok_iff.mp checked
  obtain ⟨named, parsed, rest⟩ := bind_eq_ok_iff.mp rest
  obtain ⟨given, read, rest⟩ := bind_eq_ok_iff.mp rest
  obtain ⟨_, _, same⟩ := bind_eq_ok_iff.mp rest
  cases same
  exact ⟨parsed, read⟩

theorem writeAll_refused {message : Message} {fault : Fault}
    (refused : (chassis.writeAll message now).answer = .error fault) :
    chassis.Unchanged (chassis.writeAll message now) := by
  unfold writeAll at refused ⊢
  cases checked : chassis.checkWrites message with
  | error _ => exact ⟨rfl, rfl, rfl⟩
  | ok pair =>
      rw [checked] at refused
      dsimp only at refused
      rw [writeEach_answer (checkWrite_of_checkWrites checked)] at refused
      cases refused

theorem ok_ne_error {α : Type} (fault : Fault) (value : α) :
    ¬ (Except.ok value : Except Fault α) = .error fault := by
  intro impossible
  cases impossible

theorem administer_refused {message : Message} {fault : Fault} :
    (chassis.administer message now).answer = .error fault →
      chassis.Unchanged (chassis.administer message now) := by
  unfold administer
  split
  · exact settled_unchanged (fun answer : Except Fault Unit => answer = .error fault)
      (ok_ne_error fault)
  · split
    · exact writeAll_refused
    · split
      · exact settled_unchanged (fun answer : Except Fault Unit => answer = .error fault)
          (ok_ne_error fault)
      · intro impossible
        cases impossible

/-! ## Reads -/

theorem getOn_sameBut (key : ObjectKey) (slots : List Attribute) :
    Registry.SameBut key chassis.switches (chassis.getOn key slots).2.switches ∧
      (chassis.getOn key slots).2.testMode = chassis.testMode := by
  unfold getOn
  cases passed : chassis.checkRead key slots with
  | error fault => exact ⟨Registry.SameBut.refl key _, rfl⟩
  | ok switch =>
      obtain ⟨found, _⟩ := checkRead_eq_ok passed
      obtain ⟨_, there⟩ := Registry.find_eq_ok_iff.mp found
      refine ⟨⟨?_, ?_⟩, rfl⟩
      · intro index different
        exact (get?_put index).trans (if_neg different)
      · have fresh : (chassis.put key.switchId (switch.refresh key)).switches.get?
            key.switchId.switchIndex = some (switch.refresh key) :=
          (get?_put _).trans (if_pos rfl)
        rw [there]
        dsimp only
        rw [fresh]
        exact .some (Switch.sameBut_refresh key switch)

theorem get_sameBut (type : ObjectType) (id : ObjectId) (slots : List Attribute) :
    Registry.SameBut (.object id) chassis.switches (chassis.get type id slots).2.switches ∧
      (chassis.get type id slots).2.testMode = chassis.testMode := by
  unfold get
  cases named : ObjectKey.ofTypedId type id with
  | error fault => exact ⟨Registry.SameBut.refl _ _, rfl⟩
  | ok key =>
      obtain ⟨rfl, _, _⟩ := ObjectKey.ofTypedId_eq_ok named
      exact getOn_sameBut (.object id) slots

theorem getEntry_sameBut (key : ObjectKey) (slots : List Attribute) :
    Registry.SameBut key chassis.switches (chassis.getEntry key slots).2.switches ∧
      (chassis.getEntry key slots).2.testMode = chassis.testMode := by
  unfold getEntry
  cases key.checkEntry with
  | error fault => exact ⟨Registry.SameBut.refl _ _, rfl⟩
  | ok _ => exact getOn_sameBut key slots

end Chassis

/-! ## Commands -/

/-- The key of the object that a command reads attributes of, if that is what it does. -/
def Command.readKey? : Command → Option ObjectKey
  | .call (.get _ id _) => some (.object id)
  | .call (.getEntry key _) => some key
  | _ => none

namespace Chassis

variable {chassis : Chassis} {now : UInt64}

theorem perform_refused {call : Call} {fault : Fault}
    (noRead : (Command.call call).readKey? = none)
    (refused : (chassis.perform now call).answer.result = .error fault) :
    chassis.Unchanged (chassis.perform now call) := by
  have accepts {α : Type} (reply : α → Reply) (value : α) :
      ¬ (answerOf reply (.ok value)).result = .error fault := ok_ne_error fault (reply value)
  cases call with
  | create type owner attrs =>
      have failed : (chassis.create type owner attrs).1 = .error fault :=
        Results.map_eq_error_iff.mp refused
      obtain ⟨switches, testMode⟩ := create_refused (Prod.ext failed rfl)
      exact ⟨switches, testMode, rfl⟩
  | remove | set | createEntry | removeEntry | setEntry | readStats | clearStats =>
      exact settled_unchanged (fun answer : Answer => answer.result = .error fault)
        (accepts _) refused
  | flush =>
      exact reported_unchanged (fun answer : Answer => answer.result = .error fault)
        (accepts _ ()) refused
  | get | getEntry => cases noRead

/--
A refused command leaves all switches and the test mode as they were and
reports nothing, but for the derived attributes of the object that it reads.
-/
theorem refused_command_changes_nothing {command : Command} {fault : Fault}
    (refused : (chassis.outcome now command).answer = .error fault) :
    (chassis.outcome now command).notifications = [] ∧
      (chassis.outcome now command).state.testMode = chassis.testMode ∧
      match command.readKey? with
      | none => (chassis.outcome now command).state.switches = chassis.switches
      | some key =>
          Registry.SameBut key chassis.switches
            (chassis.outcome now command).state.switches := by
  have whole (unchanged : chassis.Unchanged (chassis.outcome now command)) :
      (chassis.outcome now command).notifications = [] ∧
        (chassis.outcome now command).state.testMode = chassis.testMode ∧
        (chassis.outcome now command).state.switches = chassis.switches :=
    ⟨unchanged.notifications_eq, unchanged.testMode_eq, unchanged.switches_eq⟩
  cases command with
  | call call =>
      have failed : (chassis.perform now call).answer.result = .error fault :=
        Results.map_eq_error_iff.mp refused
      cases key : (Command.call call).readKey? with
      | none =>
          obtain ⟨switches, testMode, notifications⟩ := perform_refused key failed
          exact whole ⟨switches, testMode, notifications⟩
      | some read =>
          cases call with
          | get type id slots =>
              cases key
              obtain ⟨same, testMode⟩ := @get_sameBut chassis type id slots
              exact ⟨rfl, testMode, same⟩
          | getEntry _ slots =>
              cases key
              obtain ⟨same, testMode⟩ := @getEntry_sameBut chassis read slots
              exact ⟨rfl, testMode, same⟩
          | create | remove | set | createEntry | removeEntry | setEntry | readStats | clearStats
          | flush => cases key
  | learn key port =>
      exact whole (reported_unchanged (fun answer : Except Fault Unit => answer = .error fault)
        (ok_ne_error fault ()) refused)
  | age => cases refused
  | administer message => exact whole (administer_refused refused)

/-- A chassis with a switch and without counters left. -/
def exhausted : Chassis :=
  { (start .singlePort).step 0 (.call (.create .switch .null [])) with
    ids := ⟨ObjectId.counterLimit - 1⟩ }

theorem exhausted_keeps_switches :
    ∃ fault, (exhausted.outcome 0
        (.call (.create .debugCounter (.ofSwitchIndex 0) []))).answer = .error fault ∧
      (exhausted.outcome 0
        (.call (.create .debugCounter (.ofSwitchIndex 0) []))).state.switches =
        exhausted.switches := by
  have refused : (exhausted.outcome 0
      (.call (.create .debugCounter (.ofSwitchIndex 0) []))).answer =
      .error (.failed .countersExhausted) := by
    decide +kernel
  exact ⟨_, refused, (refused_command_changes_nothing refused).2.2⟩

end Chassis

end SwitchAbstraction
