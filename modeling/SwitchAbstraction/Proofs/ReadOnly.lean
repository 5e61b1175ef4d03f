import Mathlib.Data.List.Infix
import SwitchAbstraction.Proofs.Effects
import SwitchAbstraction.Proofs.LastSteps

/-!
# Read-only attributes

The attributes that a switch sets by itself, but for those that it derives from
other objects, are set when their object is created.  As long as no message
writes past the rules, nothing changes them or takes them away, and no call that
gives one of them succeeds.
-/

namespace SwitchAbstraction

open Results

namespace AttrId

/-- The attributes that are set once, when their object is created. -/
def fixed : List AttrId :=
  [.portType, .portOperStatus, .switchCpuPort, .switchDefaultVlanId, .switchDefault1QBridgeId,
    .switchDefaultVirtualRouterId, .switchDefaultTrapGroup, .switchOperStatus, .debugCounterIndex]

theorem mem_fixed_iff (id : AttrId) : id ∈ fixed ↔ id.isReadOnly = true ∧ id.isDerived = false := by
  cases id <;> decide

end AttrId

namespace Attributes

variable {attrs : Attributes}

/-- The attributes among others that are set once. -/
def fixed (attrs : Attributes) : Attributes :=
  attrs.filter fun id _ => id ∈ AttrId.fixed

theorem get?_fixed {id : AttrId} (member : id ∈ AttrId.fixed) :
    attrs.fixed.get? id = attrs.get? id := by
  unfold fixed
  rw [OrderedMap.get?_filter]
  cases attrs.get? id <;> simp [member]

/-- Another attribute that is stored leaves those alone that are set once. -/
theorem fixed_insert {id : AttrId} (other : id ∉ AttrId.fixed) (value : AttrValue) :
    fixed (attrs.insert id value) = attrs.fixed := by
  apply OrderedMap.ext_get?
  intro asked
  unfold fixed
  rw [OrderedMap.get?_filter, OrderedMap.get?_filter, OrderedMap.get?_insert]
  by_cases own : asked = id
  · subst own
    cases attrs.get? asked <;> simp [other]
  · rw [if_neg own]

theorem fixed_insertAll {values : List (AttrId × AttrValue)}
    (others : ∀ entry ∈ values, entry.1 ∉ AttrId.fixed) (attrs : Attributes) :
    fixed (values.foldl (fun attrs entry => attrs.insert entry.1 entry.2) attrs) =
      attrs.fixed := by
  induction values generalizing attrs with
  | nil => rfl
  | cons entry rest ih =>
      obtain ⟨own, later⟩ := List.forall_mem_cons.mp others
      exact (ih later _).trans (fixed_insert own entry.2)

theorem fixed_overwrite {written : List Attribute}
    (others : ∀ attr ∈ written, attr.id ∉ AttrId.fixed) :
    (attrs.overwrite written).fixed = attrs.fixed := by
  unfold overwrite
  induction written generalizing attrs with
  | nil => rfl
  | cons attr rest ih =>
      obtain ⟨own, later⟩ := List.forall_mem_cons.mp others
      exact (ih later).trans (fixed_insert own attr.value.normalized)

end Attributes

/-- A write that keeps to the rules is of an attribute that is not read-only. -/
theorem Attribute.isReadOnly_of_checkWritable {type : ObjectType} {attr : Attribute}
    (passed : attr.checkWritable type false = .ok ()) : attr.id.isReadOnly = false := by
  unfold checkWritable at passed
  split at passed
  · cases passed
  · split at passed
    · cases passed
    · cases given : attr.id.isReadOnly with
      | false => rfl
      | true =>
          rw [given] at passed
          cases passed

theorem Attribute.isReadOnly_of_checkAll {type : ObjectType} {seen : List AttrId}
    {attrs : List Attribute} (passed : checkAll type false seen attrs = .ok ()) :
    ∀ attr ∈ attrs, attr.id.isReadOnly = false := fun attr member =>
  isReadOnly_of_checkWritable ((checkAll_eq_ok passed).1 attr member).1

theorem Attribute.not_mem_fixed {type : ObjectType} {attr : Attribute}
    (passed : attr.checkWritable type false = .ok ()) : attr.id ∉ AttrId.fixed := by
  intro member
  have readOnly := ((AttrId.mem_fixed_iff _).mp member).1
  rw [isReadOnly_of_checkWritable passed] at readOnly
  cases readOnly

/-! ## One step -/

namespace Switch

variable {switch next : Switch} {key : ObjectKey} {before attrs : Attributes} {now : UInt64}

theorem fixed_refresh {object : ObjectKey} (there : switch.object? key = some before)
    (stored : (switch.refresh object).object? key = some attrs) :
    attrs.fixed = before.fixed := by
  rw [object?_refresh, there] at stored
  split at stored
  · cases stored
    apply Attributes.fixed_insertAll
    intro entry member listed
    have computed := ((AttrId.mem_fixed_iff _).mp listed).2
    rw [isDerived_of_mem_derived member] at computed
    cases computed
  · cases stored
    rfl

/-- Learning changes nothing of a stored entry but its bridge port. -/
theorem fixed_learn {entry : FdbKey} {port : ObjectId} {events : List FdbEvent}
    (learned : switch.learn entry port now = .ok (events, next))
    (there : switch.object? key = some before) (stored : next.object? key = some attrs) :
    attrs.fixed = before.fixed := by
  by_cases own : key = .fdb entry
  · subst own
    rcases learn_eq_ok learned with ⟨absent, _⟩ | ⟨_, type, _, _, rfl⟩
    · rw [absent] at there
      cases there
    · split at stored
      · rw [there] at stored
        cases stored
        rfl
      · rw [object?_moveLearned, if_pos rfl, there] at stored
        cases stored
        exact Attributes.fixed_insert (by decide) _
  · rw [object?_learn_of_ne learned own, there] at stored
    cases stored
    rfl

end Switch

/-- No change that keeps to the rules touches the attributes that are set once. -/
theorem Change.fixed_eq {now : UInt64} {command : Command} {switch next : Switch}
    {owner : ObjectId} (change : Change now command switch owner next)
    (ordinary : command.overrides = false) {key : ObjectKey} {before attrs : Attributes}
    (there : switch.object? key = some before) (stored : next.object? key = some attrs) :
    attrs.fixed = before.fixed := by
  have same (unchanged : next.object? key = switch.object? key) : attrs.fixed = before.fixed := by
    rw [unchanged, there] at stored
    cases stored
    rfl
  cases change with
  | remove _ removed =>
      rw [Switch.object?_removeObject removed] at stored
      split at stored
      · cases stored
      · next other => exact same ((Switch.object?_removeObject removed key).trans (if_neg other))
  | write _ writable _ _ =>
      rw [Switch.object?_writeAll, there] at stored
      split at stored
      · cases stored
        refine Attributes.fixed_overwrite fun attr member => ?_
        have passed := writable attr member
        rw [ordinary] at passed
        exact Attribute.not_mem_fixed passed
      · cases stored
        rfl
  | refresh _ => exact Switch.fixed_refresh there stored
  | addEntry _ _ added =>
      obtain ⟨_, inserted, _⟩ := Switch.addEntry_eq_ok added
      obtain ⟨absent, _⟩ := Switch.insert_eq_ok_iff.mp inserted
      refine same ((Switch.object?_addEntry added key).trans (if_neg ?_))
      rintro rfl
      rw [absent] at there
      cases there
  | count _ _ => exact same (Switch.object?_setCounters _ key)
  | flush _ =>
      change (switch.withoutEntries _).object? key = some attrs at stored
      rw [Switch.object?_withoutEntries, there] at stored
      split at stored
      · cases stored
      · cases stored
        rfl
  | learn _ learned => exact Switch.fixed_learn learned there stored

namespace Chassis

variable {chassis : Chassis} {now : UInt64} {command : Command}

/-- A step that keeps to the rules lets an object that stays keep what is set once. -/
theorem Ledger.fixed_step {log : List ObjectId} (ledger : Ledger log chassis)
    (unforced : command.overrides = true → ¬ chassis.Accepts now command) {index : UInt8}
    {key : ObjectKey} {before attrs : Attributes}
    (there : chassis.objectAt? index key = some before)
    (stored : (chassis.step now command).objectAt? index key = some attrs) :
    attrs.fixed = before.fixed := by
  obtain ⟨next, registered, stored⟩ := objectAt?_eq_some_iff.mp stored
  cases ledger.became registered with
  | same unchanged _ =>
      rw [objectAt?_of_get? unchanged, stored] at there
      cases there
      rfl
  | changed was own accepted change =>
      rw [objectAt?_of_get? was] at there
      refine change.fixed_eq ?_ there stored
      cases forced : command.overrides with
      | false => rfl
      | true =>
          have noRead : command.readKey? = none := by
            cases command with
            | administer message => rfl
            | call call => cases forced
            | learn key port => cases forced
            | age => cases forced
          exact absurd (accepted noRead) (unforced forced)
  | grown was _ equips inserted =>
      rw [objectAt?_of_get? was] at there
      rw [Switch.object?_insert_of_equip equips inserted] at stored
      obtain ⟨absent, _⟩ := Switch.insert_eq_ok_iff.mp inserted
      rw [Switch.object?_equip equips] at absent
      split at stored
      · next own =>
          rw [own, absent] at there
          cases there
      · rw [there] at stored
        cases stored
        rfl
  | built absent =>
      unfold objectAt? at there
      rw [absent] at there
      cases there
  | aged _ was same =>
      subst same
      rw [objectAt?_of_get? was, Switch.stored_before_expireAll stored] at there
      cases there
      rfl

end Chassis

/-! ## Calls that name a read-only attribute -/

/-- The attributes that a command gives to an object, within the rules for writing. -/
def Command.given : Command → List Attribute
  | .call (.create _ _ attrs) | .call (.createEntry _ attrs) => attrs
  | .call (.set _ _ attr) | .call (.setEntry _ attr) => [attr]
  | _ => []

namespace Chassis

variable {chassis : Chassis} {now : UInt64} {command : Command}

theorem isReadOnly_of_setOn {key : ObjectKey} {attr : Attribute} {value : Unit} {next : Chassis}
    (done : chassis.setOn false key attr now = .ok (value, next)) :
    attr.id.isReadOnly = false := by
  obtain ⟨_, passed, _⟩ := bind_eq_ok_iff.mp done
  exact Attribute.isReadOnly_of_checkWritable (checkWrite_eq_ok_iff.mp passed).1

/-- A command that gives a read-only attribute is refused. -/
theorem not_accepts_of_isReadOnly {attr : Attribute} (member : attr ∈ command.given)
    (readOnly : attr.id.isReadOnly = true) : ¬ chassis.Accepts now command := by
  intro accepted
  have contradiction (writable : attr.id.isReadOnly = false) : False := by
    rw [readOnly] at writable
    cases writable
  cases command with
  | call call =>
      obtain ⟨reply, answered, _⟩ := map_eq_ok_iff.mp accepted
      cases call with
      | create type owner attrs =>
          obtain ⟨id, made, _⟩ := map_eq_ok_iff.mp answered
          obtain ⟨passed, _⟩ := create_eq_ok (Prod.ext made rfl)
          obtain ⟨_, _, each⟩ := bind_eq_ok_iff.mp passed
          exact contradiction (Attribute.isReadOnly_of_checkAll each attr member)
      | createEntry key attrs =>
          obtain ⟨_, next, done⟩ := attempt_of_settled answered
          obtain ⟨_, passed, _⟩ := bind_eq_ok_iff.mp done
          obtain ⟨_, _, rest⟩ := bind_eq_ok_iff.mp passed
          obtain ⟨_, each, _⟩ := bind_eq_ok_iff.mp rest
          exact contradiction (Attribute.isReadOnly_of_checkAll each attr member)
      | set type id own =>
          obtain ⟨_, next, done⟩ := attempt_of_settled answered
          obtain ⟨_, _, rest⟩ := bind_eq_ok_iff.mp done
          rw [List.mem_singleton.mp member] at contradiction
          exact contradiction (isReadOnly_of_setOn rest)
      | setEntry key own =>
          obtain ⟨_, next, done⟩ := attempt_of_settled answered
          obtain ⟨_, _, rest⟩ := bind_eq_ok_iff.mp done
          rw [List.mem_singleton.mp member] at contradiction
          exact contradiction (isReadOnly_of_setOn rest)
      | _ => cases member
  | _ => cases member

/-! ## Runs -/

/--
As long as no message that writes past the rules is taken, every object keeps
the attributes that are set once, and keeps being without them, as they were
when it was created.  These are the read-only ones that are not derived, and no
command within the rules that gives a read-only attribute succeeds.
-/
theorem read_only_attributes_stay (settings : Settings) {history : List (UInt64 × Command)}
    (unforced : ∀ {past now command later}, history = past ++ (now, command) :: later →
      command.overrides = true → ¬ ((start settings).run past).Accepts now command) :
    (∀ {index key attrs}, ((start settings).run history).objectAt? index key = some attrs →
      ∃ past now command later created,
        LastStep (start settings) (Creates index key) history past now command later ∧
        (((start settings).run past).step now command).objectAt? index key = some created ∧
        ∀ id ∈ AttrId.fixed, attrs.get? id = created.get? id) ∧
    (∀ id, id ∈ AttrId.fixed ↔ id.isReadOnly = true ∧ id.isDerived = false) ∧
    ∀ {chassis : Chassis} {now command attr}, attr ∈ Command.given command →
      attr.id.isReadOnly = true → ¬ chassis.Accepts now command := by
  refine ⟨?_, AttrId.mem_fixed_iff, not_accepts_of_isReadOnly⟩
  intro index key attrs stored
  obtain ⟨past, now, command, later, last, created, there, same⟩ :=
    @exists_lastStep (start settings) (Creates index key) history Attributes
      (fun chassis kept => ∃ attrs, chassis.objectAt? index key = some attrs ∧ attrs.fixed = kept)
      (fun chassis now command kept => ∃ attrs,
        (chassis.step now command).objectAt? index key = some attrs ∧ attrs.fixed = kept)
      (fun _ ⟨_, impossible, _⟩ => by cases impossible)
      (by
        rintro past now command later kept split ⟨attrs, stored, same⟩
        cases before : ((start settings).run past).objectAt? index key with
        | none => exact .inl ⟨⟨before, attrs, stored⟩, attrs, stored, same⟩
        | some earlier =>
            have unchanged := (ledger_run settings past).fixed_step (unforced split) before stored
            refine .inr ⟨fun creates => ?_, earlier, rfl, unchanged.symm.trans same⟩
            rw [creates.1] at before
            cases before)
      attrs.fixed ⟨attrs, stored, rfl⟩
  refine ⟨past, now, command, later, created, last, there, fun id member => ?_⟩
  calc
    attrs.get? id = attrs.fixed.get? id := (Attributes.get?_fixed member).symm
    _ = created.fixed.get? id := by rw [same]
    _ = created.get? id := Attributes.get?_fixed member

/-- Outside of test mode no message writes past the rules. -/
theorem not_accepts_of_testMode (off : chassis.testMode = false)
    (forced : command.overrides = true) : ¬ chassis.Accepts now command := by
  cases command with
  | administer message =>
      have outcome : chassis.outcome now (.administer message) =
          ⟨.error (.failed (.testModeRequired Admin.writeOp)), chassis, []⟩ :=
        administer_of_refused (of_decide_eq_true forced) (checkWrites_outside_test off)
      unfold Accepts
      rw [outcome]
      exact ok_ne_error _ () ∘ Eq.symm
  | call call => cases forced
  | learn key port => cases forced
  | age => cases forced

/-- The front panel port of the first switch. -/
def frontPort : ObjectId :=
  .compose 0 .port 3

/-- A port whose status somebody tries to write outside of test mode. -/
def refusedStatus : List (UInt64 × Command) :=
  [(0, .call (.create .switch .null [])),
    (1, .administer (writing (.object frontPort)
      [⟨.portOperStatus, .s32 PortOperStatus.up.code⟩])),
    (2, .call (.set .port frontPort ⟨.portAdminState, .bool true⟩))]

theorem port_status_stays :
    ∃ attrs past now command later created,
      ((start .singlePort).run refusedStatus).objectAt? 0 (.object frontPort) = some attrs ∧
        LastStep (start .singlePort) (Creates 0 (.object frontPort)) refusedStatus past now command
          later ∧
        (((start .singlePort).run past).step now command).objectAt? 0 (.object frontPort) =
          some created ∧
        attrs.get? .portOperStatus = created.get? .portOperStatus := by
  have unforced : ∀ {past now command later},
      refusedStatus = past ++ (now, command) :: later → command.overrides = true →
        ¬ ((start .singlePort).run past).Accepts now command := by
    intro past now command later split forced
    have off : ∀ early ∈ refusedStatus.inits,
        ((start .singlePort).run early).testMode = false := by
      decide +kernel
    have early : past ∈ refusedStatus.inits := (List.mem_inits _ _).mpr ⟨_, split.symm⟩
    exact not_accepts_of_testMode (off past early) forced
  have there : (((start .singlePort).run refusedStatus).objectAt? 0
      (.object frontPort)).isSome = true := by
    decide +kernel
  obtain ⟨attrs, stored⟩ := Option.isSome_iff_exists.mp there
  obtain ⟨stay, _⟩ := read_only_attributes_stay .singlePort unforced
  obtain ⟨past, now, command, later, created, last, made, same⟩ := stay stored
  exact ⟨attrs, past, now, command, later, created, stored, last, made, same _ (by decide)⟩

end Chassis

end SwitchAbstraction
