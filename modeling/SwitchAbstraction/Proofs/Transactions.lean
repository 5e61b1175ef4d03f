import Mathlib.Data.List.Forall2
import SwitchAbstraction.Proofs.LearnTimes
import SwitchAbstraction.Proofs.Overrides

/-!
# Messages that write are transactions

A message that writes attributes checks all of them before it writes the first.
No write takes anything away that the check of another one has found, so either
the message is refused and nothing has happened, or all its attributes are
written in turn and each operational status that a port gets is reported.
-/

namespace SwitchAbstraction

open Results

/-- Of the values that are stored for an attribute one after another, the last one stays. -/
theorem Attributes.get?_overwrite (stored : Attributes) (written : List Attribute)
    (id : AttrId) :
    (stored.overwrite written).get? id =
      ((Attribute.find? written.reverse id).map AttrValue.normalized).or (stored.get? id) := by
  unfold overwrite
  induction written generalizing stored with
  | nil => rfl
  | cons attr rest ih =>
      rw [List.foldl_cons, ih, Attribute.find?_reverse_cons, OrderedMap.get?_insert]
      cases Attribute.find? rest.reverse id with
      | some value => rfl
      | none =>
          by_cases own : id = attr.id
          · rw [if_pos own, if_pos own.symm]
            rfl
          · rw [if_neg own, if_neg (Ne.symm own)]
            rfl

/-- A write reports a status exactly when it gives a port one that there is. -/
theorem Admin.statusChange?_eq_some_iff {key : ObjectKey} {attr : Attribute}
    {change : PortStatusChange} :
    statusChange? key attr = some change ↔
      key = .object change.port ∧ attr = ⟨.portOperStatus, .s32 change.status.code⟩ := by
  obtain ⟨id, value⟩ := attr
  obtain ⟨port, status⟩ := change
  unfold statusChange?
  constructor
  · intro reported
    obtain ⟨_, own, reported⟩ := Option.bind_eq_some_iff.mp reported
    obtain ⟨named, isPort, reported⟩ := Option.bind_eq_some_iff.mp reported
    obtain ⟨known, read, same⟩ := Option.bind_eq_some_iff.mp reported
    cases same
    obtain ⟨raw, number, code⟩ := Option.bind_eq_some_iff.mp read
    obtain rfl : id = .portOperStatus := by
      unfold guard at own
      split at own
      · assumption
      · cases own
    have same : Enumeration.code status = raw := Enumeration.ofCode?_eq_some_iff.mp code
    subst same
    cases key with
    | object own =>
        cases isPort
        cases value <;> cases number
        exact ⟨rfl, rfl⟩
    | fdb | route | neighbor => cases isPort
  · rintro ⟨rfl, same⟩
    cases same
    have read : Enumeration.ofCode? (Enumeration.code status) = some status :=
      Enumeration.ofCode?_eq_some_iff.mpr rfl
    change (Enumeration.ofCode? (Enumeration.code status)).bind _ = _
    rw [read]
    rfl

namespace Chassis

variable {chassis : Chassis} {key : ObjectKey} {attrs : List Attribute} {message : Message}
  {now : UInt64}

/-! ## Writing in turn -/

/-- Writes attributes of an object one after another. -/
def writeInTurn (chassis : Chassis) (key : ObjectKey) (now : UInt64) (attrs : List Attribute) :
    Chassis :=
  attrs.foldl (fun written attr => written.write key attr now) chassis

theorem writeInTurn_concat (attr : Attribute) :
    chassis.writeInTurn key now (attrs ++ [attr]) =
      (chassis.writeInTurn key now attrs).write key attr now :=
  List.foldl_append ..

/-- What passes the check before others are written passes it afterwards. -/
theorem checkWrite_writeInTurn {readOnly : Bool} {attr : Attribute}
    (passed : chassis.checkWrite readOnly key attr = .ok ()) (before : List Attribute) :
    (chassis.writeInTurn key now before).checkWrite readOnly key attr = .ok () := by
  induction before using List.reverseRecOn with
  | nil => exact passed
  | append_singleton rest last ih =>
      rw [writeInTurn_concat]
      exact checkWrite_write last ih

theorem setOn_of_checkWrite {readOnly : Bool} {attr : Attribute}
    (passed : chassis.checkWrite readOnly key attr = .ok ()) :
    chassis.setOn readOnly key attr now = .ok ((), chassis.write key attr now) :=
  bind_eq_ok_iff.mpr ⟨(), passed, rfl⟩

/-- Attributes that have all passed the check are written in turn, and reported in turn. -/
theorem writeEach_eq (passed : ∀ attr ∈ attrs, chassis.checkWrite true key attr = .ok ()) :
    chassis.writeEach key now attrs =
      ⟨.ok (), chassis.writeInTurn key now attrs,
        (attrs.filterMap (Admin.statusChange? key)).map fun change =>
          .portStatusChanges [change]⟩ := by
  induction attrs generalizing chassis with
  | nil => rfl
  | cons attr rest ih =>
      obtain ⟨own, others⟩ := List.forall_mem_cons.mp passed
      unfold writeEach writeAny
      rw [setOn_of_checkWrite own]
      dsimp only
      rw [ih fun other member => checkWrite_write attr (others other member),
        List.filterMap_cons]
      cases Admin.statusChange? key attr <;> rfl

theorem objectAt?_write (attr : Attribute) (index : UInt8) (other : ObjectKey) :
    (chassis.write key attr now).objectAt? index other =
      if index = key.switchId.switchIndex ∧ other = key then
        (chassis.objectAt? index other).map (·.insert attr.id attr.value.normalized)
      else chassis.objectAt? index other := by
  unfold objectAt? write
  dsimp only
  rw [OrderedMap.get?_modify]
  by_cases there : index = key.switchId.switchIndex
  · rw [if_pos there, Option.bind_map, Option.map_bind]
    by_cases own : other = key
    · rw [if_pos ⟨there, own⟩]
      refine congrArg _ (funext fun switch => ?_)
      exact (Switch.object?_write attr other).trans (if_pos own)
    · rw [if_neg fun both => own both.2]
      refine congrArg _ (funext fun switch => ?_)
      exact (Switch.object?_write attr other).trans (if_neg own)
  · rw [if_neg there, if_neg fun both => there both.1]

theorem objectAt?_writeInTurn (index : UInt8) (other : ObjectKey) :
    (chassis.writeInTurn key now attrs).objectAt? index other =
      if index = key.switchId.switchIndex ∧ other = key then
        (chassis.objectAt? index other).map (·.overwrite attrs)
      else chassis.objectAt? index other := by
  unfold writeInTurn
  induction attrs generalizing chassis with
  | nil =>
      split
      · exact Option.map_id'.symm
      · rfl
  | cons attr rest ih =>
      rw [List.foldl_cons, ih, objectAt?_write]
      split
      · rw [Option.map_map]
        rfl
      · rfl

/-! ## Messages -/

/-- A message asks for writes to an object all of which pass the check. -/
structure Grants (chassis : Chassis) (message : Message) (key : ObjectKey)
    (attrs : List Attribute) : Prop where
  named : ObjectKey.parse message.key = .ok key
  read : List.Forall₂ (fun field attr => Attribute.ofField field = .ok attr) message.fields attrs
  passed : ∀ attr ∈ attrs, chassis.checkWrite true key attr = .ok ()

theorem checkWrites_eq_ok_iff (inTest : chassis.testMode = true) :
    chassis.checkWrites message = .ok (key, attrs) ↔ chassis.Grants message key attrs := by
  constructor
  · intro checked
    obtain ⟨named, read⟩ := read_of_checkWrites checked
    exact ⟨named, mapM_eq_ok_iff.mp read, checkWrite_of_checkWrites checked⟩
  · rintro ⟨named, read, passed⟩
    refine bind_eq_ok_iff.mpr ⟨(), if_pos inTest, bind_eq_ok_iff.mpr ⟨key, named, ?_⟩⟩
    refine bind_eq_ok_iff.mpr ⟨attrs, mapM_eq_ok_iff.mpr read, ?_⟩
    exact bind_eq_ok_iff.mpr ⟨(), forM_of_forall passed, rfl⟩

/-- Attributes were written to an object in turn, and each change of a port was reported. -/
structure HasWrittenInTurn (chassis : Chassis) (key : ObjectKey) (attrs : List Attribute)
    (now : UInt64) (outcome : Outcome Chassis (Except Fault Unit)) : Prop where
  answer_eq : outcome.answer = .ok ()
  writes : ∀ {before attr after}, attrs = before ++ attr :: after →
    (chassis.writeInTurn key now before).setOn true key attr now =
      .ok ((), chassis.writeInTurn key now (before ++ [attr]))
  state_eq : outcome.state = chassis.writeInTurn key now attrs
  stored : ∀ {index other stored}, chassis.objectAt? index other = some stored →
    ∃ attributes : Attributes, outcome.state.objectAt? index other = some attributes ∧
      ∀ id, attributes.get? id =
        if index = key.switchId.switchIndex ∧ other = key then
          ((Attribute.find? attrs.reverse id).map AttrValue.normalized).or (stored.get? id)
        else stored.get? id
  notifications_eq : outcome.notifications =
    (attrs.filterMap (Admin.statusChange? key)).map fun change => .portStatusChanges [change]
  reports : ∀ attr ∈ attrs, ∀ change, Admin.statusChange? key attr = some change ↔
    key = .object change.port ∧ change.port.type? = some .port ∧
      attr = ⟨.portOperStatus, .s32 change.status.code⟩

/-- Writing the operational status passes the check only if the object is a port. -/
theorem type?_of_checkWrite {port : ObjectId} {value : AttrValue}
    (passed : chassis.checkWrite true (.object port) ⟨.portOperStatus, value⟩ = .ok ()) :
    port.type? = some .port := by
  obtain ⟨writable, _⟩ := checkWrite_eq_ok_iff.mp passed
  unfold Attribute.checkWritable at writable
  split at writable
  · cases writable
  · next own =>
      have isPort : port.type?.getD .null = .port := (not_not.mp own).symm
      cases typed : port.type? with
      | none =>
          rw [typed] at isPort
          cases isPort
      | some type =>
          rw [typed] at isPort
          exact congrArg some isPort

theorem Grants.hasWrittenInTurn (writes : message.op = Admin.writeOp)
    (inTest : chassis.testMode = true) (grants : chassis.Grants message key attrs) :
    chassis.HasWrittenInTurn key attrs now (chassis.administer message now) := by
  rw [administer_of_taken writes ((checkWrites_eq_ok_iff inTest).mpr grants),
    writeEach_eq grants.passed]
  refine ⟨rfl, ?_, rfl, ?_, rfl, ?_⟩
  · -- What was written before a field has left the check of that field as it was.
    rintro before attr after rfl
    rw [writeInTurn_concat]
    exact setOn_of_checkWrite (checkWrite_writeInTurn (grants.passed attr (by simp)) before)
  · intro index other stored there
    dsimp only
    rw [objectAt?_writeInTurn, there]
    split
    · exact ⟨_, rfl, stored.get?_overwrite attrs⟩
    · exact ⟨_, rfl, fun _ => rfl⟩
  · intro attr member change
    rw [Admin.statusChange?_eq_some_iff]
    constructor
    · rintro ⟨rfl, rfl⟩
      exact ⟨rfl, type?_of_checkWrite (grants.passed _ member), rfl⟩
    · rintro ⟨own, _, same⟩
      exact ⟨own, same⟩

/-- Messages for tests are refused outside of test mode. -/
theorem administer_outside_test (outside : chassis.testMode = false)
    (bypasses : message.op = Admin.writeOp ∨ message.op = Admin.statsOp) :
    chassis.administer message now =
      ⟨.error (.failed (.testModeRequired message.op)), chassis, []⟩ := by
  rcases bypasses with writes | counts
  · rw [administer_of_refused writes (checkWrites_outside_test outside), writes]
  · rw [administer_stats counts, counts]
    unfold writeStats requireTestMode
    rw [outside]
    rfl

/--
After any history, a message that writes attributes in test mode is taken exactly
when its key and all its fields can be read and each attribute passes the check as
things are before the message.  Then no write is refused, the attributes are
written in turn, of several values for one attribute the last one stays, the learned
entries go on to mirror what is stored, and what is reported are the operational
statuses that the attributes give a port, in their order.  A message that is not
taken changes nothing and reports nothing, and outside of test mode none is taken
that writes attributes or sets statistics.
-/
theorem writing_is_a_transaction (settings : Settings) (history : List (UInt64 × Command))
    (message : Message) (now : UInt64) :
    let chassis := (start settings).run history
    let outcome := chassis.administer message now
    (chassis.testMode = true → message.op = Admin.writeOp →
      (outcome.answer = .ok () ↔ ∃ key attrs, chassis.Grants message key attrs) ∧
      (∀ {key attrs}, chassis.Grants message key attrs →
        chassis.HasWrittenInTurn key attrs now outcome) ∧
      (∀ {index switch}, outcome.state.switches.get? index = some switch → switch.Mirrored) ∧
      ∀ {fault}, outcome.answer = .error fault → outcome = ⟨.error fault, chassis, []⟩) ∧
    (chassis.testMode = false → message.op = Admin.writeOp ∨ message.op = Admin.statsOp →
      outcome = ⟨.error (.failed (.testModeRequired message.op)), chassis, []⟩) := by
  intro chassis outcome
  refine ⟨fun inTest writes => ?_, administer_outside_test⟩
  have mirrored : outcome.state.Everywhere fun _ switch => switch.Mirrored := by
    have later : ((start settings).run (history ++ [(now, .administer message)])).Everywhere
        fun _ switch => switch.Mirrored := mirrored_run settings _
    rwa [run_concat] at later
  have written {key : ObjectKey} {attrs : List Attribute}
      (grants : chassis.Grants message key attrs) :
      chassis.HasWrittenInTurn key attrs now outcome :=
    grants.hasWrittenInTurn writes inTest
  have taken : outcome = chassis.writeAll message now := administer_write writes
  unfold writeAll at taken
  cases checked : chassis.checkWrites message with
  | error fault =>
      rw [checked] at taken
      refine ⟨⟨fun answered => ?_, ?_⟩, written, fun there => mirrored there, fun answered => ?_⟩
      · rw [taken] at answered
        cases answered
      · rintro ⟨_, _, grants⟩
        rw [(checkWrites_eq_ok_iff inTest).mpr grants] at checked
        cases checked
      · rw [taken] at answered
        cases answered
        exact taken
  | ok pair =>
      have grants := (checkWrites_eq_ok_iff inTest).mp checked
      refine ⟨⟨fun _ => ⟨_, _, grants⟩, fun _ => (written grants).answer_eq⟩, written,
        fun there => mirrored there, fun answered => ?_⟩
      rw [(written grants).answer_eq] at answered
      cases answered

/-- The front panel port comes up, and then gets a number that is no status. -/
def flaps : List Attribute :=
  [⟨.portOperStatus, .s32 PortOperStatus.up.code⟩, ⟨.portOperStatus, .s32 9⟩]

/-- Both statuses of the port are written, and the one that there is is reported. -/
theorem flaps_are_one_transaction :
    ∃ outcome, ((start .singlePort).run twoCounters).administer
        (writing (.object (.compose 0 .port 3)) flaps) 4 = outcome ∧
      outcome.answer = .ok () ∧
      outcome.notifications = [.portStatusChanges [⟨.compose 0 .port 3, .up⟩]] ∧
      ∃ attrs : Attributes, outcome.state.objectAt? 0 (.object (.compose 0 .port 3)) =
        some attrs ∧ attrs.get? .portOperStatus = some (.s32 9) := by
  have inTest : ((start .singlePort).run twoCounters).testMode = true := by
    decide +kernel
  have there : (((start .singlePort).run twoCounters).objectAt? 0
      (.object (.compose 0 .port 3))).isSome = true := by
    decide +kernel
  obtain ⟨stored, found⟩ := Option.isSome_iff_exists.mp there
  obtain ⟨switch, registered, contained⟩ := objectAt?_eq_some_iff.mp found
  have grants : ((start .singlePort).run twoCounters).Grants
      (writing (.object (.compose 0 .port 3)) flaps) (.object (.compose 0 .port 3)) flaps := by
    refine (checkWrites_eq_ok_iff inTest).mp
      (checkWrites_writing inTest ⟨.port, by decide, by decide⟩ ?_)
    have found : ((start .singlePort).run twoCounters).switches.find
        (ObjectKey.object (.compose 0 .port 3)).switchId = .ok switch :=
      Registry.find_eq_ok_iff.mpr ⟨by decide, registered⟩
    intro attr member
    refine checkWrite_eq_ok_iff.mpr ⟨?_, fun impossible => ?_, switch, found,
      Switch.contains_iff.mpr ⟨stored, contained⟩⟩
    · revert attr
      decide
    · cases impossible
  obtain ⟨accepts, written, _⟩ :=
    (writing_is_a_transaction .singlePort twoCounters
      (writing (.object (.compose 0 .port 3)) flaps) 4).1 inTest rfl
  obtain ⟨attrs, after, values⟩ := (written grants).stored found
  refine ⟨_, rfl, accepts.mpr ⟨_, _, grants⟩, ?_, attrs, after, ?_⟩
  · rw [(written grants).notifications_eq]
    decide +kernel
  · rw [values, if_pos (by decide)]
    rfl

end Chassis

end SwitchAbstraction
