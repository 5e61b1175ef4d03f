import SwitchAbstraction.Proofs.Effects
import SwitchAbstraction.Proofs.ForwardingEvents
import SwitchAbstraction.Proofs.LastSteps

/-!
# When an entry was learned

The index knows of each dynamic entry when its life began.  It begins anew when
the address is seen, when the entry is created as dynamic and when it turns
from static to dynamic.  Nothing else moves that time, whatever the clock does.
-/

namespace SwitchAbstraction

/-! ## Types of entries -/

namespace Attributes

variable {stored : Attributes} {attr : Attribute} {rest : List Attribute}

/-- The attributes are those of a forwarding entry of a type. -/
def HasEntryType (attrs : Attributes) (type : FdbEntryType) : Prop :=
  attrs.get? .fdbEntryType = some (.s32 type.code)

/-- Storing the values of attributes, one after another, makes a static entry dynamic. -/
def TurnsDynamic (stored : Attributes) (written : List Attribute) : Prop :=
  ∃ earlier later, written = earlier ++ ⟨.fdbEntryType, .s32 FdbEntryType.dynamic.code⟩ :: later ∧
    (stored.overwrite earlier).HasEntryType .static

theorem not_turnsDynamic_nil : ¬ stored.TurnsDynamic [] := by
  rintro ⟨earlier, later, split, _⟩
  cases earlier <;> cases split

theorem turnsDynamic_cons :
    stored.TurnsDynamic (attr :: rest) ↔
      attr = ⟨.fdbEntryType, .s32 FdbEntryType.dynamic.code⟩ ∧ stored.HasEntryType .static ∨
        TurnsDynamic (stored.insert attr.id attr.value.normalized) rest := by
  constructor
  · rintro ⟨earlier, later, split, static⟩
    cases earlier with
    | nil =>
        cases split
        exact .inl ⟨rfl, static⟩
    | cons first others =>
        cases split
        exact .inr ⟨others, later, rfl, static⟩
  · rintro (⟨rfl, static⟩ | ⟨earlier, later, rfl, static⟩)
    · exact ⟨[], rest, rfl, static⟩
    · exact ⟨attr :: earlier, later, rfl, static⟩

theorem not_isDynamic_of_static (static : stored.HasEntryType .static) :
    ¬ Switch.isDynamic stored = true := by
  rw [isDynamic_iff, static]
  decide

/-- An entry that is not dynamic is static. -/
theorem IsEntry.static (entry : stored.IsEntry) (other : ¬ Switch.isDynamic stored = true) :
    stored.HasEntryType .static := by
  obtain ⟨type, typed⟩ := entry.typed
  cases type with
  | dynamic => exact absurd (isDynamic_iff.mpr typed) other
  | static => exact typed

/-- A value that makes an entry dynamic was stored for its type. -/
theorem eq_of_isDynamic (other : ¬ Switch.isDynamic stored = true)
    (typed : attr.id = .fdbEntryType → ∃ type, FdbEntryType.ofValue attr.value = .ok type)
    (dynamic : Switch.isDynamic (stored.insert attr.id attr.value.normalized) = true) :
    attr = ⟨.fdbEntryType, .s32 FdbEntryType.dynamic.code⟩ := by
  rw [isDynamic_iff] at other dynamic
  rw [OrderedMap.get?_insert] at dynamic
  obtain ⟨id, value⟩ := attr
  split at dynamic
  · next own =>
      cases own
      obtain ⟨type, read⟩ := typed rfl
      cases FdbEntryType.ofValue_eq_ok read
      cases type with
      | dynamic => rfl
      | static => exact absurd dynamic (by decide)
  · exact absurd dynamic other

/-- What is stored as the type of a new dynamic entry was given. -/
theorem mem_of_isDynamic_ofList {given : List Attribute}
    (dynamic : Switch.isDynamic (ofList given) = true) :
    ⟨.fdbEntryType, .s32 FdbEntryType.dynamic.code⟩ ∈ given := by
  obtain ⟨⟨id, value⟩, member, own, same⟩ := get?_ofList_eq_some (isDynamic_iff.mp dynamic)
  cases own
  cases value with
  | s32 raw =>
      cases same
      exact member
  | _ => cases same

end Attributes

/-! ## The index of one switch -/

namespace Switch

variable {switch next : Switch} {key : FdbKey} {object : ObjectKey} {now time : UInt64}

/-- When the life of an entry began, if it is in the index. -/
def learnTime? (switch : Switch) (key : FdbKey) : Option UInt64 :=
  (switch.learned.get? key).map LearnedEntry.learnedAt

theorem learnTime?_congr (same : next.learned.get? key = switch.learned.get? key) :
    next.learnTime? key = switch.learnTime? key := by
  unfold learnTime?
  rw [same]

/-- The index keeps the time of an entry that it knows, and takes now for one that it does not. -/
theorem learnTime?_syncLearned :
    (switch.syncLearned key now).learnTime? key =
      ((switch.object? (.fdb key)).filter isDynamic).map fun _ =>
        (switch.learnTime? key).getD now := by
  unfold learnTime? syncLearned
  split
  · next passive =>
      rw [passive, OrderedMap.get?_erase, if_pos rfl]
      rfl
  · next attrs dynamic =>
      rw [dynamic, OrderedMap.get?_insert_self]
      rfl

/-- The index knows a stored entry if it is dynamic. -/
theorem Mirrored.isSome_learnTime? (mirrored : switch.Mirrored) {stored : Attributes}
    (there : switch.object? (.fdb key) = some stored) :
    (switch.learnTime? key).isSome = isDynamic stored := by
  have record := congrArg Option.isSome (mirrored key).record
  unfold learnTime?
  rw [Option.isSome_map] at record ⊢
  rw [record, Option.isSome_map, there]
  cases is : isDynamic stored <;> simp [is]

/-- The index does not know what is not stored. -/
theorem Mirrored.learnTime?_eq_none (mirrored : switch.Mirrored)
    (absent : switch.object? (.fdb key) = none) : switch.learnTime? key = none := by
  have record := (mirrored key).record
  rw [absent] at record
  unfold learnTime?
  rw [Option.map_eq_none_iff.mp record]
  rfl

theorem Mirrored.learnTime?_of_static (mirrored : switch.Mirrored) {stored : Attributes}
    (there : switch.object? (.fdb key) = some stored) (static : stored.HasEntryType .static) :
    switch.learnTime? key = none := by
  have known := mirrored.isSome_learnTime? there
  rw [Bool.eq_false_iff.mpr (Attributes.not_isDynamic_of_static static)] at known
  exact Option.isSome_eq_false_iff.mp known |> Option.isNone_iff_eq_none.mp

/-! ### Changes to other objects -/

theorem learned_settle_of_ne (other : object ≠ .fdb key) :
    (switch.settle object now).learned.get? key = switch.learned.get? key := by
  cases object with
  | fdb entry => exact learned_syncLearned_of_ne fun same => other (congrArg _ same.symm)
  | object | route | neighbor => rfl

theorem learned_writeAll_of_ne (other : object ≠ .fdb key) (attrs : List Attribute) :
    (switch.writeAll object now attrs).learned.get? key = switch.learned.get? key := by
  unfold writeAll
  induction attrs generalizing switch with
  | nil => rfl
  | cons attr rest ih => exact ih.trans (learned_settle_of_ne other)

theorem learned_addEntry_of_ne (other : object ≠ .fdb key) {attrs : Attributes}
    (added : switch.addEntry object attrs now = .ok ((), next)) :
    next.learned.get? key = switch.learned.get? key := by
  obtain ⟨stored, inserted, rfl⟩ := addEntry_eq_ok added
  rw [← learned_insert inserted]
  split
  · exact learned_settle_of_ne other
  · rfl

theorem learned_learn_of_ne {entry : FdbKey} (other : key ≠ entry) {port : ObjectId}
    {events : List FdbEvent} (learned : switch.learn entry port now = .ok (events, next)) :
    next.learned.get? key = switch.learned.get? key := by
  rcases learn_eq_ok learned with ⟨_, added⟩ | ⟨_, _, _, _, rfl⟩
  · obtain ⟨stored, inserted, rfl⟩ := Results.map_eq_ok_iff.mp added
    rw [learned_syncLearned_of_ne other, learned_insert inserted]
  · split
    · rfl
    · unfold moveLearned
      rw [learned_syncLearned_of_ne other, learned_forgetLearned, if_neg other]
      rfl

/-- What the index says of an entry after aging it said before. -/
theorem learned_before_expireAll {keys : List FdbKey} {record : LearnedEntry}
    (known : (switch.expireAll keys).2.learned.get? key = some record) :
    switch.learned.get? key = some record := by
  induction keys generalizing switch with
  | nil => exact known
  | cons first rest ih =>
      have later := ih known
      rw [learned_expire] at later
      split at later
      · cases later
      · exact later

/-! ### Changes to the entry itself -/

/-- The value of one attribute makes a static entry dynamic now, or leaves the time as it was. -/
theorem Mirrored.learnTime?_write (mirrored : switch.Mirrored) {stored : Attributes}
    {attr : Attribute} (there : switch.object? (.fdb key) = some stored)
    (typed : attr.id = .fdbEntryType → ∃ type, FdbEntryType.ofValue attr.value = .ok type)
    (known : (switch.write (.fdb key) attr now).learnTime? key = some time) :
    attr = ⟨.fdbEntryType, .s32 FdbEntryType.dynamic.code⟩ ∧ stored.HasEntryType .static ∧
        time = now ∨
      ¬ stored.HasEntryType .static ∧ switch.learnTime? key = some time := by
  change ((switch.setAttr (.fdb key) attr.id attr.value.normalized).syncLearned key
    now).learnTime? key = some time at known
  rw [learnTime?_syncLearned, object?_setAttr, if_pos rfl, there] at known
  obtain ⟨attrs, kept, same⟩ := Option.map_eq_some_iff.mp known
  obtain ⟨written, dynamic⟩ := Option.filter_eq_some_iff.mp kept
  cases written
  change (switch.learnTime? key).getD now = time at same
  by_cases before : isDynamic stored = true
  · obtain ⟨earlier, was⟩ : ∃ earlier, switch.learnTime? key = some earlier :=
      Option.isSome_iff_exists.mp ((mirrored.isSome_learnTime? there).trans before)
    rw [was] at same ⊢
    exact .inr ⟨fun static => Attributes.not_isDynamic_of_static static before,
      congrArg some same⟩
  · have static := ((mirrored key).isEntry there).static before
    rw [mirrored.learnTime?_of_static there static] at same
    exact .inl ⟨Attributes.eq_of_isDynamic before typed dynamic, static, same.symm⟩

/--
Where values of attributes are stored, one after another, the time of an entry
is now if it turns dynamic on the way, and what it was if it does not.
-/
theorem Mirrored.learnTime?_writeAll (mirrored : switch.Mirrored) {stored : Attributes}
    {attrs : List Attribute} {readOnly : Bool}
    (there : switch.object? (.fdb key) = some stored)
    (writable : ∀ attr ∈ attrs, attr.checkWritable .fdbEntry readOnly = .ok ())
    (typed : ∀ attr ∈ attrs, attr.id = .fdbEntryType →
      ∃ type, FdbEntryType.ofValue attr.value = .ok type)
    (known : (switch.writeAll (.fdb key) now attrs).learnTime? key = some time) :
    stored.TurnsDynamic attrs ∧ time = now ∨
      ¬ stored.TurnsDynamic attrs ∧ switch.learnTime? key = some time := by
  induction attrs generalizing switch stored with
  | nil => exact .inr ⟨Attributes.not_turnsDynamic_nil, known⟩
  | cons attr rest ih =>
      have own := typed attr List.mem_cons_self
      have kept : (switch.write (.fdb key) attr now).Mirrored :=
        mirrored.write (writable attr List.mem_cons_self) fun _ => own
      have written : (switch.write (.fdb key) attr now).object? (.fdb key) =
          some (stored.insert attr.id attr.value.normalized) := by
        rw [object?_write, if_pos rfl, there]
        rfl
      have later := ih kept written
        (fun other member => writable other (List.mem_cons_of_mem _ member))
        (fun other member => typed other (List.mem_cons_of_mem _ member)) known
      rw [Attributes.turnsDynamic_cons]
      rcases later with ⟨turns, same⟩ | ⟨stays, after⟩
      · exact .inl ⟨.inr turns, same⟩
      · rcases mirrored.learnTime?_write there own after with
          ⟨given, static, same⟩ | ⟨other, before⟩
        · exact .inl ⟨.inl ⟨given, static⟩, same⟩
        · refine .inr ⟨?_, before⟩
          rintro (⟨_, static⟩ | turns)
          · exact other static
          · exact stays turns

/-- A created entry that the index knows was given as dynamic, and is known from now on. -/
theorem Mirrored.learnTime?_addEntry (mirrored : switch.Mirrored) {given : List Attribute}
    (added : switch.addEntry (.fdb key) (.ofList given) now = .ok ((), next))
    (known : next.learnTime? key = some time) :
    ⟨.fdbEntryType, .s32 FdbEntryType.dynamic.code⟩ ∈ given ∧ time = now := by
  obtain ⟨stored, inserted, same⟩ := addEntry_eq_ok added
  obtain ⟨absent, _⟩ := insert_eq_ok_iff.mp inserted
  have unknown : stored.learnTime? key = none :=
    (learnTime?_congr (congrArg (OrderedMap.get? · key) (learned_insert inserted))).trans
      (mirrored.learnTime?_eq_none absent)
  split at same
  · next dynamic =>
      subst same
      rw [show stored.settle (.fdb key) now = stored.syncLearned key now from rfl,
        learnTime?_syncLearned, unknown] at known
      obtain ⟨_, _, now⟩ := Option.map_eq_some_iff.mp known
      exact ⟨Attributes.mem_of_isDynamic_ofList dynamic, now.symm⟩
  · subst same
    rw [unknown] at known
    cases known

/-- An entry that the index knows after it was seen was not static, and is known from now on. -/
theorem Mirrored.learnTime?_learn (mirrored : switch.Mirrored) {port : ObjectId}
    {events : List FdbEvent} (learned : switch.learn key port now = .ok (events, next))
    (known : next.learnTime? key = some time) :
    (∀ stored, switch.object? (.fdb key) = some stored → stored.HasEntryType .dynamic) ∧
      time = now := by
  -- The index forgets the entry before it is brought in line, so its life begins now.
  have anew {before : Switch} (forgotten : before.learnTime? key = none)
      (known : (before.syncLearned key now).learnTime? key = some time) : time = now := by
    rw [learnTime?_syncLearned, forgotten] at known
    obtain ⟨_, _, same⟩ := Option.map_eq_some_iff.mp known
    exact same.symm
  rcases learn_eq_ok learned with ⟨absent, added⟩ | ⟨stored, given, there, read, rfl⟩
  · obtain ⟨stored, inserted, rfl⟩ := Results.map_eq_ok_iff.mp added
    refine ⟨fun _ impossible => ?_, anew ?_ known⟩
    · rw [absent] at impossible
      cases impossible
    · exact (learnTime?_congr (congrArg (OrderedMap.get? · key) (learned_insert inserted))).trans
        (mirrored.learnTime?_eq_none absent)
  · obtain ⟨type, typed⟩ := ((mirrored key).isEntry there).typed
    have own : given = some type := by
      rw [typed] at read
      cases type with
      | dynamic | static => exact (Except.ok.inj read).symm
    subst own
    cases type with
    | static =>
        rw [if_pos rfl, mirrored.learnTime?_of_static there typed] at known
        cases known
    | dynamic =>
        rw [if_neg (by decide)] at known
        refine ⟨fun other same => ?_, anew ?_ known⟩
        · rw [there] at same
          cases same
          exact typed
        · unfold learnTime?
          rw [learned_forgetLearned, if_pos rfl]
          rfl

end Switch

/-! ## Commands -/

/--
A command begins the life of an entry anew, given what is stored of the entry:
it is seen without being static, created as dynamic, or written so that it
turns from static to dynamic.
-/
inductive Command.Restarts (key : FdbKey) (before : Option Attributes) : Command → Prop
  | learn (port : ObjectId)
      (fresh : ∀ stored, before = some stored → stored.HasEntryType .dynamic) :
      Restarts key before (.learn key port)
  | create {attrs : List Attribute}
      (dynamic : ⟨.fdbEntryType, .s32 FdbEntryType.dynamic.code⟩ ∈ attrs) :
      Restarts key before (.call (.createEntry (.fdb key) attrs))
  | write {command : Command} {stored : Attributes} {attrs : List Attribute}
      (named : command.written? = some (.fdb key, attrs)) (there : before = some stored)
      (turns : stored.TurnsDynamic attrs) : Restarts key before command

variable {command : Command} {key : FdbKey}

theorem Command.Restarts.edits {before : Option Attributes}
    (restarts : command.Restarts key before) : command.Edits (.fdb key) := by
  cases restarts with
  | learn port => exact .learn key port
  | create => exact .addEntry _ _
  | write named _ turns =>
      refine .write named fun none => ?_
      subst none
      exact Attributes.not_turnsDynamic_nil turns

/-- After a change the index says now of an entry whose life began anew, and else what it said. -/
theorem Switch.Mirrored.learnTime?_change {switch next : Switch} {now time : UInt64}
    {id : ObjectId} (mirrored : switch.Mirrored) (change : Change now command switch id next)
    (known : next.learnTime? key = some time) :
    command.Restarts key (switch.object? (.fdb key)) ∧ time = now ∨
      ¬ command.Restarts key (switch.object? (.fdb key)) ∧ switch.learnTime? key = some time := by
  have quiet (idle : ¬ command.Edits (.fdb key))
      (same : next.learned.get? key = switch.learned.get? key) :
      ¬ command.Restarts key (switch.object? (.fdb key)) ∧
        switch.learnTime? key = some time := by
    rw [← learnTime?_congr same]
    exact ⟨fun restarts => idle restarts.edits, known⟩
  have stays : ¬ next.learned.get? key = none := by
    intro forgotten
    unfold learnTime? at known
    rw [forgotten] at known
    cases known
  cases change with
  | remove named removed =>
      have same := learned_removeObject removed key
      split at same
      · exact absurd same stays
      · exact .inr (quiet (Command.not_edits_of_removed? named) same)
  | refresh named =>
      refine .inr (quiet (Command.not_edits_of_readKey? named) ?_)
      rw [refresh_frame.2.1]
  | flush named =>
      subst named
      change ¬ (switch.withoutEntries _).learned.get? key = none at stays
      refine .inr (quiet (Command.not_edits nofun nofun rfl rfl) ?_)
      change (switch.withoutEntries _).learned.get? key = _
      rw [learned_withoutEntries] at stays ⊢
      exact if_neg fun gone => stays (if_pos gone)
  | count named =>
      rw [learnTime?_congr (congrArg (OrderedMap.get? · key) (setCounters_frame _).2.1)] at known
      refine .inr ⟨fun restarts => ?_, known⟩
      cases restarts with
      | learn | create => cases named
      | write writes =>
          rw [Command.counted?_of_written? writes] at named
          cases named
  | @write object attrs named writable typed stored =>
      by_cases own : object = .fdb key
      · subst own
        obtain ⟨before, there⟩ := contains_iff.mp stored
        have writes : command.Restarts key (switch.object? (.fdb key)) ↔
            before.TurnsDynamic attrs := by
          constructor
          · intro restarts
            cases restarts with
            | learn | create => cases named
            | write same found turns =>
                rw [named] at same
                rw [there] at found
                cases same
                cases found
                exact turns
          · exact .write named there
        rw [writes]
        exact mirrored.learnTime?_writeAll there writable (fun attr member => typed attr member rfl)
          known
      · exact .inr (quiet (fun edits => own (edits.eq_of_written? named).symm)
          (learned_writeAll_of_ne own attrs))
  | @addEntry object given _ named passed added =>
      subst named
      by_cases own : object = .fdb key
      · subst own
        obtain ⟨dynamic, same⟩ := mirrored.learnTime?_addEntry added known
        exact .inl ⟨.create dynamic, same⟩
      · refine .inr (quiet (fun edits => ?_) (learned_addEntry_of_ne own added))
        cases edits with
        | addEntry => exact own rfl
        | write named | count named => cases named
  | @learn entry port _ _ named learned =>
      subst named
      by_cases own : key = entry
      · subst own
        obtain ⟨fresh, same⟩ := mirrored.learnTime?_learn learned known
        exact .inl ⟨.learn port fresh, same⟩
      · refine .inr (quiet (fun edits => ?_) (learned_learn_of_ne own learned))
        cases edits with
        | learn => exact own rfl
        | write named | count named => cases named

namespace Chassis

variable {chassis : Chassis} {now time : UInt64}

/-- When the life of an entry began, if the index of its switch knows it. -/
def learnTime? (chassis : Chassis) (key : FdbKey) : Option UInt64 :=
  (chassis.switches.get? key.switchId.switchIndex).bind fun switch => switch.learnTime? key

/-- A command is accepted and begins the life of an entry anew. -/
def Restarts (key : FdbKey) (chassis : Chassis) (now : UInt64) (command : Command) : Prop :=
  chassis.Accepts now command ∧
    command.Restarts key (chassis.objectAt? key.switchId.switchIndex (.fdb key))

/-- After a step the index says now of an entry whose life began anew, and else what it said. -/
theorem Ledger.learnTime?_step {log : List ObjectId} (ledger : Ledger log chassis)
    (mirrored : chassis.Everywhere fun _ switch => switch.Mirrored)
    (known : (chassis.step now command).learnTime? key = some time) :
    Restarts key chassis now command ∧ time = now ∨
      ¬ Restarts key chassis now command ∧ chassis.learnTime? key = some time := by
  obtain ⟨next, registered, after⟩ := Option.bind_eq_some_iff.mp known
  have was {switch : Switch}
      (before : chassis.switches.get? key.switchId.switchIndex = some switch) :
      chassis.learnTime? key = switch.learnTime? key := by
    unfold learnTime?
    rw [before]
    rfl
  have quiet (idle : ¬ command.Edits (.fdb key)) : ¬ Restarts key chassis now command :=
    fun restarts => idle restarts.2.edits
  cases ledger.became registered with
  | same before idle =>
      rw [was before]
      exact .inr ⟨fun ⟨accepted, restarts⟩ => idle restarts.edits rfl accepted, after⟩
  | changed before own accepted change =>
      unfold Restarts
      rw [was before, objectAt?_of_get? before]
      rcases (mirrored before).learnTime?_change change after with ⟨restarts, same⟩ | ⟨stays, same⟩
      · refine .inl ⟨⟨accepted ?_, restarts⟩, same⟩
        cases read : command.readKey? with
        | none => rfl
        | some _ => exact absurd restarts.edits (Command.not_edits_of_readKey? read)
      · exact .inr ⟨fun restarts => stays restarts.2, same⟩
  | grown before named equips inserted =>
      subst named
      have learned := (Switch.learned_insert inserted).trans (Switch.equip_objects equips).2.1
      rw [Switch.learnTime?_congr (congrArg (OrderedMap.get? · key) learned)] at after
      rw [was before]
      exact .inr ⟨quiet (Command.not_edits nofun nofun rfl rfl), after⟩
  | built absent named built =>
      unfold Switch.learnTime? at after
      rw [(Bootstrap.run_eq_ok built).learned_eq] at after
      cases after
  | aged named before same =>
      subst named same
      rw [was before]
      obtain ⟨record, aged, same⟩ := Option.map_eq_some_iff.mp after
      have earlier := Switch.learned_before_expireAll aged
      refine .inr ⟨quiet (Command.not_edits nofun nofun rfl rfl), ?_⟩
      unfold Switch.learnTime?
      rw [earlier, ← same]
      rfl

/-! ## Runs -/

variable (settings : Settings) (history : List (UInt64 × Command))

/-- Each switch that is registered after a run has an index that mirrors its entries. -/
theorem mirrored_run :
    ((start settings).run history).Everywhere fun _ switch => switch.Mirrored :=
  Switch.isKept_mirrored.run settings fun _ _ => trivial

/-- The index of a switch says of an entry what the chassis does. -/
theorem learnTime?_of_record {index : UInt8} {switch : Switch}
    (registered : ((start settings).run history).switches.get? index = some switch)
    {record : LearnedEntry} (known : switch.learned.get? key = some record) :
    ((start settings).run history).learnTime? key = some record.learnedAt := by
  obtain rfl := recordsOwn_run settings history registered known
  unfold learnTime? Switch.learnTime?
  rw [registered, Option.bind_some, known, Option.map_some]

/--
Whenever the index of a switch knows an entry, the life of the entry began at
the last step that began it anew: that the address was seen while the entry was
absent or dynamic, that it was created as dynamic, or that it was written to be
dynamic while it was static.  A step that does none of these leaves the time of
each entry that the index knows after it as it was.  The clock may read
anything at each step.
-/
theorem learned_at_last_restart :
    (∀ {index switch key record},
      ((start settings).run history).switches.get? index = some switch →
      switch.learned.get? key = some record →
      ∃ past now command later,
        LastStep (start settings) (Restarts key) history past now command later ∧
        record.learnedAt = now) ∧
    ∀ {now command index next key record},
      (((start settings).run history).step now command).switches.get? index = some next →
      next.learned.get? key = some record →
      ¬ Restarts key ((start settings).run history) now command →
      ∃ switch earlier, ((start settings).run history).switches.get? index = some switch ∧
        switch.learned.get? key = some earlier ∧ earlier.learnedAt = record.learnedAt := by
  have step (past : List (UInt64 × Command)) {now : UInt64} {command : Command} {key : FdbKey}
      {time : UInt64} (known : (((start settings).run past).step now command).learnTime? key =
        some time) :=
    (ledger_run settings past).learnTime?_step (mirrored_run settings past) known
  constructor
  · intro index switch key record registered known
    exact @exists_lastStep (start settings) (Restarts key) history UInt64
      (fun chassis time => chassis.learnTime? key = some time) (fun _ now _ time => time = now)
      (fun _ impossible => nomatch impossible) (fun {past _ _ _ _} _ known => step past known)
      record.learnedAt (learnTime?_of_record settings history registered known)
  · intro now command index next key record registered known quiet
    rw [← run_concat] at registered
    obtain rfl := recordsOwn_run settings _ registered known
    have after := learnTime?_of_record settings _ registered known
    rw [run_concat] at after
    rcases step history after with ⟨restarts, _⟩ | ⟨_, before⟩
    · exact absurd restarts quiet
    · obtain ⟨switch, there, time⟩ := Option.bind_eq_some_iff.mp before
      obtain ⟨earlier, record, same⟩ := Option.map_eq_some_iff.mp time
      exact ⟨switch, earlier, there, record, same⟩

/-- An entry of the default VLAN of the first switch. -/
def seenEntry : FdbKey :=
  ⟨.ofSwitchIndex 0, .zero, .compose 0 .vlan 1⟩

/-- An entry that turns static and dynamic again, while the clock is put back. -/
def bornAgain : List (UInt64 × Command) :=
  [(9, .call (.create .switch .null [])), (20, .learn seenEntry (.compose 0 .bridgePort 6)),
    (7, .call (.setEntry (.fdb seenEntry) ⟨.fdbEntryType, .s32 FdbEntryType.static.code⟩)),
    (3, .call (.setEntry (.fdb seenEntry) ⟨.fdbEntryType, .s32 FdbEntryType.dynamic.code⟩)),
    (8, .call (.setEntry (.fdb seenEntry) ⟨.fdbEntryType, .s32 FdbEntryType.dynamic.code⟩))]

theorem learned_at_last_restart_of_bornAgain :
    ∃ past command later,
      LastStep (start .singlePort) (Restarts seenEntry) bornAgain past 3 command later := by
  have time : ((start .singlePort).run bornAgain).learnTime? seenEntry = some 3 := by
    decide +kernel
  obtain ⟨switch, registered, known⟩ := Option.bind_eq_some_iff.mp time
  obtain ⟨record, recorded, same⟩ := Option.map_eq_some_iff.mp known
  obtain ⟨past, now, command, later, last, own⟩ :=
    (learned_at_last_restart .singlePort bornAgain).1 registered recorded
  obtain rfl : 3 = now := same.symm.trans own
  exact ⟨past, command, later, last⟩

end Chassis

end SwitchAbstraction
