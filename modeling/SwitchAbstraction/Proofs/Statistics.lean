import Mathlib.Data.List.Forall2
import SwitchAbstraction.Proofs.Effects
import SwitchAbstraction.Proofs.LastSteps

/-!
# Statistics

A statistic says what the last message set it to.  It is zero if the object is
new or the statistic was set back since.  No counts outlive their object, so an
object that is created again has none from its earlier life.
-/

namespace SwitchAbstraction

open Results

/-- The last count that a list has for a statistic. -/
def lastCount? (counts : List (Stat × UInt64)) (stat : Stat) : Option UInt64 :=
  OrderedMap.lookup stat counts.reverse

theorem lastCount?_concat {counts : List (Stat × UInt64)} {stat other : Stat} {count : UInt64} :
    lastCount? (counts ++ [(stat, count)]) other =
      if other = stat then some count else lastCount? counts other := by
  unfold lastCount?
  rw [List.reverse_append]
  rfl

theorem lastCount?_zeros {stats : List Stat} {stat : Stat} :
    lastCount? (stats.map fun stat => (stat, 0)) stat = if stat ∈ stats then some 0 else none := by
  induction stats using List.reverseRecOn with
  | nil => rfl
  | append_singleton rest last ih =>
      rw [List.map_append, List.map_singleton, lastCount?_concat, ih]
      by_cases own : stat = last
      · simp [own]
      · simp [own]

namespace Switch

variable {switch next : Switch} {key other : ObjectKey} {now : UInt64} {stat : Stat}

/-! ## Counts -/

theorem counter_setCounter (own : Stat) (count : UInt64) :
    (switch.setCounter key own count).counter other stat =
      if other = key ∧ stat = own then count else switch.counter other stat := by
  unfold setCounter counter
  dsimp only
  rw [OrderedMap.get?_insert]
  by_cases same : other = key
  · subst same
    rw [if_pos rfl, Option.bind_some, OrderedMap.get?_insert]
    by_cases given : stat = own
    · rw [if_pos given, if_pos ⟨rfl, given⟩]
      rfl
    · rw [if_neg given, if_neg fun both => given both.2]
      cases switch.counters.get? other <;> rfl
  · rw [if_neg same, if_neg fun both => same both.1]

/-- Where counts are set one after another, the last one for a statistic stays. -/
theorem counter_setCounters (counts : List (Stat × UInt64)) :
    (switch.setCounters key counts).counter other stat =
      if other = key then (lastCount? counts stat).getD (switch.counter other stat)
      else switch.counter other stat := by
  induction counts using List.reverseRecOn with
  | nil => exact (ite_self _).symm
  | append_singleton rest last ih =>
      unfold setCounters at ih ⊢
      rw [List.foldl_append, List.foldl_cons, List.foldl_nil, counter_setCounter, ih,
        lastCount?_concat]
      by_cases own : other = key
      · by_cases given : stat = last.1
        · simp [own, given]
        · simp [own, given]
      · simp [own]

/-- Counts are kept of stored objects only. -/
def CountsStored (switch : Switch) : Prop :=
  ∀ key counts, switch.counters.get? key = some counts → switch.contains key = true

theorem CountsStored.counter_eq_zero (stored : switch.CountsStored)
    (absent : switch.contains key = false) : switch.counter key stat = 0 := by
  unfold counter
  cases kept : switch.counters.get? key with
  | none => rfl
  | some counts =>
      rw [stored key counts kept] at absent
      cases absent

theorem CountsStored.setCounters (stored : switch.CountsStored)
    (there : switch.contains key = true) (counts : List (Stat × UInt64)) :
    (switch.setCounters key counts).CountsStored := by
  unfold Switch.setCounters
  induction counts generalizing switch with
  | nil => exact stored
  | cons first rest ih =>
      have after : (switch.setCounter key first.1 first.2).CountsStored := by
        intro other given kept
        unfold setCounter at kept
        rw [OrderedMap.get?_insert] at kept
        split at kept
        · next own => exact own ▸ there
        · exact stored other given kept
      exact ih after there

/-! ## Changes that set no counts -/

/-- No counts outlive their object, and what is stored afterwards has the counts that it had. -/
structure KeepsCounts (switch next : Switch) : Prop where
  stored : next.CountsStored
  same : ∀ {key}, next.contains key = true → next.counters.get? key = switch.counters.get? key

theorem CountsStored.keeps_of_eq (stored : switch.CountsStored)
    (same : next.counters = switch.counters)
    (stays : ∀ {key attrs}, switch.object? key = some attrs →
      ∃ attrs, next.object? key = some attrs) : switch.KeepsCounts next where
  stored key counts kept := by
    rw [same] at kept
    obtain ⟨attrs, there⟩ := contains_iff.mp (stored key counts kept)
    exact contains_iff.mpr (stays there)
  same _ := by rw [same]

/-- Dropping objects together with their counts keeps the counts of the others. -/
theorem CountsStored.keeps_without (stored : switch.CountsStored) (gone : ObjectKey → Prop)
    (others : ∀ {key}, ¬ gone key → next.object? key = switch.object? key ∧
      next.counters.get? key = switch.counters.get? key)
    (dropped : ∀ {key}, gone key →
      next.object? key = none ∧ next.counters.get? key = none) : switch.KeepsCounts next where
  stored key counts kept := by
    by_cases out : gone key
    · rw [(dropped out).2] at kept
      cases kept
    · rw [(others out).2] at kept
      rw [contains_iff, (others out).1]
      exact contains_iff.mp (stored key counts kept)
  same {key} there := by
    by_cases out : gone key
    · rw [contains_iff, (dropped out).1] at there
      obtain ⟨_, impossible⟩ := there
      cases impossible
    · exact (others out).2

theorem KeepsCounts.trans {after : Switch} (first : switch.KeepsCounts next)
    (second : next.KeepsCounts after)
    (came : ∀ {key}, after.contains key = true → next.contains key = true) :
    switch.KeepsCounts after where
  stored := second.stored
  same there := (second.same there).trans (first.same (came there))

theorem writeAll_counters (attrs : List Attribute) :
    (switch.writeAll key now attrs).counters = switch.counters := by
  unfold writeAll
  induction attrs generalizing switch with
  | nil => rfl
  | cons attr rest ih => exact ih.trans (write_counters attr)

/-- An object that is added has no counts. -/
theorem CountsStored.keeps_insert (stored : switch.CountsStored) {equipped : Switch}
    {type : ObjectType} {given attrs : Attributes}
    (equips : switch.equip type given = .ok (attrs, equipped))
    (inserted : equipped.insert key attrs = .ok next) : switch.KeepsCounts next := by
  have counters : equipped.counters = switch.counters := by
    rcases equip_eq_ok equips with ⟨_, _, rfl⟩ | ⟨_, _, _, _, _, rfl⟩
    · rfl
    · rfl
  refine stored.keeps_of_eq ((counters_insert inserted).trans counters)
    fun {other before} there => ?_
  rw [object?_insert_of_equip equips inserted]
  split
  · exact ⟨_, rfl⟩
  · exact ⟨before, there⟩

theorem CountsStored.keeps_removeObject (stored : switch.CountsStored)
    (removed : switch.removeObject key = .ok ((), next)) : switch.KeepsCounts next := by
  refine stored.keeps_without (fun other => other = key) ?_ ?_
  · intro other stays
    rw [object?_removeObject removed, counters_removeObject removed, if_neg stays, if_neg stays]
    exact ⟨rfl, rfl⟩
  · intro other gone
    rw [object?_removeObject removed, counters_removeObject removed, if_pos gone, if_pos gone]
    exact ⟨rfl, rfl⟩

theorem CountsStored.keeps_withoutEntries (stored : switch.CountsStored) (gone : FdbKey → Bool) :
    switch.KeepsCounts (switch.withoutEntries gone) := by
  refine stored.keeps_without (fun key => selects gone key = true) ?_ ?_
  · intro key stays
    rw [object?_withoutEntries, counters_withoutEntries, if_neg stays, if_neg stays]
    exact ⟨rfl, rfl⟩
  · intro key out
    rw [object?_withoutEntries, counters_withoutEntries, if_pos out, if_pos out]
    exact ⟨rfl, rfl⟩

/-- An entry that goes takes its counts with it. -/
theorem CountsStored.counters_expire (stored : switch.CountsStored) (entry : FdbKey)
    (other : ObjectKey) :
    (switch.expire entry).counters.get? other =
      if other = .fdb entry then none else switch.counters.get? other := by
  rcases switch.expire_cases entry with ⟨absent, same⟩ | same
  · -- There is no object, and so there are no counts.
    rw [same]
    split
    · next own =>
        subst own
        cases kept : switch.counters.get? (.fdb entry) with
        | none => exact kept
        | some counts =>
            have there := stored _ counts kept
            rw [contains_eq_false_iff.mpr absent] at there
            cases there
    · rfl
  · rw [same]
    exact OrderedMap.get?_erase _ _ _

theorem CountsStored.keeps_expire (stored : switch.CountsStored) (entry : FdbKey) :
    switch.KeepsCounts (switch.expire entry) := by
  refine stored.keeps_without (fun key => key = .fdb entry) ?_ ?_
  · intro key other
    rw [object?_expire, stored.counters_expire, if_neg other, if_neg other]
    exact ⟨rfl, rfl⟩
  · intro key own
    rw [object?_expire, stored.counters_expire, if_pos own, if_pos own]
    exact ⟨rfl, rfl⟩

theorem CountsStored.keeps_expireAll (stored : switch.CountsStored) (keys : List FdbKey) :
    switch.KeepsCounts (switch.expireAll keys).2 := by
  induction keys generalizing switch with
  | nil => exact ⟨stored, fun _ => rfl⟩
  | cons entry rest ih =>
      have first := stored.keeps_expire entry
      refine first.trans (ih first.stored) fun {key} there => ?_
      obtain ⟨attrs, found⟩ := contains_iff.mp there
      exact contains_iff.mpr ⟨attrs, stored_before_expireAll found⟩

end Switch

/-! ## Changes -/

/-- A change sets the counts that its command says, or keeps all counts. -/
theorem Switch.CountsStored.change {now : UInt64} {command : Command} {switch next : Switch}
    {id : ObjectId} (stored : switch.CountsStored) (change : Change now command switch id next) :
    switch.KeepsCounts next ∧ command.counted? = none ∨
      ∃ key counts, command.counted? = some (key, counts) ∧ switch.contains key = true ∧
        next = switch.setCounters key counts := by
  have idle (quiet : ∀ key, ¬ command.Edits key) : command.counted? = none := by
    cases counts : command.counted? with
    | none => rfl
    | some given => exact absurd (.count counts) (quiet given.1)
  cases change with
  | remove named removed =>
      exact .inl ⟨stored.keeps_removeObject removed,
        idle fun _ => Command.not_edits_of_removed? named⟩
  | write named =>
      refine .inl ⟨stored.keeps_of_eq (writeAll_counters _) ?_, Command.counted?_of_written? named⟩
      intro key attrs there
      rw [object?_writeAll, there]
      split
      · exact ⟨_, rfl⟩
      · exact ⟨attrs, rfl⟩
  | refresh named =>
      refine .inl ⟨stored.keeps_of_eq refresh_frame.2.2.1 ?_,
        idle fun _ => Command.not_edits_of_readKey? named⟩
      intro key attrs there
      rw [object?_refresh, there]
      split
      · exact ⟨_, rfl⟩
      · exact ⟨attrs, rfl⟩
  | addEntry named _ added =>
      subst named
      refine .inl ⟨stored.keeps_of_eq (counters_addEntry added) ?_, rfl⟩
      intro key attrs there
      rw [object?_addEntry added]
      split
      · exact ⟨_, rfl⟩
      · exact ⟨attrs, there⟩
  | count named there => exact .inr ⟨_, _, named, there, rfl⟩
  | flush named =>
      subst named
      exact .inl ⟨stored.keeps_withoutEntries _, rfl⟩
  | learn named learned =>
      subst named
      exact .inl ⟨stored.keeps_of_eq (counters_learn learned) (stored_after_learn learned), rfl⟩

namespace Chassis

variable {chassis : Chassis} {now : UInt64} {command : Command} {key : ObjectKey} {stat : Stat}
  {index : UInt8} {next : Switch} {log : List ObjectId}

/-- What a step does to the counts of the switch that is registered at an index after it. -/
inductive Recounts (chassis : Chassis) (now : UInt64) (command : Command) (index : UInt8)
    (next : Switch) : Prop
  | kept {switch : Switch} (before : chassis.switches.get? index = some switch)
      (keeps : switch.KeepsCounts next)
      (quiet : ∀ {key counts}, command.counted? = some (key, counts) →
        key.switchId.switchIndex = index → ¬ chassis.Accepts now command)
  | set {switch : Switch} {key : ObjectKey} {counts : List (Stat × UInt64)}
      (before : chassis.switches.get? index = some switch)
      (accepted : chassis.Accepts now command)
      (named : command.counted? = some (key, counts)) (there : switch.contains key = true)
      (same : next = switch.setCounters key counts)
  | fresh (absent : chassis.switches.get? index = none) (none : next.counters = ∅)

theorem Ledger.recounts (ledger : Ledger log chassis)
    (stored : chassis.Everywhere fun _ switch => switch.CountsStored)
    (registered : (chassis.step now command).switches.get? index = some next) :
    Recounts chassis now command index next := by
  cases ledger.became registered with
  | same before idle =>
      exact .kept before ⟨stored before, fun _ => rfl⟩ fun counts own => idle (.count counts) own
  | changed before own accepted change =>
      rcases (stored before).change change with
        ⟨keeps, quiet⟩ | ⟨key, counts, named, there, same⟩
      · refine .kept before keeps fun counts => ?_
        rw [quiet] at counts
        cases counts
      · have edits : command.Edits key := .count named
        exact .set before (accepted edits.readKey?_eq_none) named there same
  | grown before named equips inserted =>
      subst named
      exact .kept before ((stored before).keeps_insert equips inserted) nofun
  | built absent named built =>
      exact .fresh absent (Bootstrap.run_eq_ok built).counters_eq
  | aged named before same =>
      subst named same
      exact .kept before ((stored before).keeps_expireAll _) nofun

theorem Recounts.countsStored
    (stored : chassis.Everywhere fun _ switch => switch.CountsStored)
    (recounts : Recounts chassis now command index next) : next.CountsStored := by
  cases recounts with
  | kept _ keeps => exact keeps.stored
  | set before _ _ there same =>
      rw [same]
      exact (stored before).setCounters there _
  | fresh _ none =>
      intro key counts kept
      rw [none] at kept
      cases kept

/-- Along every run, counts are kept of stored objects only. -/
theorem countsStored_run (settings : Settings) (history : List (UInt64 × Command)) :
    ((start settings).run history).Everywhere fun _ switch => switch.CountsStored := by
  induction history using List.reverseRecOn with
  | nil =>
      intro index switch registered
      cases registered
  | append_singleton past entry ih =>
      obtain ⟨now, command⟩ := entry
      intro index switch registered
      rw [run_concat] at registered
      exact ((ledger_run settings past).recounts ih registered).countsStored ih

/-- An object that is new has no counts, whatever was there before. -/
theorem Recounts.counter_of_absent
    (stored : chassis.Everywhere fun _ switch => switch.CountsStored)
    (recounts : Recounts chassis now command index next)
    (absent : chassis.objectAt? index key = none) (there : next.contains key = true) :
    next.counter key stat = 0 := by
  have missing {switch : Switch} (before : chassis.switches.get? index = some switch) :
      switch.contains key = false := by
    rw [objectAt?_of_get? before] at absent
    exact Switch.contains_eq_false_iff.mpr absent
  cases recounts with
  | @kept switch before keeps =>
      have same : next.counter key stat = switch.counter key stat := by
        unfold Switch.counter
        rw [keeps.same there]
      rw [same]
      exact (stored before).counter_eq_zero (missing before)
  | @set switch own counts before _ _ found same =>
      have objects : next.contains key = switch.contains key := by
        rw [same, Switch.contains_setCounters]
      rw [objects, missing before] at there
      cases there
  | fresh _ none =>
      unfold Switch.counter
      rw [none]
      rfl

/-! ## Steps that set a statistic -/

/--
A step sets a statistic of an object to a count: to zero if the object is new
or the statistic is set back, and to what a message says last.
-/
inductive SetsCount (key : ObjectKey) (stat : Stat) (chassis : Chassis) (now : UInt64)
    (command : Command) : UInt64 → Prop
  | created (creates : Creates key.switchId.switchIndex key chassis now command) :
      SetsCount key stat chassis now command 0
  | cleared {stats : List Stat} (accepted : chassis.Accepts now command)
      (named : command.cleared? = some (key, stats)) (listed : stat ∈ stats) :
      SetsCount key stat chassis now command 0
  | written {message : Message} {counts : List (Stat × UInt64)} {count : UInt64}
      (accepted : chassis.Accepts now command) (sent : command = .administer message)
      (named : command.counted? = some (key, counts))
      (last : lastCount? counts stat = some count) : SetsCount key stat chassis now command count

/-- A statistic is set by the step that creates its object, or by counts that are given. -/
theorem setsCount_iff {count : UInt64} :
    SetsCount key stat chassis now command count ↔
      Creates key.switchId.switchIndex key chassis now command ∧ count = 0 ∨
        chassis.Accepts now command ∧ ∃ counts, command.counted? = some (key, counts) ∧
          lastCount? counts stat = some count := by
  constructor
  · intro sets
    cases sets with
    | created creates => exact .inl ⟨creates, rfl⟩
    | @cleared stats accepted named listed =>
        have zeros : command.counted? = some (key, stats.map fun stat => (stat, 0)) := by
          cases command with
          | administer | learn | age => cases named
          | call call =>
              change (Command.call call).cleared?.map _ = _
              rw [named]
              rfl
        exact .inr ⟨accepted, _, zeros, lastCount?_zeros.trans (if_pos listed)⟩
    | written accepted _ named last => exact .inr ⟨accepted, _, named, last⟩
  · rintro (⟨creates, rfl⟩ | ⟨accepted, counts, named, last⟩)
    · exact .created creates
    · cases command with
      | administer message => exact .written accepted rfl named last
      | learn | age => cases named
      | call call =>
          obtain ⟨⟨_, stats⟩, cleared, same⟩ := Option.map_eq_some_iff.mp named
          cases same
          rw [lastCount?_zeros] at last
          split at last
          · next listed =>
              cases last
              exact .cleared accepted cleared listed
          · cases last

/-- A command that sets statistics is only accepted if their object is stored. -/
theorem objectAt?_of_counted {counts : List (Stat × UInt64)}
    (accepted : chassis.Accepts now command) (named : command.counted? = some (key, counts)) :
    ∃ attrs, chassis.objectAt? key.switchId.switchIndex key = some attrs := by
  have edits : command.Edits key := .count named
  have effect := @step_effect chassis now command
  generalize chassis.step now command = next at effect
  cases effect with
  | none _ idle => exact absurd accepted (idle edits)
  | change found _ change =>
      cases change with
      | count given there =>
          rw [named] at given
          cases given
          rw [objectAt?_of_get? (Registry.find_eq_ok_iff.mp found).2]
          exact Switch.contains_iff.mp there
      | remove other => exact absurd edits (Command.not_edits_of_removed? other)
      | refresh other => exact absurd edits (Command.not_edits_of_readKey? other)
      | write other =>
          rw [Command.counted?_of_written? other] at named
          cases named
      | addEntry other | flush other | learn other =>
          subst other
          cases named
  | createObject other | createSwitch other | removeSwitch other | age other =>
      subst other
      cases named

/-- A step sets a statistic of an object to one count at most. -/
theorem SetsCount.unique {first second : UInt64}
    (sets : SetsCount key stat chassis now command first)
    (again : SetsCount key stat chassis now command second) : first = second := by
  have old {counts : List (Stat × UInt64)} (accepted : chassis.Accepts now command)
      (named : command.counted? = some (key, counts)) :
      ¬ Creates key.switchId.switchIndex key chassis now command := by
    rintro ⟨absent, _⟩
    obtain ⟨attrs, there⟩ := objectAt?_of_counted accepted named
    rw [absent] at there
    cases there
  rcases setsCount_iff.mp sets with ⟨creates, rfl⟩ | ⟨accepted, counts, named, last⟩
  · rcases setsCount_iff.mp again with ⟨_, rfl⟩ | ⟨accepted, _, named, _⟩
    · rfl
    · exact absurd creates (old accepted named)
  · rcases setsCount_iff.mp again with ⟨creates, _⟩ | ⟨_, others, given, final⟩
    · exact absurd creates (old accepted named)
    · rw [named] at given
      cases given
      exact Option.some.inj (last.symm.trans final)

/-- A stored object has a count for a statistic. -/
def HasCount (chassis : Chassis) (key : ObjectKey) (stat : Stat) (count : UInt64) : Prop :=
  ∃ switch, chassis.switches.get? key.switchId.switchIndex = some switch ∧
    switch.contains key = true ∧ switch.counter key stat = count

/-- A step sets a statistic of an object that was stored before by counts that it is given. -/
theorem SetsCount.given {count : UInt64} (sets : SetsCount key stat chassis now command count)
    {attrs : Attributes}
    (before : chassis.objectAt? key.switchId.switchIndex key = some attrs) :
    chassis.Accepts now command ∧ ∃ counts, command.counted? = some (key, counts) ∧
      lastCount? counts stat = some count := by
  rcases setsCount_iff.mp sets with ⟨⟨absent, _⟩, _⟩ | given
  · rw [absent] at before
    cases before
  · exact given

/-- Where counts are set, each statistic of a stored object is set, or keeps its count. -/
theorem hasCount_of_set {switch : Switch} {own : ObjectKey} {counts : List (Stat × UInt64)}
    (was : chassis.switches.get? key.switchId.switchIndex = some switch)
    (accepted : chassis.Accepts now command) (named : command.counted? = some (own, counts))
    {attrs : Attributes} (there : switch.object? key = some attrs) :
    (∃ count, SetsCount key stat chassis now command count) ∧
        SetsCount key stat chassis now command ((switch.setCounters own counts).counter key stat) ∨
      (¬ ∃ count, SetsCount key stat chassis now command count) ∧
        chassis.HasCount key stat ((switch.setCounters own counts).counter key stat) := by
  have earlier : chassis.HasCount key stat (switch.counter key stat) :=
    ⟨switch, was, Switch.contains_iff.mpr ⟨attrs, there⟩, rfl⟩
  have only {count : UInt64} (sets : SetsCount key stat chassis now command count) :
      key = own ∧ lastCount? counts stat = some count := by
    obtain ⟨_, others, given, last⟩ := sets.given ((objectAt?_of_get? was).trans there)
    rw [named] at given
    cases given
    exact ⟨rfl, last⟩
  rw [Switch.counter_setCounters]
  split
  · next mine =>
      subst mine
      cases last : lastCount? counts stat with
      | some count =>
          have sets : SetsCount key stat chassis now command count :=
            setsCount_iff.mpr (.inr ⟨accepted, counts, named, last⟩)
          exact .inl ⟨⟨count, sets⟩, sets⟩
      | none =>
          refine .inr ⟨?_, earlier⟩
          rintro ⟨count, sets⟩
          rw [last] at only
          cases (only sets).2
  · next other => exact .inr ⟨fun ⟨_, sets⟩ => other (only sets).1, earlier⟩

/-- A step sets a statistic, or leaves the count that it had. -/
theorem Ledger.hasCount_step (ledger : Ledger log chassis)
    (stored : chassis.Everywhere fun _ switch => switch.CountsStored) {count : UInt64}
    (shown : (chassis.step now command).HasCount key stat count) :
    (∃ count, SetsCount key stat chassis now command count) ∧
        SetsCount key stat chassis now command count ∨
      (¬ ∃ count, SetsCount key stat chassis now command count) ∧
        chassis.HasCount key stat count := by
  obtain ⟨next, registered, there, rfl⟩ := shown
  have recounts := ledger.recounts stored registered
  cases before : chassis.objectAt? key.switchId.switchIndex key with
  | none =>
      have after : ∃ attrs, (chassis.step now command).objectAt? key.switchId.switchIndex key =
          some attrs := by
        rw [objectAt?_of_get? registered]
        exact Switch.contains_iff.mp there
      rw [recounts.counter_of_absent stored before there]
      have created : SetsCount key stat chassis now command 0 := .created ⟨before, after⟩
      exact .inl ⟨⟨0, created⟩, created⟩
  | some attrs =>
      cases recounts with
      | @kept switch was keeps quiet =>
          have kept : switch.contains key = true :=
            Switch.contains_iff.mpr ⟨attrs, (objectAt?_of_get? was).symm.trans before⟩
          refine .inr ⟨?_, switch, was, kept, ?_⟩
          · rintro ⟨count, sets⟩
            obtain ⟨accepted, counts, named, _⟩ := sets.given before
            exact quiet named rfl accepted
          · unfold Switch.counter
            rw [keeps.same there]
      | set was accepted named found same =>
          rw [same]
          exact hasCount_of_set was accepted named ((objectAt?_of_get? was).symm.trans before)
      | fresh absent =>
          unfold objectAt? at before
          rw [absent] at before
          cases before

/-! ## Reading -/

variable {type : ObjectType} {id : ObjectId} {stats : List Stat}

/-- Statistics of a stored object can be read, and reading them changes nothing. -/
theorem readStats_of_stored {switch : Switch} (typed : id.type? = some type)
    (addressed : type.isIdAddressed = true)
    (found : chassis.switches.find (ObjectKey.object id).switchId = .ok switch)
    (there : switch.contains (.object id) = true)
    (own : ∀ stat ∈ stats, stat.objectType = type) :
    chassis.readStats type id stats .read =
      .ok (stats.map (switch.counter (.object id)), chassis) := by
  have real : type ≠ .null := by
    rintro rfl
    cases addressed
  have familiar : (stats.find? fun stat => stat.objectType ≠ type) = none := by
    refine List.find?_eq_none.mpr fun stat member => ?_
    simp [own stat member]
  have keyed : statsKey type id stats = .ok (.object id) := by
    unfold statsKey ObjectKey.ofTypedId
    rw [(ObjectId.expectType_eq_ok_iff real).mpr typed, ofId_of_typed typed addressed, familiar]
    rfl
  have read : switch.readStats (.object id) stats .read =
      .ok (stats.map (switch.counter (.object id)), switch) := by
    unfold Switch.readStats
    rw [Switch.require_eq_ok_iff.mpr there]
    rfl
  unfold readStats
  rw [keyed, ok_bind]
  refine onSwitch_eq_ok_iff.mpr ⟨switch, switch, found, read, ?_⟩
  rw [put_of_get? (Registry.find_eq_ok_iff.mp found).2]

/-- The three ways to ask for statistics are refused alike, or tell and change what they should. -/
theorem readStats_cases (chassis : Chassis) (type : ObjectType) (id : ObjectId)
    (stats : List Stat) :
    (∃ fault, (∀ mode, chassis.readStats type id stats mode = .error fault) ∧
      chassis.clearStats type id stats = .error fault) ∨
    ∃ counts next, chassis.readStats type id stats .read = .ok (counts, chassis) ∧
      chassis.readStats type id stats .readAndClear = .ok (counts, next) ∧
      chassis.clearStats type id stats = .ok ((), next) := by
  unfold readStats clearStats
  cases statsKey type id stats with
  | error fault => exact .inl ⟨fault, fun _ => rfl, rfl⟩
  | ok key =>
      simp only [ok_bind]
      unfold onSwitch Switch.readStats Switch.clearStats
      cases found : chassis.switches.find key.switchId with
      | error fault => exact .inl ⟨fault, fun _ => rfl, rfl⟩
      | ok switch =>
          dsimp only
          cases switch.require key with
          | error fault => exact .inl ⟨fault, fun _ => rfl, rfl⟩
          | ok _ =>
              have unchanged : chassis.put key.switchId switch = chassis :=
                put_of_get? (Registry.find_eq_ok_iff.mp found).2
              refine .inr ⟨stats.map (switch.counter key),
                chassis.put key.switchId (switch.clearCounters key stats), ?_, rfl, rfl⟩
              exact congrArg (fun next => Except.ok (_, next)) unchanged

/--
Reading and clearing answers as reading does, and leaves behind what reading
and then clearing does, also where they are refused.
-/
theorem perform_readAndClear (chassis : Chassis) (now later : UInt64) (type : ObjectType)
    (id : ObjectId) (stats : List Stat) :
    (chassis.perform now (.readStats type id stats .readAndClear)).answer =
        (chassis.perform now (.readStats type id stats .read)).answer ∧
      (chassis.perform now (.readStats type id stats .readAndClear)).state =
        ((chassis.perform now (.readStats type id stats .read)).state.perform later
          (.clearStats type id stats)).state := by
  have read (mode : StatsMode) : chassis.perform now (.readStats type id stats mode) =
      chassis.settled (chassis.readStats type id stats mode) (answerOf .counted) := rfl
  have clear : chassis.perform later (.clearStats type id stats) =
      chassis.settled (chassis.clearStats type id stats) (answerOf done) := rfl
  rw [read, read]
  rcases readStats_cases chassis type id stats with
    ⟨fault, refused, alike⟩ | ⟨counts, next, plain, both, cleared⟩
  · rw [refused, refused]
    change _ ∧ chassis = (chassis.perform later _).state
    rw [clear, alike]
    exact ⟨rfl, rfl⟩
  · rw [plain, both]
    change _ ∧ next = (chassis.perform later _).state
    rw [clear, cleared]
    exact ⟨rfl, rfl⟩

/-! ## Runs -/

/--
A count is the one that was set last: the last step of the history that set the
statistic of the object to anything set it to this count, and to no other.
-/
def IsLastCount (settings : Settings) (history : List (UInt64 × Command)) (key : ObjectKey)
    (stat : Stat) (count : UInt64) : Prop :=
  ∃ past now command later,
    LastStep (start settings)
      (fun chassis now command => ∃ count, SetsCount key stat chassis now command count)
      history past now command later ∧
    ∀ given, SetsCount key stat ((start settings).run past) now command given ↔ given = count

theorem isLastCount_run (settings : Settings) (history : List (UInt64 × Command))
    {count : UInt64} (shown : ((start settings).run history).HasCount key stat count) :
    IsLastCount settings history key stat count := by
  obtain ⟨past, now, command, later, last, sets⟩ :=
    @exists_lastStep (start settings)
      (fun chassis now command => ∃ count, SetsCount key stat chassis now command count) history
      UInt64 (fun chassis count => chassis.HasCount key stat count)
      (fun chassis now command count => SetsCount key stat chassis now command count)
      (fun _ ⟨_, impossible, _⟩ => nomatch impossible)
      (fun {past _ _ _ _} _ shown =>
        (ledger_run settings past).hasCount_step (countsStored_run settings past) shown)
      count shown
  refine ⟨past, now, command, later, last, fun given => ⟨fun again => again.unique sets, ?_⟩⟩
  rintro rfl
  exact sets

/--
Each statistic of each object that is addressed by an id can be read at any
time, and reads as the count that it was set to last: what the last message
set it to, or zero if the object is new or the statistic was set back since.
Reading and clearing at once is reading and then clearing.  Counts are kept of
stored objects only, entries among them, so whatever is created, be it again,
starts from zero.
-/
theorem statistics_are_last_counts (settings : Settings) (history : List (UInt64 × Command)) :
    (∀ {index switch id attrs},
      ((start settings).run history).switches.get? index = some switch →
      switch.object? (.object id) = some attrs →
      ∃ type, id.type? = some type ∧
        ∀ {now stats}, (∀ stat ∈ stats, Stat.objectType stat = type) →
          ∃ counts, (((start settings).run history).perform now
              (.readStats type id stats .read)).answer.result = .ok (.counted counts) ∧
            List.Forall₂ (IsLastCount settings history (.object id)) stats counts) ∧
    (∀ (chassis : Chassis) now later type id stats,
      (chassis.perform now (.readStats type id stats .readAndClear)).answer =
          (chassis.perform now (.readStats type id stats .read)).answer ∧
        (chassis.perform now (.readStats type id stats .readAndClear)).state =
          ((chassis.perform now (.readStats type id stats .read)).state.perform later
            (.clearStats type id stats)).state) ∧
    (∀ {index switch key counts},
      ((start settings).run history).switches.get? index = some switch →
      switch.counters.get? key = some counts → switch.contains key = true) ∧
    ∀ {now command index switch key},
      (((start settings).run history).step now command).switches.get? index = some switch →
      Creates index key ((start settings).run history) now command →
      ∀ stat, switch.counter key stat = 0 := by
  have stored : ((start settings).run history).Everywhere fun _ switch => switch.CountsStored :=
    countsStored_run settings history
  refine ⟨?_, perform_readAndClear, fun registered => stored registered _ _, ?_⟩
  · intro index switch id attrs registered there
    have typed : switch.IsTyped :=
      Switch.isKept_isTyped.run settings (fun _ _ => trivial) registered
    obtain ⟨isType, addressed⟩ := (typed _ attrs there).1.type_eq rfl
    have found := find_of_stored settings history registered there
    obtain ⟨_, own⟩ := Registry.find_eq_ok_iff.mp found
    have contained := Switch.contains_iff.mpr ⟨attrs, there⟩
    refine ⟨_, isType, fun {now stats} ofType => ?_⟩
    have read := readStats_of_stored isType addressed found contained ofType
    refine ⟨stats.map (switch.counter (.object id)), ?_, ?_⟩
    · change (((start settings).run history).settled _ (answerOf .counted)).answer.result = _
      rw [read]
      rfl
    · rw [List.forall₂_map_right_iff]
      exact List.forall₂_same.mpr fun stat _ =>
        isLastCount_run settings history ⟨switch, own, contained, rfl⟩
  · intro now command index switch key registered creates stat
    obtain ⟨absent, attrs, created⟩ := creates
    rw [objectAt?_of_get? registered] at created
    exact ((ledger_run settings history).recounts stored registered).counter_of_absent stored
      absent (Switch.contains_iff.mpr ⟨attrs, created⟩)

/-- A message that sets the octets of the front panel port of the first switch, twice. -/
def octetsMessage : Message :=
  ⟨Admin.statsOp, (ObjectKey.object (.compose 0 .port 3)).text,
    [(Stat.portIfInOctets.name, "9"), (Stat.portIfInOctets.name, "7")]⟩

/-- A port whose octets are set in test mode, while others are set back. -/
def countedPort : List (UInt64 × Command) :=
  [(0, .call (.create .switch .null [])), (1, .administer ⟨Admin.testModeOp, "true", []⟩),
    (2, .administer octetsMessage),
    (3, .call (.clearStats .port (.compose 0 .port 3) [.portIfOutOctets]))]

theorem octets_of_countedPort :
    IsLastCount .singlePort countedPort (.object (.compose 0 .port 3)) .portIfInOctets 7 := by
  have there : (((start .singlePort).run countedPort).objectAt? 0
      (.object (.compose 0 .port 3))).isSome = true := by
    decide +kernel
  obtain ⟨attrs, found⟩ := Option.isSome_iff_exists.mp there
  obtain ⟨switch, registered, stored⟩ := objectAt?_eq_some_iff.mp found
  obtain ⟨type, typed, reads⟩ :=
    (statistics_are_last_counts .singlePort countedPort).1 registered stored
  have own : type = .port := Option.some.inj (typed.symm.trans (by decide))
  subst own
  obtain ⟨counts, answer, last⟩ := @reads 4 [.portIfInOctets] (by decide)
  have read : (((start .singlePort).run countedPort).perform 4 (.readStats .port
      (.compose 0 .port 3) [.portIfInOctets] .read)).answer.result = .ok (.counted [7]) := by
    decide +kernel
  rw [read] at answer
  cases answer
  cases last with
  | cons first _ => exact first

end Chassis

end SwitchAbstraction
