import SwitchAbstraction.Proofs.Moves

/-!
# Objects that come and go

An edit keeps the id of its switch and adds no object but an entry, under the
key that its command names.  Aging only takes objects away.
-/

namespace SwitchAbstraction

namespace Switch

variable {switch next : Switch} {key : ObjectKey} {attrs : Attributes} {now : UInt64}

theorem object?_addLearned {entry : FdbKey} {port : ObjectId}
    (added : switch.addLearned entry port now = .ok next) (other : ObjectKey) :
    next.object? other =
      if other = .fdb entry then some (learnedAttributes port) else switch.object? other := by
  obtain ⟨stored, inserted, rfl⟩ := Results.map_eq_ok_iff.mp added
  rw [object?_syncLearned, object?_insert inserted]

theorem id_addLearned {entry : FdbKey} {port : ObjectId}
    (added : switch.addLearned entry port now = .ok next) : next.id = switch.id := by
  obtain ⟨stored, inserted, rfl⟩ := Results.map_eq_ok_iff.mp added
  rw [syncLearned_id, id_insert inserted]

theorem object?_moveLearned (entry : FdbKey) (port : ObjectId) (other : ObjectKey) :
    (switch.moveLearned entry port now).object? other =
      if other = .fdb entry then
        (switch.object? other).map (·.insert .fdbEntryBridgePortId (.oid port))
      else switch.object? other := by
  unfold moveLearned
  rw [object?_syncLearned, object?_forgetLearned, object?_setAttr]

theorem moveLearned_id (entry : FdbKey) (port : ObjectId) :
    (switch.moveLearned entry port now).id = switch.id := by
  unfold moveLearned
  rw [syncLearned_id]
  rfl

/-- A new entry is added; of a stored one, a static stays as it is and a dynamic is moved. -/
theorem learn_eq_ok {entry : FdbKey} {port : ObjectId} {events : List FdbEvent}
    (learned : switch.learn entry port now = .ok (events, next)) :
    switch.object? (.fdb entry) = none ∧ switch.addLearned entry port now = .ok next ∨
      ∃ stored type, switch.object? (.fdb entry) = some stored ∧
        (stored.get? .fdbEntryType).mapM FdbEntryType.ofValue = .ok type ∧
        next = if type = some .static then switch else switch.moveLearned entry port now := by
  unfold learn at learned
  split at learned
  · cases learned
  · split at learned
    · next absent =>
        obtain ⟨added, done, same⟩ := Results.map_eq_ok_iff.mp learned
        cases same
        exact .inl ⟨absent, done⟩
    · next stored there =>
        refine .inr ⟨stored, ?_⟩
        split at learned
        · cases learned
        · next read =>
            cases learned
            exact ⟨_, there, read, (if_pos rfl).symm⟩
        · next other read =>
            cases learned
            exact ⟨_, there, read, (if_neg other).symm⟩

/-- Learning touches no object but the entry that is learned. -/
theorem object?_learn_of_ne {entry : FdbKey} {port : ObjectId} {events : List FdbEvent}
    (learned : switch.learn entry port now = .ok (events, next)) {other : ObjectKey}
    (different : other ≠ .fdb entry) : next.object? other = switch.object? other := by
  rcases learn_eq_ok learned with ⟨_, added⟩ | ⟨_, _, _, _, rfl⟩
  · rw [object?_addLearned added, if_neg different]
  · split
    · rfl
    · rw [object?_moveLearned, if_neg different]

theorem stored_before_learn {entry : FdbKey} {port : ObjectId} {events : List FdbEvent}
    (learned : switch.learn entry port now = .ok (events, next))
    (stored : next.object? key = some attrs) :
    (∃ before, switch.object? key = some before) ∨ key = .fdb entry := by
  by_cases own : key = .fdb entry
  · exact .inr own
  · rw [object?_learn_of_ne learned own] at stored
    exact .inl ⟨attrs, stored⟩

theorem id_learn {entry : FdbKey} {port : ObjectId} {events : List FdbEvent}
    (learned : switch.learn entry port now = .ok (events, next)) : next.id = switch.id := by
  rcases learn_eq_ok learned with ⟨_, added⟩ | ⟨_, _, _, _, rfl⟩
  · exact id_addLearned added
  · split
    · rfl
    · exact moveLearned_id entry port

theorem debugCounters_learn {entry : FdbKey} {port : ObjectId} {events : List FdbEvent}
    (learned : switch.learn entry port now = .ok (events, next)) :
    next.debugCounters = switch.debugCounters := by
  rcases learn_eq_ok learned with ⟨_, added⟩ | ⟨_, _, _, _, rfl⟩
  · obtain ⟨stored, inserted, rfl⟩ := Results.map_eq_ok_iff.mp added
    rw [syncLearned_debugCounters, debugCounters_insert inserted]
  · split
    · rfl
    · exact syncLearned_debugCounters entry

theorem counters_learn {entry : FdbKey} {port : ObjectId} {events : List FdbEvent}
    (learned : switch.learn entry port now = .ok (events, next)) :
    next.counters = switch.counters := by
  rcases learn_eq_ok learned with ⟨_, added⟩ | ⟨_, _, _, _, rfl⟩
  · obtain ⟨stored, inserted, rfl⟩ := Results.map_eq_ok_iff.mp added
    rw [syncLearned_counters, counters_insert inserted]
  · split
    · rfl
    · exact syncLearned_counters entry

/-- Learning takes no object away. -/
theorem stored_after_learn {entry : FdbKey} {port : ObjectId} {events : List FdbEvent}
    (learned : switch.learn entry port now = .ok (events, next))
    (stored : switch.object? key = some attrs) : ∃ after, next.object? key = some after := by
  rcases learn_eq_ok learned with ⟨_, added⟩ | ⟨_, _, _, _, rfl⟩
  · rw [object?_addLearned added]
    split
    · exact ⟨_, rfl⟩
    · exact ⟨attrs, stored⟩
  · split
    · exact ⟨attrs, stored⟩
    · rw [object?_moveLearned, stored]
      split
      · exact ⟨_, rfl⟩
      · exact ⟨attrs, rfl⟩

/-- Expiry forgets the record of an entry, and erases what is stored and counted for it, if any. -/
theorem expire_cases (switch : Switch) (entry : FdbKey) :
    (switch.object? (.fdb entry) = none ∧ switch.expire entry = switch.forgetLearned entry) ∨
      switch.expire entry =
        { switch.forgetLearned entry with
          objects := switch.objects.erase (.fdb entry)
          counters := switch.counters.erase (.fdb entry) } := by
  unfold expire
  dsimp only
  cases taken : (switch.forgetLearned entry).remove? (.fdb entry) with
  | some pair => exact .inr (remove?_eq_some_iff.mp taken).2
  | none => exact .inl ⟨Option.map_eq_none_iff.mp taken, rfl⟩

theorem object?_expire (entry : FdbKey) (other : ObjectKey) :
    (switch.expire entry).object? other =
      if other = .fdb entry then none else switch.object? other := by
  rcases switch.expire_cases entry with ⟨absent, same⟩ | same
  · rw [same, object?_forgetLearned]
    split
    · next own => rw [own, absent]
    · rfl
  · rw [same]
    exact OrderedMap.get?_erase _ _ _

theorem expire_id (entry : FdbKey) : (switch.expire entry).id = switch.id := by
  rcases switch.expire_cases entry with ⟨_, same⟩ | same
  · rw [same]
    rfl
  · rw [same]
    rfl

theorem expire_debugCounters (entry : FdbKey) :
    (switch.expire entry).debugCounters = switch.debugCounters := by
  rcases switch.expire_cases entry with ⟨_, same⟩ | same
  · rw [same]
    rfl
  · rw [same]
    rfl

theorem stored_before_expireAll {keys : List FdbKey}
    (stored : (switch.expireAll keys).2.object? key = some attrs) :
    switch.object? key = some attrs := by
  induction keys generalizing switch with
  | nil => exact stored
  | cons entry rest ih =>
      have later := ih stored
      rw [object?_expire] at later
      split at later
      · cases later
      · exact later

theorem expireAll_id (keys : List FdbKey) : (switch.expireAll keys).2.id = switch.id := by
  induction keys generalizing switch with
  | nil => rfl
  | cons entry rest ih => exact ih.trans (expire_id entry)

theorem expireAll_debugCounters (keys : List FdbKey) :
    (switch.expireAll keys).2.debugCounters = switch.debugCounters := by
  induction keys generalizing switch with
  | nil => rfl
  | cons entry rest ih => exact ih.trans (expire_debugCounters entry)

/-- Aging takes away forwarding entries only. -/
theorem object?_expireAll_of_ne {other : ObjectKey} (different : ∀ entry, other ≠ .fdb entry)
    (keys : List FdbKey) : (switch.expireAll keys).2.object? other = switch.object? other := by
  induction keys generalizing switch with
  | nil => rfl
  | cons entry rest ih =>
      refine ih.trans ?_
      rw [object?_expire, if_neg (different entry)]

end Switch

namespace Edit

open Switch

variable {now : UInt64} {command : Command} {owner : ObjectId} {switch next : Switch}

/-- What is stored after an edit was stored before it, or is the entry that its command names. -/
theorem stored_before (edit : Edit now command owner switch next) {key : ObjectKey}
    {attrs : Attributes} (stored : next.object? key = some attrs) :
    (∃ before, switch.object? key = some before) ∨
      (command.entered? = some key ∧ key.switchId = owner ∧ key.id? = none) := by
  cases edit with
  | remove _ removed =>
      left
      rw [object?_removeObject removed] at stored
      split at stored
      · cases stored
      · exact ⟨attrs, stored⟩
  | write _ _ _ _ =>
      left
      rw [object?_write] at stored
      split at stored
      · obtain ⟨before, there, _⟩ := Option.map_eq_some_iff.mp stored
        exact ⟨before, there⟩
      · exact ⟨attrs, stored⟩
  | refresh _ =>
      left
      rw [object?_refresh] at stored
      split at stored
      · obtain ⟨before, there, _⟩ := Option.map_eq_some_iff.mp stored
        exact ⟨before, there⟩
      · exact ⟨attrs, stored⟩
  | addEntry entered owned passed added =>
      rw [object?_addEntry added] at stored
      split at stored
      · next own =>
          obtain ⟨_, isEntry, _⟩ := Results.bind_eq_ok_iff.mp passed
          rw [own]
          exact .inr ⟨entered, owned, (ObjectKey.checkEntry_eq_ok isEntry).1⟩
      · exact .inl ⟨attrs, stored⟩
  | count counts _ =>
      rw [object?_setCounters] at stored
      exact .inl ⟨attrs, stored⟩
  | flush filter =>
      left
      change (switch.withoutEntries _).object? key = some attrs at stored
      rw [object?_withoutEntries] at stored
      split at stored
      · cases stored
      · exact ⟨attrs, stored⟩
  | learn entered owned learned =>
      rcases stored_before_learn learned stored with before | rfl
      · exact .inl before
      · exact .inr ⟨entered, owned, rfl⟩

theorem id_eq (edit : Edit now command owner switch next) : next.id = switch.id := by
  cases edit with
  | remove _ removed => exact id_removeObject removed
  | write _ _ _ _ => exact write_id _
  | refresh _ => exact refresh_frame.1
  | addEntry _ _ _ added => exact id_addEntry added
  | count counts _ => exact (setCounters_frame counts).2.2
  | flush filter => rfl
  | learn _ _ learned => exact id_learn learned

end Edit

end SwitchAbstraction
