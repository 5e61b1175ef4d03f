import SwitchAbstraction.Proofs.Ledger

/-!
# Creations by id

A creation answers with an id that it has handed out, puts a new switch where
none is registered, and is never refused because its id is taken.
-/

namespace SwitchAbstraction

open Results

/-! ## Why checks refuse -/

namespace Attribute

theorem checkKind_status {attr : Attribute} {fault : Fault}
    (refused : attr.checkKind = .error fault) : fault.status = .invalidParameter := by
  unfold checkKind at refused
  split at refused
  · cases refused
  · cases refused
    rfl

theorem checkWritable_status {type : ObjectType} {readOnly : Bool} {attr : Attribute}
    {fault : Fault} (refused : attr.checkWritable type readOnly = .error fault) :
    fault.status = .invalidParameter := by
  unfold checkWritable at refused
  split at refused
  · cases refused
    rfl
  · split at refused
    · next kind =>
        cases refused
        exact checkKind_status kind
    · split at refused
      · cases refused
        rfl
      · cases refused

theorem checkAll_status {type : ObjectType} {readOnly : Bool} {seen : List AttrId}
    {attrs : List Attribute} {fault : Fault}
    (refused : checkAll type readOnly seen attrs = .error fault) :
    fault.status = .invalidParameter := by
  induction attrs generalizing seen with
  | nil => cases refused
  | cons attr rest ih =>
      unfold checkAll at refused
      split at refused
      · next writable =>
          cases refused
          exact checkWritable_status writable
      · split at refused
        · cases refused
          rfl
        · exact ih refused

end Attribute

namespace Chassis

variable {settings : Settings} {chassis next : Chassis} {id : ObjectId} {log : List ObjectId}

theorem checkCreate_status {type : ObjectType} {attrs : List Attribute} {fault : Fault}
    (refused : checkCreate type attrs = .error fault) :
    fault.status = .notImplemented ∨ fault.status = .invalidParameter := by
  unfold checkCreate ObjectType.checkModelled at refused
  split at refused
  · exact .inr (Attribute.checkAll_status refused)
  · cases refused
    exact .inl rfl

theorem expectType_status {expected : ObjectType} {fault : Fault}
    (refused : id.expectType expected = .error fault) :
    fault.status = .invalidParameter ∨ fault.status = .invalidObjectId := by
  unfold ObjectId.expectType at refused
  split at refused
  · cases refused
    exact .inl rfl
  · split at refused
    · split at refused
      · cases refused
      · cases refused
        exact .inr rfl
    · cases refused
      exact .inr rfl

theorem find_status {registry : Registry} {fault : Fault}
    (missed : registry.find id = .error fault) :
    fault.status = .invalidParameter ∨ fault.status = .invalidObjectId ∨
      fault.status = .itemNotFound := by
  unfold Registry.find at missed
  split at missed
  · next other =>
      cases missed
      rcases expectType_status (map_eq_error_iff.mp other) with status | status
      · exact .inl status
      · exact .inr (.inl status)
  · split at missed
    · cases missed
    · cases missed
      exact .inr (.inr rfl)

/-! ## What a creation does -/

/-- All that is known of a new switch. -/
theorem createSwitch_eq_ok {attrs : List Attribute}
    (created : chassis.createSwitch attrs = (.ok id, next)) :
    ∃ index indexes switch ids, chassis.indexes.allocate = .ok (index, indexes) ∧
      (chassis.bootstrap index attrs).run = (.ok switch, ids) ∧ id = .ofSwitchIndex index ∧
      next = { chassis with ids, indexes, switches := chassis.switches.insert index switch } := by
  unfold createSwitch at created
  split at created
  · cases (Prod.mk.inj created).1
  · next index indexes taken =>
      split at created
      · cases (Prod.mk.inj created).1
      · next switch ids done =>
          obtain ⟨same, rfl⟩ := Prod.mk.inj created
          cases same
          have own := (Bootstrap.run_eq_ok done).id_eq
          exact ⟨index, indexes, switch, ids, taken, done, own, rfl⟩

/-- A creation answers with an id that it has handed out. -/
theorem mem_issued_of_create {type : ObjectType} {owner : ObjectId} {attrs : List Attribute}
    (created : chassis.create type owner attrs = (.ok id, next)) :
    id ∈ chassis.issuedFor type owner attrs := by
  unfold issuedFor
  by_cases kind : type = .switch
  · rw [if_pos kind]
    obtain ⟨passed, made, _⟩ := create_eq_ok created
    obtain ⟨index, indexes, _, _, taken, _, rfl, _⟩ := createSwitch_eq_ok (made kind)
    rw [passed, taken]
    exact List.mem_cons_self
  · rw [if_neg kind, created]
    exact List.mem_cons_self

/-- A new switch is registered where none was, and leaves the others in their places. -/
theorem Ledger.create_switch (ledger : Ledger log chassis) {owner : ObjectId}
    {attrs : List Attribute}
    (created : chassis.create .switch owner attrs = (.ok id, next)) :
    chassis.switches.get? id.switchIndex = none ∧
      (∃ switch, next.switches.get? id.switchIndex = some switch) ∧
      ∀ index, index ≠ id.switchIndex →
        next.switches.get? index = chassis.switches.get? index := by
  obtain ⟨_, made, _⟩ := create_eq_ok created
  obtain ⟨index, indexes, switch, ids, taken, _, rfl, rfl⟩ := createSwitch_eq_ok (made rfl)
  rw [ObjectId.switchIndex_ofSwitchIndex]
  refine ⟨ledger.get?_of_allocate taken, ?_, ?_⟩
  · exact ⟨switch, OrderedMap.get?_insert_self _ _ _⟩
  · intro other different
    exact (OrderedMap.get?_insert _ _ _ _).trans (if_neg different)

/-! ## Why a creation is refused -/

theorem createSwitch_status {attrs : List Attribute} {fault : Fault}
    (refused : chassis.createSwitch attrs = (.error fault, next)) : fault.status = .failure := by
  unfold createSwitch at refused
  split at refused
  · next exhausted =>
      unfold SwitchIndexPool.allocate at exhausted
      split at exhausted
      · cases exhausted
        cases (Prod.mk.inj refused).1
        rfl
      · cases exhausted
  · split at refused
    · next done =>
        rw [Bootstrap.run_eq_error done] at refused
        cases (Prod.mk.inj refused).1
        rfl
    · cases (Prod.mk.inj refused).1

theorem equip_status {switch : Switch} {type : ObjectType} {attrs : Attributes} {fault : Fault}
    (refused : switch.equip type attrs = .error fault) : fault.status = .failure := by
  unfold Switch.equip at refused
  split at refused
  · have exhausted := map_eq_error_iff.mp refused
    unfold DebugCounterPool.allocate at exhausted
    split at exhausted
    · cases exhausted
    · cases exhausted
      rfl
  · cases refused

/-- An id that was just drawn is not taken. -/
theorem Ledger.object?_of_drawn (ledger : Ledger log chassis) {type : ObjectType}
    (counted : type.isCounted = true) {index : UInt8} {switch : Switch} {drawn : ObjectId}
    {ids : IdAllocator} (registered : chassis.switches.get? index = some switch)
    (taken : chassis.ids.allocate index type = .ok (drawn, ids)) :
    switch.object? (.object drawn) = none := by
  obtain ⟨isDrawn, _⟩ := IdAllocator.isDrawn_of_allocate counted taken
  cases found : switch.object? (.object drawn) with
  | none => rfl
  | some attrs =>
      have names : chassis.Names drawn := by
        refine ⟨switch, attrs, ?_, found⟩
        rw [isDrawn.index_eq]
        exact registered
      exact absurd (ledger.spent drawn (ledger.named names)) isDrawn.not_isSpent

/-- An object finds no place only for want of ids. -/
theorem Ledger.place_status (ledger : Ledger log chassis) {type : ObjectType}
    (counted : type.isCounted = true) {owner : ObjectId} {switch equipped : Switch}
    (registered : chassis.switches.get? owner.switchIndex = some switch)
    (same : ∀ key, equipped.object? key = switch.object? key) {stored : Attributes} {fault : Fault}
    {rest : IdAllocator}
    (refused : equipped.place chassis.ids owner.switchIndex type stored = (.error fault, rest)) :
    fault.status = .failure := by
  rcases place_eq_error refused with ⟨_, exhausted⟩ | ⟨drawn, taken, clash⟩
  · by_cases fits : chassis.ids.last + 1 < ObjectId.counterLimit
    · rw [IdAllocator.allocate_of_lt counted fits] at exhausted
      cases exhausted
    · rw [IdAllocator.allocate_of_not_lt counted (Nat.not_lt.mp fits)] at exhausted
      cases exhausted
      rfl
  · obtain ⟨_, there⟩ := Switch.insert_eq_error clash
    obtain ⟨attrs, found⟩ := Switch.contains_iff.mp there
    rw [same, ledger.object?_of_drawn counted registered taken] at found
    cases found

theorem Ledger.createObject_status (ledger : Ledger log chassis) {type : ObjectType}
    (other : type ≠ .switch) {owner : ObjectId} {attrs : List Attribute} {fault : Fault}
    (refused : chassis.createObject type owner attrs = (.error fault, next)) :
    fault.status ≠ .itemAlreadyExists := by
  unfold createObject at refused
  split at refused
  · cases (Prod.mk.inj refused).1
    intro impossible
    cases impossible
  · next addressed =>
      have counted : type.isCounted = true :=
        ObjectType.isCounted_iff.mpr ⟨by simpa using addressed, other⟩
      split at refused
      · next missed =>
          cases (Prod.mk.inj refused).1
          rcases find_status missed with status | status | status <;> rw [status] <;> decide
      · next switch found =>
          split at refused
          · next exhausted =>
              cases (Prod.mk.inj refused).1
              rw [equip_status exhausted]
              decide
          · next stored equipped equips =>
              obtain ⟨_, registered⟩ := Registry.find_eq_ok_iff.mp found
              split at refused
              · next placed =>
                  cases (Prod.mk.inj refused).1
                  rw [ledger.place_status counted registered (Switch.object?_equip equips) placed]
                  decide
              · cases (Prod.mk.inj refused).1

theorem Ledger.create_status (ledger : Ledger log chassis) {type : ObjectType}
    {owner : ObjectId} {attrs : List Attribute} {fault : Fault}
    (refused : chassis.create type owner attrs = (.error fault, next)) :
    fault.status ≠ .itemAlreadyExists := by
  unfold create at refused
  split at refused
  · next failed =>
      cases (Prod.mk.inj refused).1
      rcases checkCreate_status failed with status | status <;> rw [status] <;> decide
  · split at refused
    · rw [createSwitch_status refused]
      decide
    · next other => exact ledger.createObject_status other refused

/-! ## Runs -/

theorem created_of_perform {now : UInt64} {type : ObjectType} {owner : ObjectId}
    {attrs : List Attribute}
    (created : (chassis.perform now (.create type owner attrs)).answer.result =
      .ok (.created id)) :
    chassis.create type owner attrs =
      (.ok id, chassis.step now (.call (.create type owner attrs))) := by
  obtain ⟨given, done, same⟩ := map_eq_ok_iff.mp created
  cases same
  exact Prod.ext done rfl

theorem removed_of_perform {now : UInt64} {type : ObjectType}
    (removed : (chassis.perform now (.remove type id)).answer.result = .ok .done) :
    chassis.remove type id = .ok ((), chassis.step now (.call (.remove type id))) := by
  unfold step outcome perform settled at *
  cases done : chassis.remove type id with
  | error fault =>
      dsimp only at removed
      rw [done] at removed
      cases removed
  | ok pair => simp only [done]

/-- After a removal the id is retired, and so it stays. -/
theorem retired_of_removal (settings : Settings) (history : List (UInt64 × Command))
    {now : UInt64} {type : ObjectType}
    (removed : (((start settings).run history).perform now (.remove type id)).answer.result =
      .ok .done)
    {gone : ObjectId} (covered : gone = id ∨ type = .switch ∧ gone.switchIndex = id.switchIndex)
    (later : List (UInt64 × Command)) :
    ((((start settings).run history).step now (.call (.remove type id))).run later).Retired
      gone :=
  ((ledger_run settings history).retired_of_remove (removed_of_perform removed) covered).run later

/-- A retired id names no object of any switch that is ever registered. -/
theorem Retired.object?_eq_none {history : List (UInt64 × Command)}
    (retired : ((start settings).run history).Retired id) {index : UInt8} {switch : Switch}
    (registered : ((start settings).run history).switches.get? index = some switch) :
    switch.object? (.object id) = none := by
  cases stored : switch.object? (.object id) with
  | none => rfl
  | some attrs =>
      have own : id.switchIndex = index :=
        isKept_switchIndex.run settings (fun _ _ => trivial) registered stored
      subst own
      exact absurd ⟨switch, attrs, registered, stored⟩ retired.unnamed

/--
Over a whole run, the ids handed out are all different, and every stored object
has one of them.  A creation answers with an id that was never handed out
before, a removed id or an id of a removed switch names nothing ever after and
all calls on it are refused, a new switch takes the place of no other, and no
creation is refused because its id exists.
-/
theorem ids_are_never_reused (settings : Settings) (history : List (UInt64 × Command)) :
    let chassis := (start settings).run history
    let issued := (start settings).issuedBy history
    issued.Nodup ∧
    (∀ {index switch id attrs}, chassis.switches.get? index = some switch →
      switch.object? (.object id) = some attrs → id.switchIndex = index ∧ id ∈ issued) ∧
    (∀ {now type owner attrs id},
      (chassis.perform now (.create type owner attrs)).answer.result = .ok (.created id) →
      id ∈ chassis.issued (.call (.create type owner attrs)) ∧ id ∉ issued) ∧
    (∀ {now type id}, (chassis.perform now (.remove type id)).answer.result = .ok .done →
      ∀ {gone}, gone = id ∨ type = .switch ∧ gone.switchIndex = id.switchIndex → ∀ later,
        let after := (chassis.step now (.call (.remove type id))).run later
        (∀ {index switch}, after.switches.get? index = some switch →
          switch.object? (.object gone) = none) ∧
        ∀ type now, (∃ fault, after.remove type gone = .error fault) ∧
          (∀ attr, ∃ fault, after.set type gone attr now = .error fault) ∧
          ∀ slots, ∃ fault, (after.get type gone slots).1.result = .error fault) ∧
    (∀ {now owner attrs id},
      (chassis.perform now (.create .switch owner attrs)).answer.result = .ok (.created id) →
      let after := chassis.step now (.call (.create .switch owner attrs))
      chassis.switches.get? id.switchIndex = none ∧
      (∃ switch, after.switches.get? id.switchIndex = some switch) ∧
      ∀ index, index ≠ id.switchIndex →
        after.switches.get? index = chassis.switches.get? index) ∧
    ∀ {now type owner attrs fault},
      (chassis.perform now (.create type owner attrs)).answer.result = .error fault →
      fault.status ≠ .itemAlreadyExists := by
  intro chassis issued
  have ledger : Ledger issued chassis := ledger_run settings history
  refine ⟨ledger.distinct, ?_, ?_, ?_, ?_, ?_⟩
  · intro index switch id attrs registered stored
    have own : id.switchIndex = index :=
      isKept_switchIndex.run settings (fun _ _ => trivial) registered stored
    refine ⟨own, ledger.named ⟨switch, attrs, ?_, stored⟩⟩
    rw [own]
    exact registered
  · intro now type owner attrs id created
    have handed := mem_issued_of_create (created_of_perform created)
    refine ⟨handed, fun old => ?_⟩
    -- The run with the creation at its end hands out no id twice either.
    have whole :=
      (ledger_run settings (history ++ [(now, .call (.create type owner attrs))])).distinct
    rw [issuedBy_append] at whole
    exact (List.nodup_append.mp whole).2.2 id old id handed rfl
  · intro now type id removed gone covered later after
    have retired : after.Retired gone :=
      retired_of_removal settings history removed covered later
    refine ⟨?_, fun type now => retired.refused type now⟩
    have reached : after = (start settings).run
        (history ++ (now, .call (.remove type id)) :: later) := by
      rw [run_append]
      rfl
    rw [reached] at retired ⊢
    intro index switch registered
    exact retired.object?_eq_none registered
  · intro now owner attrs id created
    exact ledger.create_switch (created_of_perform created)
  · intro now type owner attrs fault refused
    have failed : (chassis.create type owner attrs).1 = .error fault :=
      map_eq_error_iff.mp refused
    exact ledger.create_status (Prod.ext failed rfl)

theorem removed_port_stays_removed :
    (((start .singlePort).run [(0, .call (.create .switch .null []))]).perform 1
      (.remove .port (.compose 0 .port 3))).answer.result = .ok .done ∧
    ∃ fault, ((((start .singlePort).run [(0, .call (.create .switch .null []))]).step 1
      (.call (.remove .port (.compose 0 .port 3)))).run
        [(2, .call (.create .port (.ofSwitchIndex 0) []))]).remove .port (.compose 0 .port 3) =
      .error fault := by
  have removed : (((start .singlePort).run [(0, .call (.create .switch .null []))]).perform 1
      (.remove .port (.compose 0 .port 3))).answer.result = .ok .done := by
    decide +kernel
  obtain ⟨_, _, _, gone, _⟩ :=
    ids_are_never_reused .singlePort [(0, .call (.create .switch .null []))]
  obtain ⟨_, refused⟩ :=
    gone removed (.inl rfl) [(2, .call (.create .port (.ofSwitchIndex 0) []))]
  exact ⟨removed, (refused .port 3).1⟩

end Chassis

end SwitchAbstraction
