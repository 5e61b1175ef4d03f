import Mathlib.Logic.Function.Basic
import SwitchAbstraction.Proofs.LearnedIndex
import SwitchAbstraction.Proofs.SwitchNames

/-!
# What forwarding events tell a listener

A listener keeps a table of the forwarding entries on all switches and changes
it by every event that it hears.  What learning, aging and flushing report
keeps such a table in step with what is stored.  A flushing event gives the
filter that was used and says nothing by a null id, so this takes that the
filter names no null id itself.
-/

namespace SwitchAbstraction

open Results

/-! ## Listeners -/

/-- What a listener knows of a forwarding entry. -/
structure KnownEntry where
  type : FdbEntryType
  port : Option ObjectId
  deriving DecidableEq

/-- What a listener knows of all forwarding entries, by their keys. -/
abbrev ForwardingTable :=
  FdbKey → Option KnownEntry

/-- How a listener tells from two ids that they name the same switch. -/
abbrev SwitchTest :=
  ObjectId → ObjectId → Bool

namespace SwitchTest

/-- Ids name the same switch if they have the same index. -/
def byIndex : SwitchTest :=
  fun first second => first.switchIndex = second.switchIndex

/-- Only equal ids name the same switch. -/
def byId : SwitchTest :=
  fun first second => first = second

end SwitchTest

namespace FdbEvent

/-- The bridge port that an event names. -/
def port? (event : FdbEvent) : Option ObjectId :=
  (Attribute.find? event.attrs .fdbEntryBridgePortId).bind AttrValue.oid?

/-- The type of entries that an event names. -/
def entryType? (event : FdbEvent) : Option FdbEntryType :=
  ((Attribute.find? event.attrs .fdbEntryType).bind AttrValue.s32?).bind FdbEntryType.ofCode?

/--
Whether a flushing event is about an entry: one of its switch and of its type,
on its port and in its bridge or VLAN, where a null id stands for any.
-/
def covers (same : SwitchTest) (event : FdbEvent) (key : FdbKey) (entry : KnownEntry) : Bool :=
  same event.entry.switchId key.switchId &&
    event.entryType? = some entry.type &&
    event.port?.all (fun port => port.isNull || entry.port = some port) &&
    (event.entry.bvId.isNull || key.bvId = event.entry.bvId)

end FdbEvent

namespace ForwardingTable

/-- The table of a listener that has heard an event. -/
def hear (same : SwitchTest) (table : ForwardingTable) (event : FdbEvent) : ForwardingTable :=
  match event.type with
  | .learned => Function.update table event.entry (some ⟨.dynamic, event.port?⟩)
  | .move =>
      Function.update table event.entry
        ((table event.entry).map fun entry => { entry with port := event.port? })
  | .aged => Function.update table event.entry none
  | .flushed => fun key => (table key).filter fun entry => !event.covers same key entry

/-- The table of a listener that has heard events, one after another. -/
def hearAll (same : SwitchTest) (table : ForwardingTable) (events : List FdbEvent) :
    ForwardingTable :=
  events.foldl (hear same) table

end ForwardingTable

/-- The forwarding events in a notification. -/
def Notification.forwarding : Notification → List FdbEvent
  | .fdbEvents events => events
  | _ => []

/-- What there is to know of a stored forwarding entry. -/
def Attributes.known (attrs : Attributes) : KnownEntry :=
  ⟨FlushFilter.storedType attrs, attrs.oid? .fdbEntryBridgePortId⟩

/-- What a switch stores of forwarding entries. -/
def Switch.forwardingTable (switch : Switch) : ForwardingTable :=
  fun key => (switch.object? (.fdb key)).map Attributes.known

namespace Chassis

/-- What all switches store of forwarding entries, each key at the index of its switch. -/
def forwardingTable (chassis : Chassis) : ForwardingTable :=
  fun key =>
    (chassis.switches.get? key.switchId.switchIndex).bind fun switch => switch.forwardingTable key

/-- What a listener knows after a command who knew all entries before it. -/
def heard (same : SwitchTest) (chassis : Chassis) (now : UInt64) (command : Command) :
    ForwardingTable :=
  chassis.forwardingTable.hearAll same
    ((chassis.outcome now command).notifications.flatMap Notification.forwarding)

/-- A listener who knew all entries before a command knows all entries after it. -/
def Tells (same : SwitchTest) (chassis : Chassis) (now : UInt64) (command : Command) : Prop :=
  chassis.heard same now command = (chassis.step now command).forwardingTable

end Chassis

/-! ## Events heard in a row -/

namespace ForwardingTable

variable {same : SwitchTest} {table : ForwardingTable} {events : List FdbEvent}

/-- Of entries that have aged out, those that are named are gone. -/
theorem hearAll_aged (aged : ∀ event ∈ events, event.type = .aged) (key : FdbKey) :
    table.hearAll same events key =
      if key ∈ events.map FdbEvent.entry then none else table key := by
  induction events generalizing table with
  | nil => rfl
  | cons event rest ih =>
      obtain ⟨first, others⟩ := List.forall_mem_cons.mp aged
      have heard : table.hear same event = Function.update table event.entry none := by
        unfold hear
        rw [first]
      change (table.hear same event).hearAll same rest key = _
      rw [ih others, heard, List.map_cons]
      by_cases own : key = event.entry
      · subst own
        simp
      · simp [own]

/-- Of entries that were flushed, those that some event covers are gone. -/
theorem hearAll_flushed (flushed : ∀ event ∈ events, event.type = .flushed) (key : FdbKey) :
    table.hearAll same events key =
      (table key).filter fun entry => !events.any fun event => event.covers same key entry := by
  induction events generalizing table with
  | nil =>
      change table key = (table key).filter fun _ => true
      cases table key <;> rfl
  | cons event rest ih =>
      obtain ⟨first, others⟩ := List.forall_mem_cons.mp flushed
      have heard : table.hear same event key =
          (table key).filter fun entry => !event.covers same key entry := by
        unfold hear
        rw [first]
      change (table.hear same event).hearAll same rest key = _
      rw [ih others, heard, Option.filter_filter]
      simp

end ForwardingTable

/-! ## What is stored after an operation on one switch -/

namespace Switch

variable {switch next : Switch} {key other : FdbKey} {port : ObjectId} {now : UInt64}

/-- Naming another port changes nothing else that is known of an entry. -/
theorem known_insert_port (attrs : Attributes) (port : ObjectId) :
    Attributes.known (attrs.insert .fdbEntryBridgePortId (.oid port)) =
      { attrs.known with port := some port } := by
  have type : (attrs.insert .fdbEntryBridgePortId (.oid port)).get? .fdbEntryType =
      attrs.get? .fdbEntryType := by
    rw [OrderedMap.get?_insert]
    exact if_neg (by decide)
  unfold Attributes.known FlushFilter.storedType Attributes.s32? Attributes.oid?
  rw [type, OrderedMap.get?_insert_self]
  rfl

theorem forwardingTable_addLearned (added : switch.addLearned key port now = .ok next) :
    next.forwardingTable =
      Function.update switch.forwardingTable key (some ⟨.dynamic, some port⟩) := by
  funext other
  unfold forwardingTable
  rw [object?_addLearned added]
  by_cases own : other = key
  · subst own
    rw [if_pos rfl, Function.update_self]
    rfl
  · rw [if_neg (by simpa using own), Function.update_of_ne own]

theorem forwardingTable_moveLearned (switch : Switch) (key : FdbKey) (port : ObjectId)
    (now : UInt64) :
    (switch.moveLearned key port now).forwardingTable =
      Function.update switch.forwardingTable key
        ((switch.forwardingTable key).map fun entry => { entry with port := some port }) := by
  funext other
  unfold forwardingTable
  rw [object?_moveLearned]
  by_cases own : other = key
  · subst own
    rw [if_pos rfl, Function.update_self, Option.map_map, Option.map_map]
    congr 1
    funext attrs
    exact known_insert_port attrs port
  · rw [if_neg (by simpa using own), Function.update_of_ne own]

/--
Learning changes what is known of the learned entry at most, and a listener
that has known the same of it changes that in the same way.
-/
theorem hearAll_learn {events : List FdbEvent}
    (learned : switch.learn key port now = .ok (events, next)) :
    ∃ entry, next.forwardingTable = Function.update switch.forwardingTable key entry ∧
      ∀ {same : SwitchTest} {table : ForwardingTable},
        table key = switch.forwardingTable key →
          table.hearAll same events = Function.update table key entry := by
  unfold learn at learned
  split at learned
  · cases learned
  · split at learned
    · obtain ⟨added, done, equal⟩ := map_eq_ok_iff.mp learned
      cases equal
      exact ⟨_, forwardingTable_addLearned done, fun _ => rfl⟩
    · next attrs stored =>
        split at learned
        · cases learned
        · cases learned
          refine ⟨switch.forwardingTable key, (Function.update_eq_self _ _).symm, ?_⟩
          intro same table agree
          rw [← agree, Function.update_eq_self]
          rfl
        · cases learned
          refine ⟨_, forwardingTable_moveLearned switch key port now, ?_⟩
          intro same table agree
          rw [← agree]
          split
          · next named =>
              -- Seen on the port where it is, the entry is only refreshed.
              have unmoved : (table key).map (fun entry => { entry with port := some port }) =
                  table key := by
                rw [agree]
                unfold forwardingTable Attributes.known
                rw [stored, ← named]
                rfl
              rw [unmoved, Function.update_eq_self]
              rfl
          · rfl

theorem forwardingTable_expireAll (switch : Switch) (keys : List FdbKey) (key : FdbKey) :
    (switch.expireAll keys).2.forwardingTable key =
      if key ∈ keys then none else switch.forwardingTable key := by
  induction keys generalizing switch with
  | nil => rfl
  | cons first rest ih =>
      have expired : (switch.expire first).forwardingTable key =
          if key = first then none else switch.forwardingTable key := by
        unfold forwardingTable
        rw [object?_expire]
        by_cases own : key = first
        · simp [own]
        · simp [own]
      change ((switch.expire first).expireAll rest).2.forwardingTable key = _
      rw [ih, expired]
      by_cases own : key = first
      · simp [own]
      · simp [own]

end Switch

/-! ## Flushing -/

namespace FlushFilter

/-- The filter names no null id, which an event could not tell from a part left out. -/
structure NamesNoNull (filter : FlushFilter) : Prop where
  bridgePort : filter.bridgePort ≠ some .null
  domain : filter.domain ≠ some .null

end FlushFilter

/-- The command learns, ages, or flushes by a filter that names no null id. -/
inductive Command.IsForwarding : Command → Prop
  | learn (key : FdbKey) (port : ObjectId) : IsForwarding (.learn key port)
  | age : IsForwarding .age
  | flush (id : ObjectId) (attrs : List Attribute)
      (real : ∀ {filter}, FlushFilter.ofAttributes attrs = .ok filter → filter.NamesNoNull) :
      IsForwarding (.call (.flush id attrs))

namespace FlushFilter

/-- Whether the filter selects an entry, by what a listener knows of it. -/
def selectsKnown (filter : FlushFilter) (key : FdbKey) (entry : KnownEntry) : Bool :=
  filter.bridgePort.all (fun port => entry.port = some port) &&
    filter.domain.all (fun domain => key.bvId = domain) &&
    filter.admits entry.type

theorem selects_eq_selectsKnown (filter : FlushFilter) (key : FdbKey) (attrs : Attributes) :
    filter.selects key attrs = filter.selectsKnown key attrs.known := rfl

theorem entryType?_event (filter : FlushFilter) (id : ObjectId) (type : FdbEntryType) :
    (filter.event id type).entryType? = some type := by
  cases type <;> rfl

/-- A part of the filter that is no null id is what the event says of it. -/
theorem all_eq_isNull_or {part : Option ObjectId} (real : part ≠ some .null)
    (holds : ObjectId → Bool) :
    ((part.getD .null).isNull || holds (part.getD .null)) = part.all holds := by
  cases part with
  | none => rfl
  | some id =>
      have other : id.isNull = false := by
        unfold ObjectId.isNull
        exact decide_eq_false fun null => real (congrArg some null)
      rw [Option.getD_some, other]
      rfl

/-- The event for a type covers the entries of that type that the filter lets through. -/
theorem covers_event_iff {filter : FlushFilter} (real : filter.NamesNoNull) {same : SwitchTest}
    {id : ObjectId} {type : FdbEntryType} {key : FdbKey} {entry : KnownEntry} :
    (filter.event id type).covers same key entry = true ↔
      same id key.switchId = true ∧ entry.type = type ∧
        filter.bridgePort.all (fun port => entry.port = some port) = true ∧
        filter.domain.all (fun domain => key.bvId = domain) = true := by
  have ports := all_eq_isNull_or real.bridgePort fun port => entry.port = some port
  have domains := all_eq_isNull_or real.domain fun domain => key.bvId = domain
  have port : (filter.event id type).port? = some (filter.bridgePort.getD .null) := rfl
  have domain : (filter.event id type).entry.bvId = filter.domain.getD .null := rfl
  unfold FdbEvent.covers
  rw [entryType?_event, port, Option.all_some, ports, domain, domains]
  rw [@eq_comm _ entry.type]
  simp only [Bool.and_eq_true, decide_eq_true_eq, Option.some.injEq, and_assoc, event]

end FlushFilter

namespace Switch

variable {switch : Switch} {filter : FlushFilter} {key : FdbKey}

theorem mem_flushedTypes_iff {type : FdbEntryType} :
    type ∈ switch.flushedTypes filter ↔
      ∃ key entry, switch.forwardingTable key = some entry ∧
        filter.selectsKnown key entry = true ∧ entry.type = type := by
  have listed : type ∈ [FdbEntryType.static, .dynamic] := by
    cases type <;> simp
  unfold flushedTypes
  rw [List.mem_filter, List.any_eq_true]
  constructor
  · rintro ⟨_, ⟨object, attrs⟩, stored, flushed⟩
    cases object with
    | fdb key =>
        obtain ⟨selected, typed⟩ := Bool.and_eq_true_iff.mp flushed
        refine ⟨key, attrs.known, ?_, selected, of_decide_eq_true typed⟩
        have found : switch.object? (.fdb key) = some attrs :=
          OrderedMap.get?_eq_some_iff.mpr stored
        unfold forwardingTable
        rw [found, Option.map_some]
    | object | route | neighbor => cases flushed
  · rintro ⟨key, entry, known, selected, typed⟩
    obtain ⟨attrs, found, rfl⟩ := Option.map_eq_some_iff.mp known
    refine ⟨listed, (.fdb key, attrs), OrderedMap.get?_eq_some_iff.mp found, ?_⟩
    exact Bool.and_eq_true_iff.mpr ⟨selected, decide_eq_true typed⟩

/-- A flush takes away the entries that the filter selects. -/
theorem forwardingTable_flush (switch : Switch) (id : ObjectId) (filter : FlushFilter)
    (key : FdbKey) :
    (switch.flush id filter).2.forwardingTable key =
      (switch.forwardingTable key).filter fun entry => !filter.selectsKnown key entry := by
  unfold flush forwardingTable
  rw [object?_withoutEntries]
  change (if switch.isFlushed filter key = true then _ else _ : Option Attributes).map _ = _
  unfold isFlushed
  cases switch.object? (.fdb key) with
  | none => rfl
  | some attrs =>
      rw [Option.any_some, filter.selects_eq_selectsKnown]
      rw [Option.map_some, Option.filter_some]
      cases filter.selectsKnown key attrs.known <;> rfl

/-- Some event of a flush covers an entry if it is of the switch and the filter selects it. -/
theorem any_covers_flush_iff (real : filter.NamesNoNull) {same : SwitchTest} {id : ObjectId}
    {entry : KnownEntry}
    (known : same id key.switchId = true → switch.forwardingTable key = some entry) :
    ((switch.flush id filter).1.any fun event => event.covers same key entry) = true ↔
      same id key.switchId = true ∧ filter.selectsKnown key entry = true := by
  unfold flush
  rw [List.any_map, List.any_eq_true]
  constructor
  · rintro ⟨type, flushed, covered⟩
    obtain ⟨named, rfl, port, domain⟩ := (FlushFilter.covers_event_iff real).mp covered
    -- The event is there because of some entry of the same type, which the filter admits.
    obtain ⟨_, other, _, selected, typed⟩ := mem_flushedTypes_iff.mp flushed
    have admitted := (Bool.and_eq_true_iff.mp selected).2
    rw [typed] at admitted
    refine ⟨named, ?_⟩
    unfold FlushFilter.selectsKnown
    rw [port, domain, admitted]
    rfl
  · rintro ⟨named, selected⟩
    obtain ⟨parts, _⟩ := Bool.and_eq_true_iff.mp selected
    obtain ⟨port, domain⟩ := Bool.and_eq_true_iff.mp parts
    refine ⟨entry.type, mem_flushedTypes_iff.mpr ⟨key, entry, known named, selected, rfl⟩, ?_⟩
    exact (FlushFilter.covers_event_iff real).mpr ⟨named, rfl, port, domain⟩

end Switch

/-! ## Commands -/

namespace Chassis

variable {same : SwitchTest} {chassis : Chassis} {now : UInt64}

theorem forwardingTable_of_get? {switch : Switch} {key : FdbKey}
    (there : chassis.switches.get? key.switchId.switchIndex = some switch) :
    chassis.forwardingTable key = switch.forwardingTable key := by
  unfold forwardingTable
  rw [there, Option.bind_some]

theorem forwardingTable_put (id : ObjectId) (switch : Switch) (key : FdbKey) :
    (chassis.put id switch).forwardingTable key =
      if key.switchId.switchIndex = id.switchIndex then switch.forwardingTable key
      else chassis.forwardingTable key := by
  unfold forwardingTable
  rw [get?_put]
  split
  · rw [Option.bind_some]
  · rfl

theorem forwarding_of_single (events : List FdbEvent) :
    (events.map fun event => Notification.fdbEvents [event]).flatMap Notification.forwarding =
      events := by
  rw [List.flatMap_map]
  exact List.flatMap_singleton' events

/-- An operation tells what it does if its events do so when it succeeds. -/
theorem hearAll_reported {β : Type} {attempt : Except Fault (List FdbEvent × Chassis)}
    {answer : Except Fault Unit → β}
    (told : ∀ {events next}, attempt = .ok (events, next) →
      chassis.forwardingTable.hearAll same events = next.forwardingTable) :
    chassis.forwardingTable.hearAll same
        ((chassis.reported attempt answer).notifications.flatMap Notification.forwarding) =
      (chassis.reported attempt answer).state.forwardingTable := by
  unfold reported
  cases done : attempt with
  | error fault => rfl
  | ok pair =>
      dsimp only
      rw [forwarding_of_single]
      exact told done

theorem tells_learn (key : FdbKey) (port : ObjectId) :
    chassis.Tells same now (.learn key port) := by
  apply hearAll_reported
  intro events next done
  obtain ⟨_, _, rest⟩ := bind_eq_ok_iff.mp done
  obtain ⟨switch, changed, found, learned, rfl⟩ := onSwitch_eq_ok_iff.mp rest
  obtain ⟨_, there⟩ := Registry.find_eq_ok_iff.mp found
  obtain ⟨entry, stored, heard⟩ := Switch.hearAll_learn learned
  rw [heard (forwardingTable_of_get? there)]
  funext other
  rw [forwardingTable_put, stored]
  by_cases own : other = key
  · subst own
    simp
  · rw [Function.update_of_ne own, Function.update_of_ne own]
    split
    · next index => exact forwardingTable_of_get? (index ▸ there)
    · rfl

/--
What a listener hears of a flush at a key, if the listener tells the flushed
switch from the other switches that have entries.
-/
theorem hearAll_flush {id : ObjectId} {filter : FlushFilter} {switch : Switch} {key : FdbKey}
    (there : chassis.switches.get? id.switchIndex = some switch) (real : filter.NamesNoNull)
    (apart : ∀ {entry}, chassis.forwardingTable key = some entry →
      (same id key.switchId = true ↔ key.switchId.switchIndex = id.switchIndex)) :
    chassis.forwardingTable.hearAll same (switch.flush id filter).1 key =
      (chassis.put id (switch.flush id filter).2).forwardingTable key := by
  have areFlushed : ∀ event ∈ (switch.flush id filter).1, event.type = .flushed := by
    intro event member
    obtain ⟨type, _, rfl⟩ := List.mem_map.mp member
    rfl
  rw [ForwardingTable.hearAll_flushed areFlushed, forwardingTable_put,
    Switch.forwardingTable_flush]
  have stored (index : key.switchId.switchIndex = id.switchIndex) :
      chassis.forwardingTable key = switch.forwardingTable key :=
    forwardingTable_of_get? (index ▸ there)
  cases known : chassis.forwardingTable key with
  | none =>
      split
      · next index =>
          rw [← stored index, known]
          rfl
      · rfl
  | some entry =>
      have named := apart known
      have covered := @Switch.any_covers_flush_iff switch filter key real same id entry
        fun same => (stored (named.mp same)).symm.trans known
      split
      · next index =>
          rw [← stored index, known, Option.filter_some, Option.filter_some]
          rw [named.mpr index, and_iff_right rfl, ← Bool.eq_iff_iff] at covered
          rw [covered]
      · next index =>
          -- No event of the flush covers an entry of another switch.
          have uncovered : ((switch.flush id filter).1.any fun event =>
              event.covers same key entry) = false := by
            rw [Bool.eq_false_iff]
            intro some
            exact index (named.mp (covered.mp some).1)
          rw [Option.filter_some, uncovered]
          rfl

theorem tells_flush {id : ObjectId} {attrs : List Attribute}
    (real : ∀ {filter}, FlushFilter.ofAttributes attrs = .ok filter → filter.NamesNoNull)
    (apart : ∀ {key entry}, chassis.forwardingTable key = some entry →
      (same id key.switchId = true ↔ key.switchId.switchIndex = id.switchIndex)) :
    chassis.Tells same now (.call (.flush id attrs)) := by
  apply @hearAll_reported same chassis Answer (chassis.flush id attrs) (answerOf done)
  intro events next done
  obtain ⟨filter, given, rest⟩ := bind_eq_ok_iff.mp done
  obtain ⟨switch, changed, found, flushed, rfl⟩ := onSwitch_eq_ok_iff.mp rest
  obtain ⟨_, there⟩ := Registry.find_eq_ok_iff.mp found
  obtain rfl : (switch.flush id filter).1 = events := congrArg Prod.fst (Except.ok.inj flushed)
  obtain rfl : (switch.flush id filter).2 = changed := congrArg Prod.snd (Except.ok.inj flushed)
  funext key
  exact hearAll_flush there (real given) apart

/-- Every record of an index is about an entry that names the switch by its index. -/
def RecordsOwn (chassis : Chassis) : Prop :=
  chassis.Everywhere fun index switch =>
    ∀ {key record}, switch.learned.get? key = some record → key.switchId.switchIndex = index

/-- The entries that age out on any switch are those that age out on the switch they name. -/
theorem mem_aged_iff (own : chassis.RecordsOwn) {switch : Switch} {key : FdbKey}
    (there : chassis.switches.get? key.switchId.switchIndex = some switch) :
    (key ∈ (chassis.switches.values.flatMap fun switch => (switch.age now).1).map FdbEvent.entry) ↔
      key ∈ (switch.expired now).keys := by
  have named (switch : Switch) :
      (switch.age now).1.map FdbEvent.entry = (switch.expired now).keys :=
    List.map_map
  rw [List.map_flatMap, List.mem_flatMap]
  constructor
  · rintro ⟨other, member, aged⟩
    rw [named] at aged
    obtain ⟨⟨index, _⟩, listed, rfl⟩ := List.mem_map.mp member
    have registered := OrderedMap.get?_eq_some_iff.mpr listed
    obtain ⟨record, expired⟩ := Option.isSome_iff_exists.mp (OrderedMap.mem_keys_iff.mp aged)
    unfold Switch.expired at expired
    rw [OrderedMap.get?_filter] at expired
    have same := own registered (Option.filter_eq_some_iff.mp expired).1
    rw [same, registered] at there
    cases there
    exact aged
  · intro aged
    have listed := OrderedMap.get?_eq_some_iff.mp there
    refine ⟨switch, List.mem_map.mpr ⟨_, listed, rfl⟩, ?_⟩
    rw [named]
    exact aged

theorem tells_age (own : chassis.RecordsOwn) : chassis.Tells same now .age := by
  let events := chassis.switches.values.flatMap fun switch => (switch.age now).1
  have areAged : ∀ event ∈ events, event.type = .aged := by
    intro event member
    obtain ⟨switch, _, reported⟩ := List.mem_flatMap.mp member
    obtain ⟨entry, _, rfl⟩ := List.mem_map.mp reported
    rfl
  change chassis.forwardingTable.hearAll same
    ((events.map fun event => .fdbEvents [event]).flatMap Notification.forwarding) = _
  rw [forwarding_of_single]
  funext key
  rw [ForwardingTable.hearAll_aged areAged]
  change _ = ((chassis.switches.mapValues fun _ switch => (switch.age now).2).get?
    key.switchId.switchIndex).bind fun switch => switch.forwardingTable key
  rw [OrderedMap.get?_mapValues]
  cases there : chassis.switches.get? key.switchId.switchIndex with
  | none =>
      have unknown : chassis.forwardingTable key = none := by
        unfold forwardingTable
        rw [there]
        rfl
      rw [unknown, ite_self]
      rfl
  | some switch =>
      have aged : (switch.age now).2.forwardingTable key =
          if key ∈ (switch.expired now).keys then none else switch.forwardingTable key :=
        Switch.forwardingTable_expireAll switch _ key
      rw [forwardingTable_of_get? there, Option.map_some, Option.bind_some, aged]
      congr 1
      exact propext (mem_aged_iff own there)

/-! ## Runs -/

variable (settings : Settings) (history : List (UInt64 × Command))

/-- Every stored entry names the switch that it is stored on by its index. -/
theorem switchIndex_of_stored {index : UInt8} {switch : Switch}
    (registered : ((start settings).run history).switches.get? index = some switch)
    {key : FdbKey} {attrs : Attributes} (stored : switch.object? (.fdb key) = some attrs) :
    key.switchId.switchIndex = index := by
  have kept := @isKept_entries (fun _ => True)
    (fun index key => key.switchId.switchIndex = index) fun _ _ _ => rfl
  exact kept.run settings (fun _ _ => trivial) registered stored rfl

/-- The table leaves out no entry of any switch. -/
theorem forwardingTable_run_eq_some_iff {key : FdbKey} {entry : KnownEntry} :
    ((start settings).run history).forwardingTable key = some entry ↔
      ∃ index switch attrs, ((start settings).run history).switches.get? index = some switch ∧
        switch.object? (.fdb key) = some attrs ∧ attrs.known = entry := by
  constructor
  · intro known
    obtain ⟨switch, registered, there⟩ := Option.bind_eq_some_iff.mp known
    obtain ⟨attrs, stored, same⟩ := Option.map_eq_some_iff.mp there
    exact ⟨_, switch, attrs, registered, stored, same⟩
  · rintro ⟨index, switch, attrs, registered, stored, rfl⟩
    obtain rfl := switchIndex_of_stored settings history registered stored
    rw [forwardingTable_of_get? registered]
    unfold Switch.forwardingTable
    rw [stored, Option.map_some]

theorem recordsOwn_run : ((start settings).run history).RecordsOwn := by
  intro index switch registered key record known
  have mirrored : switch.Mirrored :=
    Switch.isKept_mirrored.run settings (fun _ _ => trivial) registered
  obtain ⟨attrs, stored⟩ := Switch.contains_iff.mp (mirrored.contains known)
  exact switchIndex_of_stored settings history registered stored

/-- If entries are entered under the ids of switches themselves, they name switches by these. -/
theorem switchId_of_known
    (canonical : ∀ entry ∈ history, ∀ key, entry.2.entered? = some key →
      key.switchId.switchId = key.switchId)
    {key : FdbKey} {entry : KnownEntry}
    (known : ((start settings).run history).forwardingTable key = some entry) :
    key.switchId.switchId = key.switchId := by
  obtain ⟨index, switch, attrs, registered, stored, _⟩ :=
    (forwardingTable_run_eq_some_iff settings history).mp known
  have kept := @isKept_entries
    (fun command => ∀ key, command.entered? = some key → key.switchId.switchId = key.switchId)
    (fun _ key => key.switchId.switchId = key.switchId)
    fun permitted named _ => permitted _ named
  have stays := @IsKept.run _ _ kept settings history canonical
  exact @stays index switch registered (.fdb key) attrs stored rfl

/--
The events that learning, aging and flushing report turn a table of all
forwarding entries before the command into the table of all entries after it,
as long as a flush is given no null id to filter by.  The listener takes ids to
name the same switch if they have the same index; where all ids that were given
are the ids of switches themselves, it may as well compare the ids.
-/
theorem forwarding_events_tell_changes (now : UInt64) {command : Command}
    (forwarding : command.IsForwarding) :
    ((start settings).run history).Tells .byIndex now command ∧
      ((∀ entry ∈ history, ∀ key, entry.2.entered? = some key →
          key.switchId.switchId = key.switchId) →
        (∀ id attrs, command = .call (.flush id attrs) → id.switchId = id) →
        ((start settings).run history).Tells .byId now command) := by
  cases forwarding with
  | learn key port => exact ⟨tells_learn key port, fun _ _ => tells_learn key port⟩
  | age =>
      have own := @recordsOwn_run settings history
      exact ⟨tells_age own, fun _ _ => tells_age own⟩
  | flush id attrs real =>
      constructor
      · apply tells_flush real
        intro key entry _
        simp [SwitchTest.byIndex, eq_comm]
      · intro canonical own
        apply tells_flush real
        intro key entry known
        have named := switchId_of_known settings history canonical known
        have given := own id attrs rfl
        unfold SwitchTest.byId
        rw [decide_eq_true_iff]
        constructor
        · rintro rfl
          rfl
        · intro index
          rw [← given, ← named]
          unfold ObjectId.switchId
          rw [index]

/-- The key of an entry in the default VLAN of the first switch. -/
def inVlan : FdbKey :=
  ⟨.ofSwitchIndex 0, .zero, .compose 0 .vlan 1⟩

/-- The key of an entry in no bridge and no VLAN. -/
def inNone : FdbKey :=
  ⟨.ofSwitchIndex 0, .zero, .null⟩

/-- The bridge port of a switch with a single port. -/
def onlyPort : ObjectId :=
  .compose 0 .bridgePort 6

/-- One entry is learned, and another one is created on the null port. -/
def withNullPort : List (UInt64 × Command) :=
  [(0, .call (.create .switch .null [])), (5, .learn inVlan onlyPort),
    (7, .call (.createEntry (.fdb inNone)
      [⟨.fdbEntryType, .s32 FdbEntryType.dynamic.code⟩, ⟨.fdbEntryBridgePortId, .oid .null⟩]))]

/-- A flush of the dynamic entries of a port. -/
def flushOnlyPort : Command :=
  .call (.flush (.ofSwitchIndex 0)
    [⟨.fdbFlushBridgePortId, .oid onlyPort⟩,
      ⟨.fdbFlushEntryType, .s32 FdbFlushEntryType.dynamic.code⟩])

theorem flush_of_port_is_told :
    ((start .singlePort).run withNullPort).Tells .byIndex 9 flushOnlyPort ∧
      ((start .singlePort).run withNullPort).Tells .byId 9 flushOnlyPort := by
  have forwarding : flushOnlyPort.IsForwarding := by
    apply Command.IsForwarding.flush
    intro filter given
    have read : filter = ⟨some onlyPort, none, some .dynamic⟩ := (Except.ok.inj given).symm
    rw [read]
    exact ⟨by decide, by decide⟩
  obtain ⟨byIndex, byId⟩ :=
    forwarding_events_tell_changes .singlePort withNullPort 9 forwarding
  refine ⟨byIndex, byId ?_ ?_⟩
  · intro entry member key entered
    simp only [withNullPort, List.mem_cons, List.not_mem_nil, or_false] at member
    rcases member with rfl | rfl | rfl
    · cases entered
    · cases entered
      rfl
    · cases entered
      rfl
  · intro id attrs same
    obtain ⟨named, _⟩ := Call.flush.inj (Command.call.inj same)
    rw [← named]
    decide

/--
A flush by the null port, or by the null bridge or VLAN, takes away the one
entry that is there, and is heard as a flush of all dynamic entries.  A flush
under an alias of a switch takes its entries away, and is heard as one of no
switch by a listener that compares ids.
-/
theorem null_filter_and_alias_are_misheard :
    ((∀ same ∈ [SwitchTest.byIndex, .byId], ((start .singlePort).run withNullPort).heard same 9
        (.call (.flush (.ofSwitchIndex 0) [⟨.fdbFlushBridgePortId, .oid .null⟩])) inVlan = none) ∧
      (((start .singlePort).run withNullPort).step 9
        (.call (.flush (.ofSwitchIndex 0) [⟨.fdbFlushBridgePortId, .oid .null⟩]))).forwardingTable
          inVlan = some ⟨.dynamic, some onlyPort⟩) ∧
    ((∀ same ∈ [SwitchTest.byIndex, .byId], ((start .singlePort).run withNullPort).heard same 9
        (.call (.flush (.ofSwitchIndex 0) [⟨.fdbFlushBvId, .oid .null⟩])) inVlan = none) ∧
      (((start .singlePort).run withNullPort).step 9
        (.call (.flush (.ofSwitchIndex 0) [⟨.fdbFlushBvId, .oid .null⟩]))).forwardingTable
          inVlan = some ⟨.dynamic, some onlyPort⟩) ∧
    ((start .singlePort).run withNullPort).heard .byId 9
        (.call (.flush (.compose 0 .switch 5) [])) inVlan = some ⟨.dynamic, some onlyPort⟩ ∧
      (((start .singlePort).run withNullPort).step 9
        (.call (.flush (.compose 0 .switch 5) []))).forwardingTable inVlan = none := by
  decide +kernel

end Chassis

end SwitchAbstraction
