import SwitchAbstraction.Proofs.Creations
import SwitchAbstraction.Proofs.Departures
import SwitchAbstraction.Proofs.Overrides

/-!
# Flushes

A flush is given parts of a filter: a bridge port, a bridge or VLAN, a type of
entries.  Of each kind the last part counts, and the flush takes exactly the
entries that all parts that count let through.
-/

namespace SwitchAbstraction

open Results

/-! ## Parts of a filter -/

/-- The types of entries that a flush by a type is about. -/
def FdbFlushEntryType.Covers : FdbFlushEntryType → FdbEntryType → Prop
  | .all, _ => True
  | .dynamic, type => type = .dynamic
  | .static, type => type = .static

/-- Words with the same number are the same. -/
theorem Enumeration.code_injective {α : Type} [Enumeration α] {first second : α}
    (same : code first = code second) : first = second := by
  have read : ofCode? (code second) = some first := ofCode?_eq_some_iff.mpr same
  exact Option.some.inj (read.symm.trans (ofCode?_eq_some_iff.mpr rfl))

theorem FdbFlushEntryType.code_injective {first second : FdbFlushEntryType}
    (same : first.code = second.code) : first = second :=
  Enumeration.code_injective same

/-- An entry has one type. -/
theorem Attributes.entryType_unique {stored : Attributes} {first second : FdbEntryType}
    (own : stored.HasEntryType first) (other : stored.HasEntryType second) : first = second :=
  Enumeration.code_injective (AttrValue.s32.inj (Option.some.inj (own.symm.trans other)))

namespace Attribute

variable {attr : Attribute} {attrs : List Attribute} {id : AttrId}

/-- The last value of an attribute in a list. -/
def last? (attrs : List Attribute) (id : AttrId) : Option AttrValue :=
  find? attrs.reverse id

theorem last?_concat :
    last? (attrs ++ [attr]) id = if attr.id = id then some attr.value else last? attrs id := by
  unfold last? find?
  rw [List.reverse_concat, List.find?_cons]
  by_cases own : attr.id = id
  · simp [own]
  · simp [own]

/-- What an attribute has to be to count as a part of a filter. -/
inductive IsFlushPart : Attribute → Prop
  | bridgePort (port : ObjectId) : IsFlushPart ⟨.fdbFlushBridgePortId, .oid port⟩
  | domain (domain : ObjectId) : IsFlushPart ⟨.fdbFlushBvId, .oid domain⟩
  | entryType (type : FdbFlushEntryType) : IsFlushPart ⟨.fdbFlushEntryType, .s32 type.code⟩

/-- A part of a filter lets an entry through, by its key and what is stored of it. -/
def Admits (key : FdbKey) (stored : Attributes) (attr : Attribute) : Prop :=
  match attr.id with
  | .fdbFlushBridgePortId => stored.get? .fdbEntryBridgePortId = some attr.value
  | .fdbFlushBvId => attr.value = .oid key.bvId
  | .fdbFlushEntryType =>
      ∃ (part : FdbFlushEntryType) (type : FdbEntryType),
        attr.value = .s32 part.code ∧ stored.HasEntryType type ∧ part.Covers type
  | _ => False

/-- A part that names types of entries lets the entries of these types through. -/
theorem admits_entryType_iff {key : FdbKey} {stored : Attributes} {part : FdbFlushEntryType}
    {type : FdbEntryType} (typed : stored.HasEntryType type) :
    Admits key stored ⟨.fdbFlushEntryType, .s32 part.code⟩ ↔ part.Covers type := by
  constructor
  · rintro ⟨other, second, same, typedToo, covers⟩
    obtain rfl := FdbFlushEntryType.code_injective (AttrValue.s32.inj same)
    obtain rfl := Attributes.entryType_unique typed typedToo
    exact covers
  · intro covers
    exact ⟨part, type, rfl, typed, covers⟩

/-- Of each kind of parts, the last one lets an entry through. -/
def Select (attrs : List Attribute) (key : FdbKey) (stored : Attributes) : Prop :=
  ∀ {id value}, last? attrs id = some value → Admits key stored ⟨id, value⟩

/-- A value that counts is that of a part if all attributes are parts. -/
theorem isFlushPart_of_last? {value : AttrValue} (parts : ∀ attr ∈ attrs, attr.IsFlushPart)
    (last : last? attrs id = some value) : IsFlushPart ⟨id, value⟩ := by
  obtain ⟨attr, listed, rfl, rfl⟩ := find?_eq_some last
  exact parts attr (List.mem_reverse.mp listed)

end Attribute

namespace FlushFilter

variable {filter : FlushFilter} {attr : Attribute} {attrs : List Attribute} {key : FdbKey}
  {stored : Attributes}

/-- The filter has the last part of each kind. -/
structure Reads (filter : FlushFilter) (attrs : List Attribute) : Prop where
  bridgePort : Attribute.last? attrs .fdbFlushBridgePortId = filter.bridgePort.map .oid
  domain : Attribute.last? attrs .fdbFlushBvId = filter.domain.map .oid
  entryType : Attribute.last? attrs .fdbFlushEntryType =
    filter.type.map fun type => .s32 type.code

/-- One part more takes the place of the one of its kind. -/
theorem Reads.refine (reads : filter.Reads attrs) (part : attr.IsFlushPart) :
    ∃ next, filter.refine attr = .ok next ∧ next.Reads (attrs ++ [attr]) := by
  cases part with
  | bridgePort port =>
      refine ⟨{ filter with bridgePort := some port }, rfl, ?_, ?_, ?_⟩
      · exact Attribute.last?_concat
      · exact Attribute.last?_concat.trans reads.domain
      · exact Attribute.last?_concat.trans reads.entryType
  | domain domain =>
      refine ⟨{ filter with domain := some domain }, rfl, ?_, ?_, ?_⟩
      · exact Attribute.last?_concat.trans reads.bridgePort
      · exact Attribute.last?_concat
      · exact Attribute.last?_concat.trans reads.entryType
  | entryType type =>
      refine ⟨{ filter with type := some type }, ?_, ?_, ?_, ?_⟩
      · cases type <;> rfl
      · exact Attribute.last?_concat.trans reads.bridgePort
      · exact Attribute.last?_concat.trans reads.domain
      · exact Attribute.last?_concat

/-- Parts make a filter. -/
theorem exists_reads (parts : ∀ attr ∈ attrs, attr.IsFlushPart) :
    ∃ filter, ofAttributes attrs = .ok filter ∧ filter.Reads attrs := by
  unfold ofAttributes
  -- From the end of the list, as the last part replaces what those before it gave.
  induction attrs using List.reverseRecOn with
  | nil => exact ⟨all, rfl, rfl, rfl, rfl⟩
  | append_singleton attrs attr ih =>
      obtain ⟨first, last⟩ := List.forall_mem_append.mp parts
      obtain ⟨filter, read, reads⟩ := ih first
      obtain ⟨next, refined, readsAll⟩ := reads.refine (last attr List.mem_cons_self)
      refine ⟨next, ?_, readsAll⟩
      rw [List.foldlM_append, read, ok_bind]
      exact bind_eq_ok_iff.mpr ⟨next, refined, rfl⟩

/-- A value that is none of the codes names no type of entries. -/
theorem typeOfValue_refused {value : AttrValue}
    (other : ¬ Attribute.IsFlushPart ⟨.fdbFlushEntryType, value⟩) :
    typeOfValue value = .error (.invalid (.badFlushType value)) := by
  unfold typeOfValue
  split
  · next type found =>
      obtain ⟨raw, word, code⟩ := Option.bind_eq_some_iff.mp found
      have same : Enumeration.code type = raw := Enumeration.ofCode?_eq_some_iff.mp code
      cases value with
      | s32 given =>
          obtain rfl : given = raw := Option.some.inj word
          subst same
          exact absurd (.entryType type) other
      | _ => cases word
  · rfl

/-- What is no part of a filter is an invalid parameter. -/
theorem refine_refused (other : ¬ attr.IsFlushPart) :
    ∃ fault, filter.refine attr = .error fault ∧ fault.status = .invalidParameter := by
  obtain ⟨id, value⟩ := attr
  unfold FlushFilter.refine
  cases kind : Attribute.checkKind ⟨id, value⟩ with
  | error fault => exact ⟨fault, rfl, Attribute.checkKind_status kind⟩
  | ok passed =>
      have declared := Attribute.kind_of_checkKind kind
      dsimp only at declared ⊢
      split
      · obtain ⟨port, rfl⟩ := AttrValue.eq_oid_of_kind declared
        exact absurd (.bridgePort port) other
      · obtain ⟨domain, rfl⟩ := AttrValue.eq_oid_of_kind declared
        exact absurd (.domain domain) other
      · rw [typeOfValue_refused other]
        exact ⟨_, rfl, rfl⟩
      · exact ⟨_, rfl, rfl⟩

theorem ofAttributes_refused (other : ¬ ∀ attr ∈ attrs, attr.IsFlushPart) :
    ∃ fault, ofAttributes attrs = .error fault ∧ fault.status = .invalidParameter := by
  induction attrs using List.reverseRecOn with
  | nil => exact absurd (fun _ => nofun) other
  | append_singleton attrs attr ih =>
      unfold ofAttributes
      rw [List.foldlM_append]
      by_cases parts : ∀ attr ∈ attrs, attr.IsFlushPart
      · -- All but the last attribute are read, so the last one is no part.
        obtain ⟨filter, read, _⟩ := exists_reads parts
        have last : ¬ attr.IsFlushPart := by
          intro part
          refine other (List.forall_mem_append.mpr ⟨parts, ?_⟩)
          exact List.forall_mem_singleton.mpr part
        obtain ⟨fault, refused, status⟩ := filter.refine_refused last
        refine ⟨fault, ?_, status⟩
        change ofAttributes attrs >>= _ = _
        rw [read, ok_bind, List.foldlM_cons, refused, error_bind]
      · obtain ⟨fault, refused, status⟩ := ih parts
        refine ⟨fault, ?_, status⟩
        change ofAttributes attrs >>= _ = _
        rw [refused, error_bind]

/-- The type that a flush takes an entry to have is the one that is stored. -/
theorem storedType_eq {type : FdbEntryType} (typed : stored.HasEntryType type) :
    storedType stored = type := by
  unfold storedType Attributes.s32?
  rw [typed]
  cases type <;> rfl

/-- The parts of a filter as it has read them let an entry through. -/
structure Matches (filter : FlushFilter) (key : FdbKey) (stored : Attributes)
    (type : FdbEntryType) : Prop where
  bridgePort : ∀ {port}, filter.bridgePort = some port →
    stored.get? .fdbEntryBridgePortId = some (.oid port)
  domain : ∀ {domain}, filter.domain = some domain → key.bvId = domain
  entryType : ∀ {part}, filter.type = some part → part.Covers type

theorem selects_iff_matches {type : FdbEntryType} (typed : stored.HasEntryType type) :
    filter.selects key stored = true ↔ filter.Matches key stored type := by
  have ports {port : ObjectId} := @Attributes.oid?_eq_some_iff stored .fdbEntryBridgePortId port
  have types : filter.admits type = true ↔
      ∀ {part}, filter.type = some part → part.Covers type := by
    unfold admits
    cases filter.type with
    | none => simp
    | some part => cases part <;> simp [FdbFlushEntryType.Covers]
  unfold selects
  rw [Bool.and_eq_true, Bool.and_eq_true, storedType_eq typed, types, Option.all_eq_true,
    Option.all_eq_true]
  simp only [decide_eq_true_eq, ports]
  constructor
  · rintro ⟨⟨onPort, inDomain⟩, ofType⟩
    exact ⟨onPort _, inDomain _, ofType⟩
  · rintro ⟨onPort, inDomain, ofType⟩
    exact ⟨⟨fun _ => onPort, fun _ => inDomain⟩, ofType⟩

theorem Reads.matches_iff_select (reads : filter.Reads attrs)
    (parts : ∀ attr ∈ attrs, attr.IsFlushPart) {type : FdbEntryType}
    (typed : stored.HasEntryType type) :
    filter.Matches key stored type ↔ Attribute.Select attrs key stored := by
  constructor
  · rintro ⟨onPort, inDomain, ofType⟩ id value last
    cases Attribute.isFlushPart_of_last? parts last with
    | bridgePort port =>
        obtain ⟨_, given, same⟩ := Option.map_eq_some_iff.mp (reads.bridgePort.symm.trans last)
        cases same
        exact onPort given
    | domain domain =>
        obtain ⟨_, given, same⟩ := Option.map_eq_some_iff.mp (reads.domain.symm.trans last)
        cases same
        exact congrArg AttrValue.oid (inDomain given).symm
    | entryType part =>
        obtain ⟨_, given, same⟩ := Option.map_eq_some_iff.mp (reads.entryType.symm.trans last)
        obtain rfl := FdbFlushEntryType.code_injective (AttrValue.s32.inj same)
        exact (Attribute.admits_entryType_iff typed).mpr (ofType given)
  · intro select
    constructor
    · intro port given
      have last := reads.bridgePort
      rw [given] at last
      exact select last
    · intro domain given
      have last := reads.domain
      rw [given] at last
      exact (AttrValue.oid.inj (select last)).symm
    · intro part given
      have last := reads.entryType
      rw [given] at last
      exact (Attribute.admits_entryType_iff typed).mp (select last)

/-- A filter selects what the parts that it has read select. -/
theorem Reads.selects_iff (reads : filter.Reads attrs) (parts : ∀ attr ∈ attrs, attr.IsFlushPart)
    (entry : stored.IsEntry) :
    filter.selects key stored = true ↔ Attribute.Select attrs key stored := by
  obtain ⟨type, typed⟩ := entry.typed
  rw [selects_iff_matches typed, reads.matches_iff_select parts typed]

end FlushFilter

/-! ## What a flush takes -/

namespace Switch

variable {switch : Switch} {filter : FlushFilter} {attrs : List Attribute} {key : FdbKey}

/-- An entry is stored, and the parts of a filter that count let it through. -/
def IsSelected (switch : Switch) (attrs : List Attribute) (key : FdbKey) : Prop :=
  ∃ stored, switch.object? (.fdb key) = some stored ∧ Attribute.Select attrs key stored

/-- An entry of a type is among those that are selected. -/
def SelectsType (switch : Switch) (attrs : List Attribute) (type : FdbEntryType) : Prop :=
  ∃ key stored, switch.object? (.fdb key) = some stored ∧ Attribute.Select attrs key stored ∧
    stored.HasEntryType type

theorem loses_withoutEntries (switch : Switch) (gone : FdbKey → Bool) :
    switch.Loses (fun key => gone key = true) (switch.withoutEntries gone) where
  id_eq := rfl
  debugCounters_eq := rfl
  kept {object} stays := by
    have other : ¬ selects gone object = true := by
      cases object with
      | fdb key => exact stays
      | object | route | neighbor => nofun
    rw [object?_withoutEntries, counters_withoutEntries, if_neg other, if_neg other]
    exact ⟨rfl, rfl⟩
  records stays := by
    rw [learned_withoutEntries, if_neg stays]
  dropped {key} out := by
    have own : selects gone (.fdb key) = true := out
    rw [object?_withoutEntries, counters_withoutEntries, learned_withoutEntries, if_pos own,
      if_pos own, if_pos out]
    exact ⟨rfl, rfl, rfl⟩

theorem Mirrored.isFlushed_iff (mirrored : switch.Mirrored) (reads : filter.Reads attrs)
    (parts : ∀ attr ∈ attrs, attr.IsFlushPart) :
    switch.isFlushed filter key = true ↔ switch.IsSelected attrs key := by
  unfold isFlushed
  rw [Option.any_eq_true]
  constructor
  · rintro ⟨stored, there, selected⟩
    have entry := (mirrored key).isEntry there
    exact ⟨stored, there, (reads.selects_iff parts entry).mp selected⟩
  · rintro ⟨stored, there, selected⟩
    have entry := (mirrored key).isEntry there
    exact ⟨stored, there, (reads.selects_iff parts entry).mpr selected⟩

/-- A flush takes the selected entries and leaves the rest as it is. -/
theorem Mirrored.loses_flush (mirrored : switch.Mirrored) (reads : filter.Reads attrs)
    (parts : ∀ attr ∈ attrs, attr.IsFlushPart) (id : ObjectId) :
    switch.Loses (switch.IsSelected attrs) (switch.flush id filter).2 := by
  have same : (fun key => switch.isFlushed filter key = true) = switch.IsSelected attrs :=
    funext fun key => propext (mirrored.isFlushed_iff reads parts)
  rw [← same]
  exact switch.loses_withoutEntries _

/-- The types that a flush reports are those of the entries that it takes. -/
theorem Mirrored.mem_flushedTypes_iff (mirrored : switch.Mirrored) (reads : filter.Reads attrs)
    (parts : ∀ attr ∈ attrs, attr.IsFlushPart) {type : FdbEntryType} :
    type ∈ switch.flushedTypes filter ↔ switch.SelectsType attrs type := by
  rw [Switch.mem_flushedTypes_iff]
  constructor
  · rintro ⟨key, _, known, selected, same⟩
    obtain ⟨stored, there, rfl⟩ := Option.map_eq_some_iff.mp known
    have entry := (mirrored key).isEntry there
    obtain ⟨own, typed⟩ := entry.typed
    obtain rfl : own = type := (FlushFilter.storedType_eq typed).symm.trans same
    exact ⟨key, stored, there, (reads.selects_iff parts entry).mp selected, typed⟩
  · rintro ⟨key, stored, there, selected, typed⟩
    have entry := (mirrored key).isEntry there
    refine ⟨key, stored.known, ?_, (reads.selects_iff parts entry).mpr selected,
      FlushFilter.storedType_eq typed⟩
    exact Option.map_eq_some_iff.mpr ⟨stored, there, rfl⟩

end Switch

/-! ## Flushes of a switch -/

/-- What a flush says of the entries of a type that it took: the filter, and the type. -/
def FdbEvent.ofFlush (switchId : ObjectId) (attrs : List Attribute) (type : FdbEntryType) :
    FdbEvent :=
  ⟨.flushed,
    ⟨switchId, .zero, ((Attribute.last? attrs .fdbFlushBvId).bind AttrValue.oid?).getD .null⟩,
    [⟨.fdbEntryBridgePortId,
        .oid (((Attribute.last? attrs .fdbFlushBridgePortId).bind AttrValue.oid?).getD .null)⟩,
      ⟨.fdbEntryType, .s32 type.code⟩]⟩

theorem FlushFilter.Reads.event_eq {filter : FlushFilter} {attrs : List Attribute}
    (reads : filter.Reads attrs) (id : ObjectId) :
    filter.event id = FdbEvent.ofFlush id attrs := by
  have back (part : Option ObjectId) : (part.map AttrValue.oid).bind AttrValue.oid? = part := by
    cases part <;> rfl
  funext type
  unfold event FdbEvent.ofFlush
  rw [reads.bridgePort, reads.domain, back, back]
  rfl

namespace Chassis

/-- A flush by anything that is no part of a filter is refused and does nothing. -/
theorem outcome_flush_refused (chassis : Chassis) (id : ObjectId) (now : UInt64)
    {attrs : List Attribute} (other : ¬ ∀ attr ∈ attrs, attr.IsFlushPart) :
    ∃ fault, fault.status = .invalidParameter ∧
      chassis.outcome now (.call (.flush id attrs)) = ⟨.error fault, chassis, []⟩ := by
  obtain ⟨fault, refused, status⟩ := FlushFilter.ofAttributes_refused other
  refine ⟨fault, status, ?_⟩
  rw [outcome_reported rfl]
  unfold flush
  rw [refused, error_bind]
  rfl

variable (settings : Settings) (history : List (UInt64 × Command)) {index : UInt8}
  {switch : Switch}

/-- A switch is registered at the index in its id, and so its id finds it. -/
theorem find_id_run
    (registered : ((start settings).run history).switches.get? index = some switch) :
    switch.id.switchIndex = index ∧
      ((start settings).run history).switches.find switch.id = .ok switch := by
  have own : switch.id.switchIndex = index := by
    rw [isKept_id.run settings (fun _ _ => trivial) registered]
    exact ObjectId.switchIndex_ofSwitchIndex index
  refine ⟨own, Registry.find_eq_ok_iff.mpr ⟨id_type?_run settings history registered, ?_⟩⟩
  rw [own]
  exact registered

/-- A flush by parts of a filter is what the switch makes of the filter. -/
theorem outcome_flush_run
    (registered : ((start settings).run history).switches.get? index = some switch)
    {attrs : List Attribute} {filter : FlushFilter}
    (read : FlushFilter.ofAttributes attrs = .ok filter) (now : UInt64) :
    ((start settings).run history).outcome now (.call (.flush switch.id attrs)) =
      ⟨.ok (), ((start settings).run history).put switch.id (switch.flush switch.id filter).2,
        (switch.flush switch.id filter).1.map fun event => .fdbEvents [event]⟩ := by
  have found := (find_id_run settings history registered).2
  rw [outcome_reported rfl]
  unfold flush
  rw [read, ok_bind, onSwitch_eq_ok_iff.mpr ⟨switch, _, found, rfl, rfl⟩]
  rfl

/--
A flush of a switch by attributes of which one is no part of a filter is
refused as an invalid parameter and does nothing.  Else it takes the entries
that the parts that count let through, with their records and statistics, and
nothing else.  It reports the static ones among them in one event, and then the
dynamic ones.
-/
theorem flush_takes_selected_entries
    (registered : ((start settings).run history).switches.get? index = some switch)
    (now : UInt64) (attrs : List Attribute) :
    (¬ (∀ attr ∈ attrs, attr.IsFlushPart) → ∃ fault, fault.status = .invalidParameter ∧
      ((start settings).run history).outcome now (.call (.flush switch.id attrs)) =
        ⟨.error fault, (start settings).run history, []⟩) ∧
    ((∀ attr ∈ attrs, attr.IsFlushPart) → ∃ (next : Switch) (types : List FdbEntryType),
      ((start settings).run history).outcome now (.call (.flush switch.id attrs)) =
        ⟨.ok (), ((start settings).run history).put switch.id next,
          types.map fun type => .fdbEvents [.ofFlush switch.id attrs type]⟩ ∧
      switch.Loses (switch.IsSelected attrs) next ∧
      types.Sublist [.static, .dynamic] ∧
      ∀ type, type ∈ types ↔ switch.SelectsType attrs type) := by
  refine ⟨outcome_flush_refused _ switch.id now, fun parts => ?_⟩
  obtain ⟨filter, read, reads⟩ := FlushFilter.exists_reads parts
  have mirrored := mirrored_run settings history registered
  refine ⟨(switch.flush switch.id filter).2, switch.flushedTypes filter, ?_,
    mirrored.loses_flush reads parts switch.id, List.filter_sublist,
    fun type => mirrored.mem_flushedTypes_iff reads parts⟩
  rw [outcome_flush_run settings history registered read]
  unfold Switch.flush
  rw [reads.event_eq, List.map_map]
  rfl

/-- A dynamic and a static entry on the only port, and a static entry on no port. -/
def mixedEntries : List (UInt64 × Command) :=
  [(0, .call (.create .switch .null [])), (5, .learn inVlan onlyPort),
    (7, .call (.createEntry (.fdb inNone)
      [⟨.fdbEntryType, .s32 FdbEntryType.static.code⟩, ⟨.fdbEntryBridgePortId, .oid onlyPort⟩])),
    (8, .call (.createEntry (.fdb ⟨.ofSwitchIndex 0, .zero, .compose 0 .bridge 5⟩)
      [⟨.fdbEntryType, .s32 FdbEntryType.static.code⟩]))]

theorem flush_of_port_takes_both_types :
    let parts := [⟨.fdbFlushEntryType, .s32 FdbFlushEntryType.all.code⟩,
      ⟨.fdbFlushBridgePortId, .oid onlyPort⟩]
    ∃ switch next, ((start .singlePort).run mixedEntries).switches.get? 0 = some switch ∧
      ((start .singlePort).run mixedEntries).outcome 9 (.call (.flush switch.id parts)) =
        ⟨.ok (), ((start .singlePort).run mixedEntries).put switch.id next,
          [.fdbEvents [.ofFlush switch.id parts .static],
            .fdbEvents [.ofFlush switch.id parts .dynamic]]⟩ ∧
      switch.Loses (switch.IsSelected parts) next := by
  intro parts
  have areParts : ∀ attr ∈ parts, attr.IsFlushPart := by
    simp only [parts, List.forall_mem_cons]
    exact ⟨.entryType .all, .bridgePort onlyPort, fun _ => nofun⟩
  obtain ⟨switch, registered⟩ : ∃ switch,
      ((start .singlePort).run mixedEntries).switches.get? 0 = some switch :=
    Option.isSome_iff_exists.mp (by decide +kernel)
  obtain ⟨next, types, taken, loses, sublist, _⟩ :=
    (flush_takes_selected_entries .singlePort mixedEntries registered 9 parts).2 areParts
  have told : (((start .singlePort).run mixedEntries).outcome 9
      (.call (.flush (.ofSwitchIndex 0) parts))).notifications.length = 2 := by
    decide +kernel
  rw [← isKept_id.run .singlePort (fun _ _ => trivial) registered, taken, List.length_map] at told
  obtain rfl := sublist.eq_of_length told
  exact ⟨switch, next, registered, taken, loses⟩

end Chassis

end SwitchAbstraction
