import SwitchAbstraction.Switch.Learning

/-!
# Removing forwarding entries

Entries leave a switch when they have aged or when they are flushed.
-/

namespace SwitchAbstraction

/-!
## Aging

Learned entries that have not been seen for the aging time of their switch
are removed, each with a report of its own.  An aging time of zero keeps them
for ever, and a clock that was put back makes no entry older.
-/

namespace Switch

/-- The aging time of the switch, in seconds. -/
def agingTime (switch : Switch) : UInt32 :=
  ((switch.byId? switch.id).bind fun attrs => attrs.u32? .switchFdbAgingTime).getD 0

/-- Whether a learned entry has reached the aging time. -/
def isExpired (switch : Switch) (now : UInt64) (entry : LearnedEntry) : Bool :=
  let aging := switch.agingTime.toNat
  aging ≠ 0 && aging ≤ now.toNat - entry.learnedAt.toNat

/-- The learned entries that have reached the aging time, in the order of their keys. -/
def expired (switch : Switch) (now : UInt64) : OrderedMap FdbKey LearnedEntry :=
  switch.learned.filter fun _ entry => switch.isExpired now entry

/-- What is said of an entry that has aged out. -/
def agedEvent (key : FdbKey) (entry : LearnedEntry) : FdbEvent :=
  ⟨.aged, key, [FdbEntryType.dynamic.toAttribute, FdbEvent.portAttribute entry.bridgePort]⟩

/-- Lets one entry go: its record, and the object behind it if there is one. -/
def expire (switch : Switch) (key : FdbKey) : Switch :=
  let forgotten := switch.forgetLearned key
  match forgotten.remove? (.fdb key) with
  | some (_, rest) => rest
  | none => forgotten

/-- Lets entries go one by one, and lists those whose record had no object behind it. -/
def expireAll (switch : Switch) : List FdbKey → List FdbKey × Switch
  | [] => ([], switch)
  | key :: rest =>
      let (strays, final) := (switch.expire key).expireAll rest
      (if switch.contains (.fdb key) then strays else key :: strays, final)

/-- The entries that have reached the aging time without an object behind their record. -/
def strays (switch : Switch) (now : UInt64) : List FdbKey :=
  (switch.expireAll (switch.expired now).keys).1

/-- Removes the entries that have reached the aging time, with one report each. -/
def age (switch : Switch) (now : UInt64) : List FdbEvent × Switch :=
  ((switch.expired now).entries.map fun entry => agedEvent entry.1 entry.2,
    (switch.expireAll (switch.expired now).keys).2)

end Switch

/-!
## Flushing

A flush removes the forwarding entries of a switch that pass a filter.  The
filter is given as attributes, of which each kind may be left out; of a kind
that is given twice the last one counts.  Static and dynamic entries are
reported in one event each, if there were any.
-/

/-- Which entries a flush selects; a part left out selects all. -/
structure FlushFilter where
  bridgePort : Option ObjectId
  domain : Option ObjectId
  type : Option FdbFlushEntryType
  deriving DecidableEq

namespace FlushFilter

/-- The filter that selects every entry. -/
def all : FlushFilter :=
  ⟨none, none, none⟩

/-- Reads the entry type that a flush attribute selects. -/
def typeOfValue (value : AttrValue) : Except Fault FdbFlushEntryType :=
  match value.s32?.bind FdbFlushEntryType.ofCode? with
  | some type => .ok type
  | none => .error (.invalid (.badFlushType value))

/-- The filter with one part replaced by an attribute. -/
def refine (filter : FlushFilter) (attr : Attribute) : Except Fault FlushFilter :=
  match attr.checkKind with
  | .error fault => .error fault
  | .ok () =>
      match attr.id with
      | .fdbFlushBridgePortId => .ok { filter with bridgePort := attr.value.oid? }
      | .fdbFlushBvId => .ok { filter with domain := attr.value.oid? }
      | .fdbFlushEntryType =>
          (typeOfValue attr.value).map fun type => { filter with type := some type }
      | other => .error (.invalid (.notFlushAttribute other))

/-- Reads a filter from attributes. -/
def ofAttributes (attrs : List Attribute) : Except Fault FlushFilter :=
  attrs.foldlM refine all

/-- The type of a stored entry, which counts as static if it says nothing else. -/
def storedType (attrs : Attributes) : FdbEntryType :=
  ((attrs.s32? .fdbEntryType).bind FdbEntryType.ofCode?).getD .static

/-- Whether the filter selects entries of a type. -/
def admits (filter : FlushFilter) (type : FdbEntryType) : Bool :=
  match filter.type.getD .all with
  | .all => true
  | .dynamic => type = .dynamic
  | .static => type = .static

/-- Whether the filter selects an entry. -/
def selects (filter : FlushFilter) (key : FdbKey) (attrs : Attributes) : Bool :=
  filter.bridgePort.all (fun port => attrs.oid? .fdbEntryBridgePortId = some port) &&
    filter.domain.all (fun domain => key.bvId = domain) &&
    filter.admits (storedType attrs)

/-- What is said of the flushed entries of a type. -/
def event (filter : FlushFilter) (switchId : ObjectId) (type : FdbEntryType) : FdbEvent :=
  ⟨.flushed, ⟨switchId, .zero, filter.domain.getD .null⟩,
    [FdbEvent.portAttribute (filter.bridgePort.getD .null), type.toAttribute]⟩

end FlushFilter

namespace Switch

/-- Whether a filter selects the stored entry with a key. -/
def isFlushed (switch : Switch) (filter : FlushFilter) (key : FdbKey) : Bool :=
  (switch.object? (.fdb key)).any (filter.selects key)

/-- Whether a stored object is an entry of a type that a filter selects. -/
def isFlushedAs (filter : FlushFilter) (type : FdbEntryType) : ObjectKey × Attributes → Bool
  | (.fdb key, attrs) => filter.selects key attrs && FlushFilter.storedType attrs = type
  | _ => false

/-- The types of the entries that a filter selects, static ones first. -/
def flushedTypes (switch : Switch) (filter : FlushFilter) : List FdbEntryType :=
  [.static, .dynamic].filter fun type => switch.objects.entries.any (isFlushedAs filter type)

/-- Removes the entries that a filter selects, with one report a type. -/
def flush (switch : Switch) (switchId : ObjectId) (filter : FlushFilter) :
    List FdbEvent × Switch :=
  ((switch.flushedTypes filter).map (filter.event switchId),
    switch.withoutEntries (switch.isFlushed filter))

end Switch

end SwitchAbstraction
