import SwitchAbstraction.Enumeration
import SwitchAbstraction.Notification
import SwitchAbstraction.Switch

/-!
# Learned forwarding entries

How the index of learned entries follows the entries, and what becomes of an
address that is seen.
-/

namespace SwitchAbstraction

/-!
## Learned entries

A dynamic forwarding entry lives twice: as an object and as a record in the
index of learned entries, which knows when it was learned.  The two are
brought in line after every change to an entry, and dropped together.
-/

namespace Switch

/-- The VLAN number of a bridge or VLAN domain; zero if it is no VLAN. -/
def vlanOf (switch : Switch) (domain : ObjectId) : UInt16 :=
  ((switch.byId? domain).bind fun attrs => attrs.u16? .vlanVlanId).getD 0

/-- Whether a forwarding entry is dynamic. -/
def isDynamic (attrs : Attributes) : Bool :=
  attrs.s32? .fdbEntryType = some FdbEntryType.dynamic.code

/-- The bridge port of a forwarding entry. -/
def bridgePort (attrs : Attributes) : ObjectId :=
  (attrs.oid? .fdbEntryBridgePortId).getD .null

/-- When an entry was learned: what the index says, or now if it says nothing. -/
def learnedAt (switch : Switch) (key : FdbKey) (now : UInt64) : UInt64 :=
  ((switch.learned.get? key).map LearnedEntry.learnedAt).getD now

/--
Brings the index in line with a stored entry.  Only dynamic entries have a
record; one that is there already keeps its time.
-/
def syncLearned (switch : Switch) (key : FdbKey) (now : UInt64) : Switch :=
  match (switch.object? (.fdb key)).filter isDynamic with
  | none => { switch with learned := switch.learned.erase key }
  | some attrs =>
      { switch with
        learned := switch.learned.insert key {
          bridgePort := bridgePort attrs
          vlan := switch.vlanOf key.bvId
          learnedAt := switch.learnedAt key now } }

/-- Drops the record of an entry, so that it counts as learned anew. -/
def forgetLearned (switch : Switch) (key : FdbKey) : Switch :=
  { switch with learned := switch.learned.erase key }

/-- Whether a key names one of the forwarding entries that a test selects. -/
def selects (gone : FdbKey → Bool) : ObjectKey → Bool
  | .fdb key => gone key
  | _ => false

/-- The switch without the forwarding entries that a test selects. -/
def withoutEntries (switch : Switch) (gone : FdbKey → Bool) : Switch :=
  { switch with
    objects := switch.objects.filter fun key _ => !selects gone key
    counters := switch.counters.filter fun key _ => !selects gone key
    learned := switch.learned.filter fun key _ => !gone key }

end Switch

/-!
## Learning

An address seen on a bridge port becomes a dynamic forwarding entry.  Seen
again, the entry starts its life anew, and it moves if the port is another
one.  Static entries stay as they are.
-/

/-- Reads the type of a forwarding entry. -/
def FdbEntryType.ofValue (value : AttrValue) : Except Fault FdbEntryType :=
  match value.s32?.bind ofCode? with
  | some type => .ok type
  | none => .error (.invalid (.badEntryType value))

/-- The attribute that carries the type of a forwarding entry. -/
def FdbEntryType.toAttribute (type : FdbEntryType) : Attribute :=
  ⟨.fdbEntryType, .s32 type.code⟩

/-- The attribute that carries the bridge port of a forwarding entry. -/
def FdbEvent.portAttribute (port : ObjectId) : Attribute :=
  ⟨.fdbEntryBridgePortId, .oid port⟩

/-- What is said of an entry that was learned or has moved. -/
def FdbEvent.ofLearning (type : FdbEventType) (key : FdbKey) (port : ObjectId) : FdbEvent :=
  ⟨type, key,
    [FdbEntryType.dynamic.toAttribute, ⟨.fdbEntryPacketAction, .s32 PacketAction.forward.code⟩,
      portAttribute port]⟩

namespace Switch

/-- The attributes of an entry that is learned on a port. -/
def learnedAttributes (port : ObjectId) : Attributes :=
  .ofList
    [FdbEntryType.dynamic.toAttribute, ⟨.fdbEntryPacketAction, .s32 PacketAction.forward.code⟩,
      FdbEvent.portAttribute port]

/-- Adds an entry that was not there before. -/
def addLearned (switch : Switch) (key : FdbKey) (port : ObjectId) (now : UInt64) :
    Except Fault Switch :=
  (switch.insert (.fdb key) (learnedAttributes port)).map fun added => added.syncLearned key now

/-- Puts a dynamic entry on a port and starts its life anew. -/
def moveLearned (switch : Switch) (key : FdbKey) (port : ObjectId) (now : UInt64) : Switch :=
  switch.setAttr (.fdb key) .fdbEntryBridgePortId (.oid port)
    |>.forgetLearned key
    |>.syncLearned key now

/-- Records an address seen on a bridge port of the switch, with what there is to report. -/
def learn (switch : Switch) (key : FdbKey) (port : ObjectId) (now : UInt64) :
    Except Fault (List FdbEvent × Switch) :=
  if (switch.byId? port).isNone then .error (.notFound (.ofId port))
  else
    match switch.object? (.fdb key) with
    | none =>
        (switch.addLearned key port now).map fun added =>
          ([.ofLearning .learned key port], added)
    | some attrs =>
        match (attrs.get? .fdbEntryType).mapM FdbEntryType.ofValue with
        | .error fault => .error fault
        | .ok (some .static) => .ok ([], switch)
        | .ok _ =>
            let events :=
              if attrs.oid? .fdbEntryBridgePortId = some port then []
              else [.ofLearning .move key port]
            .ok (events, switch.moveLearned key port now)

end Switch

end SwitchAbstraction
