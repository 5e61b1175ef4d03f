import SwitchAbstraction.Address
import SwitchAbstraction.Json
import SwitchAbstraction.Json.Reader
import SwitchAbstraction.ObjectId

/-!
# Object keys

An object is addressed by its id or, for forwarding, route and neighbor
entries, by a record of what it is about.  Each key has one canonical text:
the word for its type, a colon, and either the id or the record as JSON.
-/

namespace SwitchAbstraction

namespace ObjectId

/-- An id as a JSON string. -/
def toJson (id : ObjectId) : Json :=
  .string id.text

/-- Reads an id from a JSON string. -/
def ofJson? (json : Json) : Option ObjectId :=
  json.named? ofText?

end ObjectId

/-- The key of a forwarding entry: an address within a bridge or VLAN. -/
structure FdbKey where
  switchId : ObjectId
  mac : Mac
  bvId : ObjectId
  deriving DecidableEq

namespace FdbKey

/-- The members of the record. -/
def toJson (key : FdbKey) : Json :=
  .object
    [("switch_id", key.switchId.toJson), ("mac", .string key.mac.text),
      ("bvid", key.bvId.toJson)]

/-- Reads the record. -/
def ofJson? (json : Json) : Option FdbKey := do
  match ← json.fields? ["switch_id", "mac", "bvid"] with
  | [switchId, mac, bvId] =>
      return {
        switchId := ← ObjectId.ofJson? switchId
        mac := ← mac.named? Mac.ofText?
        bvId := ← ObjectId.ofJson? bvId }
  | _ => none

/-- Forwarding entries go by switch, then address, then bridge or VLAN. -/
instance : Ranked FdbKey where
  rank key := key.switchId.raw.toNat :: (Ranked.rank key.mac ++ [key.bvId.raw.toNat])
  rank_injective {first second} same := by
    obtain ⟨switches, others⟩ := List.cons.inj same
    obtain ⟨macs, bridges⟩ := List.append_inj' others rfl
    have macs := Ranked.rank_injective macs
    simp only [List.cons.injEq, and_true, UInt64.toNat_inj] at bridges
    rw [UInt64.toNat_inj] at switches
    obtain ⟨⟨_⟩, _, ⟨_⟩⟩ := first
    obtain ⟨⟨_⟩, _, ⟨_⟩⟩ := second
    simp_all

end FdbKey

/-- The key of a route: a destination seen by a virtual router. -/
structure RouteKey where
  switchId : ObjectId
  routerId : ObjectId
  destination : IpNetwork
  deriving DecidableEq

namespace RouteKey

/-- The members of the record. -/
def toJson (key : RouteKey) : Json :=
  .object
    [("switch_id", key.switchId.toJson), ("vr", key.routerId.toJson),
      ("dest", .string key.destination.text)]

/-- Reads the record. -/
def ofJson? (json : Json) : Option RouteKey := do
  match ← json.fields? ["switch_id", "vr", "dest"] with
  | [switchId, routerId, destination] =>
      return {
        switchId := ← ObjectId.ofJson? switchId
        routerId := ← ObjectId.ofJson? routerId
        destination := ← destination.named? fun text => (IpNetwork.parse text).toOption }
  | _ => none

end RouteKey

/-- The key of a neighbor: an address behind a router interface. -/
structure NeighborKey where
  switchId : ObjectId
  interfaceId : ObjectId
  address : Ip
  deriving DecidableEq

namespace NeighborKey

/-- The members of the record. -/
def toJson (key : NeighborKey) : Json :=
  .object
    [("switch_id", key.switchId.toJson), ("rif", key.interfaceId.toJson),
      ("ip", .string key.address.text)]

/-- Reads the record. -/
def ofJson? (json : Json) : Option NeighborKey := do
  match ← json.fields? ["switch_id", "rif", "ip"] with
  | [switchId, interfaceId, address] =>
      return {
        switchId := ← ObjectId.ofJson? switchId
        interfaceId := ← ObjectId.ofJson? interfaceId
        address := ← address.named? Ip.ofText? }
  | _ => none

end NeighborKey

/-- The key of any object. -/
inductive ObjectKey
  | object (id : ObjectId)
  | fdb (key : FdbKey)
  | route (key : RouteKey)
  | neighbor (key : NeighborKey)
  deriving DecidableEq

namespace ObjectKey

/-- The type of the object: the one in its id, or the one of the record. -/
def type : ObjectKey → ObjectType
  | .object id => id.type?.getD .null
  | .fdb _ => .fdbEntry
  | .route _ => .routeEntry
  | .neighbor _ => .neighborEntry

/-- The switch that the object belongs to. -/
def switchId : ObjectKey → ObjectId
  | .object id => id.switchId
  | .fdb key => key.switchId
  | .route key => key.switchId
  | .neighbor key => key.switchId

/-- The object's id, if it is addressed by one. -/
def id? : ObjectKey → Option ObjectId
  | .object id => some id
  | _ => none

/-- The canonical text of the key without its type. -/
def idText : ObjectKey → String
  | .object id => id.text
  | .fdb key => key.toJson.text
  | .route key => key.toJson.text
  | .neighbor key => key.toJson.text

/-- The canonical text of the key. -/
def text (key : ObjectKey) : String :=
  key.type.name ++ ":" ++ key.idText

/--
Ids come before forwarding entries, these before routes, and these before
neighbors; keys of one shape go by their parts.
-/
def order : ObjectKey → List Nat
  | .object id => [0, id.type?.elim 256 ObjectType.number, id.raw.toNat]
  | .fdb key => 1 :: Ranked.rank key
  | .route key =>
      2 :: key.switchId.raw.toNat :: key.routerId.raw.toNat :: Ranked.rank key.destination
  | .neighbor key =>
      3 :: key.switchId.raw.toNat :: key.interfaceId.raw.toNat :: Ranked.rank key.address

theorem order_injective {first second : ObjectKey} (same : first.order = second.order) :
    first = second := by
  cases first <;> cases second <;>
    simp only [order, List.cons.injEq, UInt64.toNat_inj] at same <;> try omega
  case object.object first second =>
    cases first
    cases second
    simp_all
  case fdb.fdb first second => rw [Ranked.rank_injective same.2]
  case route.route first second =>
    have destinations := Ranked.rank_injective same.2.2.2
    obtain ⟨⟨_⟩, ⟨_⟩, _⟩ := first
    obtain ⟨⟨_⟩, ⟨_⟩, _⟩ := second
    simp_all
  case neighbor.neighbor first second =>
    have addresses := Ranked.rank_injective same.2.2.2
    obtain ⟨⟨_⟩, ⟨_⟩, _⟩ := first
    obtain ⟨⟨_⟩, ⟨_⟩, _⟩ := second
    simp_all

/-- In a store, objects are grouped by the number of their type. -/
instance : Ranked ObjectKey where
  rank key := key.type.number :: key.order
  rank_injective same := order_injective (List.cons.inj same).2

/-- Keys in ascending order; equal keys all stay. -/
def sort (keys : List ObjectKey) : List ObjectKey :=
  keys.mergeSort fun first second => !decide (LexBefore second.order first.order)

end ObjectKey

end SwitchAbstraction
