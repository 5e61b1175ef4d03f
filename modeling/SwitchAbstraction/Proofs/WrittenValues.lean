import SwitchAbstraction.Checks
import SwitchAbstraction.Message
import SwitchAbstraction.Proofs.JsonRecords
import SwitchAbstraction.Proofs.Results

/-!
# Written values read back

Ids, keys, attribute values, attributes and messages are read back from what
they are written as.
-/

namespace SwitchAbstraction

open Json Text

/-- The name of a word is read as that word. -/
theorem Vocabulary.parse_name {α : Type} [Vocabulary α] (word : α) :
    parse α (name word) = .ok word := by
  unfold parse
  rw [ofName?_name]

/-! ## Ids -/

namespace ObjectId

/-- The text of an id is read as that id. -/
theorem ofText?_text (id : ObjectId) : ofText? id.text = some id := by
  have written : id.text.toList =
      'o' :: 'i' :: 'd' :: ':' :: '0' :: 'x' :: digits 16 id.raw.toNat := by
    simp [text, hexadecimal]
  have read : readUnsigned 16 UInt64.size (digits 16 id.raw.toNat) = .ok id.raw.toNat :=
    readUnsigned_digits (by decide) (by decide) id.raw.toNat_lt
  unfold ofText?
  rw [written]
  simp [read, Except.toOption]

theorem recovers : Recovers toJson ofJson? :=
  recovers_named ofText?_text

end ObjectId

/-! ## Records of entries -/

theorem FdbKey.recovers : Recovers toJson ofJson? where
  isReadable key := by
    apply isReadable_object
    simp [ObjectId.recovers.isReadable, IsReadable.string]
  read_write key := by
    have parts : (toJson key).fields? ["switch_id", "mac", "bvid"] =
        some [key.switchId.toJson, .string key.mac.text, key.bvId.toJson] :=
      fields?_object (by simp)
    have mac : (Json.string key.mac.text).named? Mac.ofText? = some key.mac :=
      Mac.ofText?_text key.mac
    unfold ofJson?
    rw [parts]
    simp [ObjectId.recovers.read_write, mac]

theorem RouteKey.recovers : Recovers toJson ofJson? where
  isReadable key := by
    apply isReadable_object
    simp [ObjectId.recovers.isReadable, IsReadable.string]
  read_write key := by
    have parts : (toJson key).fields? ["switch_id", "vr", "dest"] =
        some [key.switchId.toJson, key.routerId.toJson, .string key.destination.text] :=
      fields?_object (by simp)
    have destination : (Json.string key.destination.text).named?
        (fun text => (IpNetwork.parse text).toOption) = some key.destination := by
      unfold named?
      simp [string?, IpNetwork.parse_text, Except.toOption]
    unfold ofJson?
    rw [parts]
    simp [ObjectId.recovers.read_write, destination]

theorem NeighborKey.recovers : Recovers toJson ofJson? where
  isReadable key := by
    apply isReadable_object
    simp [ObjectId.recovers.isReadable, IsReadable.string]
  read_write key := by
    have parts : (toJson key).fields? ["switch_id", "rif", "ip"] =
        some [key.switchId.toJson, key.interfaceId.toJson, .string key.address.text] :=
      fields?_object (by simp)
    have address : (Json.string key.address.text).named? Ip.ofText? = some key.address :=
      Ip.ofText?_text key.address
    unfold ofJson?
    rw [parts]
    simp [ObjectId.recovers.read_write, address]

/-! ## Keys -/

/-- The bytes of a character of a text are among the bytes of the text, which are quick to read. -/
theorem Text.mem_bytes {text : String} {c : Char} (inside : c ∈ text.toList) {byte : UInt8}
    (encodes : byte ∈ String.utf8EncodeChar c) : byte ∈ text.toByteArray.data.toList := by
  have bytes : text.toByteArray.data.toList = text.toList.flatMap String.utf8EncodeChar := by
    rw [← String.utf8Encode_toList]
    simp [List.utf8Encode]
  rw [bytes]
  exact List.mem_flatMap.mpr ⟨c, inside, encodes⟩

namespace ObjectKey

/-- The key can stand for an object: an id names an object of a type that has ids. -/
def IsWellFormed : ObjectKey → Prop
  | .object id => ∃ type, id.type? = some type ∧ type.isIdAddressed = true
  | _ => True

theorem colon_not_mem_name (type : ObjectType) : ':' ∉ type.name.toList := by
  have bytes : ∀ type ∈ @Vocabulary.words ObjectType _,
      58 ∉ (Vocabulary.name type).toByteArray.data.toList := by
    decide +kernel
  intro inside
  exact bytes type (Vocabulary.mem_words type) (Text.mem_bytes inside (by decide))

/-- A key is read by reading its id as one of its type. -/
theorem parse_text_eq (key : ObjectKey) : parse key.text = parseId key.type key.idText := by
  have written : key.text.toList = key.type.name.toList ++ ':' :: key.idText.toList := by
    simp [text]
  have cut : cut? ':' key.text.toList = some (key.type.name.toList, key.idText.toList) := by
    rw [written]
    exact cut?_append _ (colon_not_mem_name key.type)
  have type : Vocabulary.parse ObjectType key.type.name = .ok key.type :=
    Vocabulary.parse_name key.type
  unfold parse
  rw [cut]
  simp only [String.ofList_toList, type]
  rfl

/-- A record of an entry is read back behind the word for its type. -/
theorem parseId_record {α : Type} {toJson : α → Json} {ofJson? : Json → Option α}
    (recovers : Recovers toJson ofJson?) {type : ObjectType} {toKey : α → ObjectKey}
    (entry : type = .fdbEntry ∨ type = .routeEntry ∨ type = .neighborEntry)
    (reader : ∀ json, ofRecord? type json = (ofJson? json).map toKey) (record : α) :
    parseId type (toJson record).text = .ok (toKey record) := by
  have read : (Json.ofText? (toJson record).text).bind (ofRecord? type) =
      some (toKey record) := by
    rw [ofText?_text (recovers.isReadable record), Option.bind_some, reader,
      recovers.read_write, Option.map_some]
  unfold parseId
  rw [if_pos entry, read]

/-- The text of a well-formed key is read as that key. -/
theorem parse_text {key : ObjectKey} (wellFormed : key.IsWellFormed) :
    parse key.text = .ok key := by
  rw [parse_text_eq]
  cases key with
  | object id =>
      obtain ⟨type, typed, addressed⟩ := wellFormed
      have own : (ObjectKey.object id).type = type := by simp [ObjectKey.type, typed]
      have noEntry : ¬ (type = .fdbEntry ∨ type = .routeEntry ∨ type = .neighborEntry) := by
        rintro (rfl | rfl | rfl) <;> cases addressed
      have real : type ≠ .null := by
        rintro rfl
        cases addressed
      have read : ObjectId.parse id.text = .ok id := by
        unfold ObjectId.parse
        rw [ObjectId.ofText?_text]
      have passes : id.expectType type = .ok () := (ObjectId.expectType_eq_ok_iff real).mpr typed
      rw [own]
      unfold parseId idText
      rw [if_neg noEntry, if_pos addressed, read]
      change (id.expectType type >>= fun _ => Except.ok (ObjectKey.object id)) = _
      rw [passes]
      rfl
  | fdb key => exact parseId_record FdbKey.recovers (by simp [ObjectKey.type]) (fun _ => rfl) key
  | route key =>
      exact parseId_record RouteKey.recovers (by simp [ObjectKey.type]) (fun _ => rfl) key
  | neighbor key =>
      exact parseId_record NeighborKey.recovers (by simp [ObjectKey.type]) (fun _ => rfl) key

end ObjectKey

/-! ## Attributes -/

theorem SizedList.recovers {α : Type} {ofItem : α → Json} {item? : Json → Option α}
    (items : Recovers ofItem item?) : Recovers (toJson ofItem) (ofJson? item?) where
  isReadable list := by
    apply isReadable_object
    simp [recovers_uint32.isReadable, items.list.isReadable]
  read_write list := by
    have parts : (toJson ofItem list).fields? ["count", "items"] =
        some [.ofNat list.count.toNat, .ofList ofItem list.items] :=
      fields?_object (by simp)
    unfold ofJson?
    rw [parts]
    simp [recovers_uint32.read_write, items.list.read_write]

namespace AttrValue

theorem find?_tag (kind : ValueKind) :
    (kinds.find? fun other => tag other = tag kind) = some kind := by
  cases kind <;> decide

theorem isReadable_payload (value : AttrValue) : value.payload.IsReadable := by
  cases value with
  | bool value => exact .bool value
  | u8 word => exact recovers_uint8.isReadable word
  | u16 word => exact recovers_uint16.isReadable word
  | u32 word => exact recovers_uint32.isReadable word
  | s32 word => exact recovers_int32.isReadable word
  | u64 word => exact recovers_uint64.isReadable word
  | mac mac => exact .string mac.text
  | ip address => exact .string address.text
  | oid id => exact .string id.text
  | oidList list => exact (SizedList.recovers ObjectId.recovers).isReadable list
  | u32List list => exact (SizedList.recovers recovers_uint32).isReadable list
  | s32List list => exact (SizedList.recovers recovers_int32).isReadable list
  | charData value => exact .string value

/-- What stands behind the member name of its kind is read as the value. -/
theorem ofPayload?_payload (value : AttrValue) :
    ofPayload? value.payload value.kind = some value := by
  cases value with
  | bool value => rfl
  | u8 word => exact congrArg (Option.map AttrValue.u8) (recovers_uint8.read_write word)
  | u16 word => exact congrArg (Option.map AttrValue.u16) (recovers_uint16.read_write word)
  | u32 word => exact congrArg (Option.map AttrValue.u32) (recovers_uint32.read_write word)
  | s32 word => exact congrArg (Option.map AttrValue.s32) (recovers_int32.read_write word)
  | u64 word => exact congrArg (Option.map AttrValue.u64) (recovers_uint64.read_write word)
  | mac mac => exact congrArg (Option.map AttrValue.mac) (Mac.ofText?_text mac)
  | ip address => exact congrArg (Option.map AttrValue.ip) (Ip.ofText?_text address)
  | oid id => exact congrArg (Option.map AttrValue.oid) (ObjectId.ofText?_text id)
  | oidList list =>
      have read := (SizedList.recovers ObjectId.recovers).read_write list
      exact congrArg (Option.map AttrValue.oidList) read
  | u32List list =>
      have read := (SizedList.recovers recovers_uint32).read_write list
      exact congrArg (Option.map AttrValue.u32List) read
  | s32List list =>
      have read := (SizedList.recovers recovers_int32).read_write list
      exact congrArg (Option.map AttrValue.s32List) read
  | charData value => rfl

theorem recovers : Recovers toJson ofJson? where
  isReadable value := by
    apply isReadable_object
    simpa using isReadable_payload value
  read_write value := by
    have found := find?_tag value.kind
    have read := ofPayload?_payload value
    unfold toJson ofJson?
    dsimp only
    rw [found, Option.bind_some, read]

/-- The JSON text of a value is read as that value. -/
theorem ofText?_text (value : AttrValue) : ofText? value.text = some value :=
  recovers.ofText? value

end AttrValue

namespace Attribute

theorem recovers : Recovers toJson ofJson? where
  isReadable attr := by
    apply isReadable_object
    simp [AttrValue.recovers.isReadable, IsReadable.string]
  read_write attr := by
    have parts : (toJson attr).fields? ["id", "value"] =
        some [.string attr.id.name, attr.value.toJson] :=
      fields?_object (by simp)
    have id : (Json.string attr.id.name).named? (Vocabulary.ofName? AttrId) = some attr.id :=
      recovers_word.read_write attr.id
    unfold ofJson?
    rw [parts]
    simp [id, AttrValue.recovers.read_write]

/-- Attributes are read back from the fields that carry them, in their order. -/
theorem ofFields_toFields (attrs : List Attribute) : ofFields (toFields attrs) = .ok attrs := by
  have single (attr : Attribute) : ofField (attr.id.name, attr.value.text) = .ok attr := by
    have id : Vocabulary.parse AttrId attr.id.name = .ok attr.id :=
      Vocabulary.parse_name attr.id
    unfold ofField
    dsimp only
    rw [id, AttrValue.ofText?_text]
  exact mapM_map_of_inverse single attrs

end Attribute

/-! ## Messages -/

/-- A message is read back from its payload. -/
theorem Message.decode_encode (message : Message) : decode message.encode = .ok message := by
  have texts : (Json.ofText? message.encode).bind (Json.list? Json.string?) =
      some message.toWire := recovers_string.list.ofText? message.toWire
  unfold decode
  rw [texts]
  exact ofWire_toWire message

end SwitchAbstraction
