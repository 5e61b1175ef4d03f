import SwitchAbstraction.Notification
import SwitchAbstraction.Proofs.WrittenValues
import SwitchAbstraction.Remote.Client

/-!
# Messages arrive as they were sent

A request, a response or a notification is written as a message, and that as a
payload.  Who reads the payload on the other side gets what was sent.  Messages
match the lists of texts that they travel as one to one.
-/

namespace SwitchAbstraction

open Json

/-! ## Messages -/

namespace Message

variable {texts : List String} {fields : List Field}

/-- Texts pair up in one way only, as the fields that flatten to them. -/
theorem unflatten?_eq_some_iff : unflatten? texts = some fields ↔ flatten fields = texts := by
  constructor
  · intro paired
    fun_induction unflatten? texts generalizing fields with
    | case1 =>
        cases paired
        rfl
    | case2 text => cases paired
    | case3 name value rest ih =>
        obtain ⟨others, later, rfl⟩ := Option.map_eq_some_iff.mp paired
        rw [flatten, ih later]
  · rintro rfl
    exact unflatten?_flatten fields

/-- Texts pair up exactly when their number is even. -/
theorem exists_unflatten?_iff : (∃ fields, unflatten? texts = some fields) ↔
    texts.length % 2 = 0 := by
  fun_induction unflatten? texts with
  | case1 => simp
  | case2 text => simp
  | case3 name value rest ih =>
      have parity : (name :: value :: rest).length % 2 = rest.length % 2 := Nat.add_mod_right _ 2
      rw [parity, ← ih]
      simp

variable {message : Message} {wire : List String}

/-- A list of texts is read as the message that has it as its wire form. -/
theorem ofWire_eq_ok_iff : ofWire wire = .ok message ↔ message.toWire = wire := by
  constructor
  · intro read
    unfold ofWire at read
    split at read
    · next key op rest =>
        cases paired : unflatten? rest with
        | none =>
            rw [paired] at read
            cases read
        | some fields =>
            rw [paired] at read
            cases read
            rw [toWire, unflatten?_eq_some_iff.mp paired]
    · cases read
  · rintro rfl
    exact ofWire_toWire message

theorem exists_ofWire_iff :
    (∃ message, ofWire wire = .ok message) ↔ wire.length % 2 = 0 ∧ 2 ≤ wire.length := by
  constructor
  · rintro ⟨message, read⟩
    obtain rfl := ofWire_eq_ok_iff.mp read
    have even : (flatten message.fields).length % 2 = 0 :=
      exists_unflatten?_iff.mp ⟨_, unflatten?_flatten message.fields⟩
    simp only [toWire, List.length_cons]
    omega
  · rintro ⟨even, two⟩
    rcases wire with _ | ⟨key, _ | ⟨op, rest⟩⟩
    · cases two
    · cases Nat.le_of_succ_le_succ two
    · have evenRest : rest.length % 2 = 0 := by
        simp only [List.length_cons] at even
        omega
      obtain ⟨fields, paired⟩ := exists_unflatten?_iff.mpr evenRest
      refine ⟨⟨op, key, fields⟩, ofWire_eq_ok_iff.mpr ?_⟩
      rw [toWire, unflatten?_eq_some_iff.mp paired]

/--
A message is read back from its wire form and from its payload.  Every list of
an even number of texts, two at least, is the wire form of a message, which is
the one that is read from it; other lists are refused.  So no two messages
share their wire form or their payload.
-/
theorem messages_match_wire_forms (message : Message) (wire : List String) :
    ofWire message.toWire = .ok message ∧ decode message.encode = .ok message ∧
      ((∃ read, ofWire wire = .ok read) ↔ wire.length % 2 = 0 ∧ 2 ≤ wire.length) ∧
      (∀ read, ofWire wire = .ok read ↔ read.toWire = wire) ∧
      Function.Injective toWire ∧ Function.Injective encode := by
  refine ⟨ofWire_toWire message, decode_encode message, exists_ofWire_iff,
    fun _ => ofWire_eq_ok_iff, ?_, ?_⟩
  · intro first second same
    have read : ofWire first.toWire = .ok second := ofWire_eq_ok_iff.mpr same.symm
    rw [ofWire_toWire] at read
    exact Except.ok.inj read
  · intro first second same
    have read := decode_encode first
    rw [same, decode_encode] at read
    exact (Except.ok.inj read).symm

end Message

/-! ## Requests and responses -/

namespace Remote

/--
A request that goes over the wire arrives with its operation, with a key that
names the same object, and with the same attributes in the same order.
-/
theorem decode_request (op : String) (key : ObjectKey) (attrs : List Attribute)
    (wellFormed : key.IsWellFormed) :
    ∃ message, Message.decode (request op key (Attribute.toFields attrs)).encode = .ok message ∧
      message.op = op ∧
      ObjectKey.parse message.key = .ok key ∧
      Attribute.ofFields message.fields = .ok attrs := by
  refine ⟨request op key (Attribute.toFields attrs), ?_, rfl, ?_, ?_⟩
  · exact Message.decode_encode _
  · exact ObjectKey.parse_text wellFormed
  · exact Attribute.ofFields_toFields attrs

/-- A port, and a text of which each character has to be escaped. -/
theorem decode_request_port :
    ∃ message, Message.decode (request RequestOp.create.name
        (.object (.compose 1 .port 7))
        (Attribute.toFields [⟨.switchHardwareInfo, .charData "\"\\\n"⟩])).encode = .ok message ∧
      message.op = RequestOp.create.name ∧
      ObjectKey.parse message.key = .ok (.object (.compose 1 .port 7)) ∧
      Attribute.ofFields message.fields =
        .ok [⟨.switchHardwareInfo, .charData "\"\\\n"⟩] := by
  have wellFormed : (ObjectKey.object (.compose 1 .port 7)).IsWellFormed :=
    ⟨.port, by decide, rfl⟩
  exact decode_request _ _ _ wellFormed

/-- A response is read as the status and the fields that it was made of. -/
theorem readResponse_response (status : Status) (fields : List Field) :
    Session.readResponse (response status fields).encode = .ok (status, fields) := by
  have read : Message.decode (response status fields).encode = .ok (response status fields) :=
    Message.decode_encode _
  have named : Vocabulary.parse Status status.name = .ok status := Vocabulary.parse_name status
  unfold Session.readResponse
  rw [read]
  change parseResponse (response status fields) = _
  unfold parseResponse response
  simp [named, Except.map]

end Remote

/-! ## Notifications -/

theorem FdbEvent.recovers : Recovers toJson ofJson? where
  isReadable event := by
    apply isReadable_object
    simp [FdbKey.recovers.isReadable, Attribute.recovers.list.isReadable, IsReadable.string]
  read_write event := by
    have parts : (toJson event).fields? ["event_type", "fdb_entry", "attrs"] =
        some [.string event.type.name, event.entry.toJson,
          .ofList Attribute.toJson event.attrs] :=
      fields?_object (by simp)
    have type : (Json.string event.type.name).named? (Vocabulary.ofName? FdbEventType) =
        some event.type := recovers_word.read_write event.type
    unfold ofJson?
    rw [parts]
    simp [type, FdbKey.recovers.read_write, Attribute.recovers.list.read_write]

theorem PortStatusChange.recovers : Recovers toJson ofJson? where
  isReadable change := by
    apply isReadable_object
    simp [ObjectId.recovers.isReadable, IsReadable.string]
  read_write change := by
    have parts : (toJson change).fields? ["port_id", "status"] =
        some [change.port.toJson, .string change.status.name] :=
      fields?_object (by simp)
    have status : (Json.string change.status.name).named? (Vocabulary.ofName? PortOperStatus) =
        some change.status := recovers_word.read_write change.status
    unfold ofJson?
    rw [parts]
    simp [status, ObjectId.recovers.read_write]

theorem PortEvent.recovers : Recovers toJson ofJson? where
  isReadable event := by
    apply isReadable_object
    simp [ObjectId.recovers.isReadable, IsReadable.string]
  read_write event := by
    have parts : (toJson event).fields? ["port_id", "event"] =
        some [event.port.toJson, .string event.event.name] :=
      fields?_object (by simp)
    have kind : (Json.string event.event.name).named? (Vocabulary.ofName? PortEventType) =
        some event.event := recovers_word.read_write event.event
    unfold ofJson?
    rw [parts]
    simp [kind, ObjectId.recovers.read_write]

theorem PacketEvent.recovers : Recovers toJson ofJson? where
  isReadable event := by
    apply isReadable_object
    simp [ObjectId.recovers.isReadable, Attribute.recovers.list.isReadable,
      recovers_uint8.list.isReadable]
  read_write event := by
    have parts : (toJson event).fields? ["switch_id", "packet", "attrs"] =
        some [event.switchId.toJson, .ofList (fun byte => .ofNat byte.toNat) event.packet,
          .ofList Attribute.toJson event.attrs] :=
      fields?_object (by simp)
    unfold ofJson?
    rw [parts]
    simp [ObjectId.recovers.read_write, recovers_uint8.list.read_write,
      Attribute.recovers.list.read_write]

namespace Notification

/-- Nothing in the payload of a notification is unreadable. -/
theorem isReadable_payload (notification : Notification) : notification.payload.IsReadable := by
  cases notification with
  | switchStateChange switchId status =>
      apply isReadable_object
      simp [ObjectId.recovers.isReadable, IsReadable.string]
  | fdbEvents events => exact FdbEvent.recovers.list.isReadable events
  | portStatusChanges changes => exact PortStatusChange.recovers.list.isReadable changes
  | portEvents events => exact PortEvent.recovers.list.isReadable events
  | switchShutdownRequest switchId => exact ObjectId.recovers.isReadable switchId
  | packet event => exact PacketEvent.recovers.isReadable event

theorem switchStateOfJson?_payload (switchId : ObjectId) (status : SwitchOperStatus) :
    switchStateOfJson? (switchStateChange switchId status).payload =
      some (switchStateChange switchId status) := by
  have parts : (switchStateChange switchId status).payload.fields? ["switch_id", "status"] =
      some [switchId.toJson, .string status.name] :=
    fields?_object (by simp)
  have named : (Json.string status.name).named? (Vocabulary.ofName? SwitchOperStatus) =
      some status := recovers_word.read_write status
  unfold switchStateOfJson?
  rw [parts]
  simp [named, ObjectId.recovers.read_write]

/-- The operation of a notification picks the reader that understands its payload. -/
theorem exists_reader (notification : Notification) :
    ∃ read, reader? notification.op = some read ∧
      read notification.payload = some notification := by
  cases notification with
  | switchStateChange switchId status =>
      exact ⟨_, rfl, switchStateOfJson?_payload switchId status⟩
  | fdbEvents events =>
      have read := FdbEvent.recovers.list.read_write events
      exact ⟨_, rfl, congrArg (Option.map fdbEvents) read⟩
  | portStatusChanges changes =>
      have read := PortStatusChange.recovers.list.read_write changes
      exact ⟨_, rfl, congrArg (Option.map portStatusChanges) read⟩
  | portEvents events =>
      have read := PortEvent.recovers.list.read_write events
      exact ⟨_, rfl, congrArg (Option.map portEvents) read⟩
  | switchShutdownRequest switchId =>
      have read := ObjectId.recovers.read_write switchId
      exact ⟨_, rfl, congrArg (Option.map switchShutdownRequest) read⟩
  | packet event =>
      have read := PacketEvent.recovers.read_write event
      exact ⟨_, rfl, congrArg (Option.map packet) read⟩

/-- A notification is read from the message that carries it. -/
theorem ofMessage_toMessage (notification : Notification) :
    ofMessage notification.toMessage = .ok notification := by
  obtain ⟨read, reader, understood⟩ := exists_reader notification
  have data : notification.toMessage.field? dataField = some notification.payload.text := by
    simp [Message.field?, toMessage]
  have written : Json.ofText? notification.payload.text = some notification.payload :=
    ofText?_text (isReadable_payload notification)
  unfold ofMessage
  rw [data]
  dsimp only
  rw [show notification.toMessage.op = notification.op from rfl, reader]
  dsimp only
  rw [written, Option.bind_some, understood]

/--
A notification is read from the message that carries it, and also from what
that message is after it has been written as a payload and read back.
-/
theorem ofMessage_decode_encode (notification : Notification) :
    ofMessage notification.toMessage = .ok notification ∧
      ∃ message, Message.decode notification.toMessage.encode = .ok message ∧
        ofMessage message = .ok notification := by
  have direct := ofMessage_toMessage notification
  refine ⟨direct, notification.toMessage, ?_, direct⟩
  exact Message.decode_encode _

end Notification

end SwitchAbstraction
