import SwitchAbstraction.Proofs.Conversations
import SwitchAbstraction.Proofs.CurrentValues
import SwitchAbstraction.Proofs.Flushes

/-!
# Reads that are answered

A read sends its slots, and the switch process answers with all of them,
filled from what it has stored.  Each answered value is put into the first slot
of its attribute.  So the slots become those that were answered if no attribute
is asked for twice.  If one is, its first slot gets the value that was meant for
the last, and the others stay as they were handed in.
-/

namespace SwitchAbstraction

/-- The call reads attributes of the object with a key into slots. -/
inductive Call.Reads (key : ObjectKey) (slots : List Attribute) : Call → Prop
  | byId {type : ObjectType} {id : ObjectId} (named : ObjectKey.ofTypedId type id = .ok key) :
      Reads key slots (.get type id slots)
  | byKey : Reads key slots (.getEntry key slots)

namespace Remote

/-! ## Values that are put into slots -/

section Slots

variable {slots answered filled : List Attribute}

/--
The slots after the answered values were put into them: the first slot of an
attribute has the last value that was answered for it, if there is one, and
every other slot is as it was.
-/
structure FillsFirst (slots answered filled : List Attribute) : Prop where
  ids : filled.map Attribute.id = slots.map Attribute.id
  first : ∀ {before slot after}, slots = before ++ slot :: after →
    slot.id ∉ before.map Attribute.id →
    filled[before.length]? = some ⟨slot.id, (Attribute.last? answered slot.id).getD slot.value⟩
  repeated : ∀ {before slot after}, slots = before ++ slot :: after →
    slot.id ∈ before.map Attribute.id → filled[before.length]? = some slot

/-- An element is found right after a list that does not have it. -/
theorem idxOf_eq_length_iff {α : Type} [DecidableEq α] {before after : List α} {own wanted : α} :
    (before ++ own :: after).idxOf wanted = before.length ↔ own = wanted ∧ wanted ∉ before := by
  by_cases earlier : wanted ∈ before
  · rw [List.idxOf_append_of_mem earlier]
    exact ⟨fun same => absurd same (List.idxOf_lt_length_of_mem earlier).ne,
      fun late => absurd earlier late.2⟩
  · rw [List.idxOf_append_of_notMem earlier]
    by_cases same : own = wanted
    · simp [same, earlier]
    · simp [same, List.idxOf_cons_ne]

/-- One answered value more goes into the first slot of its attribute. -/
theorem FillsFirst.fill (fills : FillsFirst slots answered filled) (attr : Attribute) :
    FillsFirst slots (answered ++ [attr])
      (filled.modify (filled.findIdx fun slot => slot.id = attr.id) fun slot =>
        { slot with value := attr.value }) := by
  have place : filled.findIdx (fun slot => slot.id = attr.id) =
      (slots.map Attribute.id).idxOf attr.id := by
    rw [← fills.ids, List.idxOf, List.findIdx_map]
    rfl
  have atPlace {before : List Attribute} {slot : Attribute} {after : List Attribute}
      (split : slots = before ++ slot :: after) :
      filled.findIdx (fun slot => slot.id = attr.id) = before.length ↔
        slot.id = attr.id ∧ attr.id ∉ before.map Attribute.id := by
    have length : (before.map Attribute.id).length = before.length := List.length_map _
    rw [place, split, List.map_append, List.map_cons, ← length]
    exact idxOf_eq_length_iff
  constructor
  · rw [← fills.ids]
    refine List.ext_getElem? fun i => ?_
    rw [List.getElem?_map, List.getElem?_map, List.getElem?_modify]
    cases filled[i]? with
    | none => rfl
    | some slot =>
        by_cases here : filled.findIdx (fun slot => slot.id = attr.id) = i
        · simp [here]
        · simp [here]
  · intro before slot after split notBefore
    rw [List.getElem?_modify, fills.first split notBefore, Attribute.last?_concat]
    rw [Option.map_eq_map, Option.map_some]
    by_cases own : attr.id = slot.id
    · rw [if_pos ((atPlace split).mpr ⟨own.symm, own ▸ notBefore⟩), if_pos own]
      rfl
    · rw [if_neg fun here => own ((atPlace split).mp here).1.symm, if_neg own]
  · intro before slot after split inBefore
    have elsewhere : filled.findIdx (fun slot => slot.id = attr.id) ≠ before.length := by
      intro here
      obtain ⟨own, notBefore⟩ := (atPlace split).mp here
      exact notBefore (own ▸ inBefore)
    rw [List.getElem?_modify, fills.repeated split inBefore]
    simp [elsewhere]

theorem fillsFirst_fillAnswered (slots answered : List Attribute) :
    FillsFirst slots answered (Client.fillAnswered slots answered) := by
  unfold Client.fillAnswered
  -- From the end of the list, as the last value for an attribute replaces those before it.
  induction answered using List.reverseRecOn with
  | nil =>
      have same {before : List Attribute} {slot : Attribute} {after : List Attribute}
          (split : slots = before ++ slot :: after) : slots[before.length]? = some slot := by
        simp [split]
      exact ⟨rfl, fun split _ => same split, fun split _ => same split⟩
  | append_singleton answered attr ih =>
      rw [List.foldl_append]
      exact ih.fill attr

/-- The attributes differ if none of them stands before itself. -/
theorem nodup_ids_iff :
    (slots.map Attribute.id).Nodup ↔ ∀ {before slot after}, slots = before ++ slot :: after →
      slot.id ∉ before.map Attribute.id := by
  constructor
  · rintro distinct before slot after rfl earlier
    rw [List.map_append, List.map_cons] at distinct
    exact (List.nodup_append.mp distinct).2.2 _ earlier _ List.mem_cons_self rfl
  · intro apart
    induction slots using List.reverseRecOn with
    | nil => exact List.nodup_nil
    | append_singleton slots last ih =>
        rw [List.map_append, List.map_singleton]
        have before : (slots.map Attribute.id).Nodup := by
          refine ih fun {first slot after} split => @apart first slot (after ++ [last]) ?_
          rw [split, List.append_assoc, List.cons_append]
        have fresh : last.id ∉ slots.map Attribute.id := apart rfl
        exact before.append (List.nodup_singleton _) (List.disjoint_singleton.mpr fresh)

/-- Of attributes that differ, each has its last value where it stands. -/
theorem last?_of_nodup {attr : Attribute} (distinct : (answered.map Attribute.id).Nodup)
    (member : attr ∈ answered) : Attribute.last? answered attr.id = some attr.value := by
  induction answered using List.reverseRecOn with
  | nil => cases member
  | append_singleton answered last ih =>
      rw [List.map_append, List.map_singleton] at distinct
      obtain ⟨others, _, apart⟩ := List.nodup_append.mp distinct
      rw [Attribute.last?_concat]
      rcases List.mem_append.mp member with earlier | own
      · have differ : attr.id ≠ last.id :=
          apart _ (List.mem_map_of_mem earlier) _ (List.mem_singleton.mpr rfl)
        rw [if_neg differ.symm]
        exact ih others earlier
      · obtain rfl := List.mem_singleton.mp own
        exact if_pos rfl

/-- Slots of different attributes take over the answered values one by one. -/
theorem FillsFirst.eq_of_nodup (fills : FillsFirst slots answered filled)
    (same : answered.map Attribute.id = slots.map Attribute.id)
    (distinct : (slots.map Attribute.id).Nodup) : filled = answered := by
  have lengths : answered.length = slots.length := by
    simpa using congrArg List.length same
  have alsoLengths : filled.length = slots.length := by
    simpa using congrArg List.length fills.ids
  refine List.ext_getElem (alsoLengths.trans lengths.symm) fun i inside alsoInside => ?_
  have isSlot : i < slots.length := alsoLengths ▸ inside
  have split : slots = slots.take i ++ slots[i] :: slots.drop (i + 1) := by
    rw [← List.drop_eq_getElem_cons, List.take_append_drop]
  have own : answered[i].id = slots[i].id := by
    simpa [isSlot, alsoInside] using congrArg (·[i]?) same
  have held := fills.first split (nodup_ids_iff.mp distinct split)
  have value : Attribute.last? answered slots[i].id = some answered[i].value := by
    rw [← own]
    exact last?_of_nodup (same ▸ distinct) (List.getElem_mem alsoInside)
  rw [List.length_take_of_le isSlot.le, List.getElem?_eq_getElem inside, value, ← own] at held
  exact Option.some.inj held

end Slots

/-! ## Answers to a read -/

/-- The first response to the next request comes in time, and has this payload. -/
structure Session.IsAnswered (session : Session) (exchange : Exchange) (payload : String) :
    Prop where
  subscribed : ∃ number queue, session.responses = some number ∧ exchange.Holds number queue
  passes : exchange.check .publish = .ok ()
  first : ∃ others rest, exchange.replies = (payload :: others) :: rest

/-- The payload is a response with values for slots, of a read that went well or lacked room. -/
structure Gives (payload : String) (status : Status) (values : List Attribute) : Prop where
  good : status = .success ∨ status = .bufferOverflow
  carried : ∃ fields, Session.readResponse payload = .ok (status, fields) ∧
    Attribute.ofFields fields = .ok values

/-- The response of a switch process on which a read went like this. -/
def serve (served : Answer) : Message :=
  response (Status.ofResult served.result) (Attribute.toFields served.slots)

theorem gives_serve {served : Answer} (good : Status.ofResult served.result = .success ∨
    Status.ofResult served.result = .bufferOverflow) :
    Gives (serve served).encode (Status.ofResult served.result) served.slots :=
  ⟨good, _, readResponse_response _ _, Attribute.ofFields_toFields _⟩

theorem Exchange.Holds.respondAll {exchange : Exchange} {number : Nat} {queue : List String}
    (holds : exchange.Holds number queue) (payloads : List String) :
    ({ exchange with
      broker := exchange.broker.publishAll responseChannel payloads } : Exchange).Holds number
        (queue ++ payloads) := by
  induction payloads generalizing exchange queue with
  | nil =>
      rw [List.append_nil]
      exact holds
  | cons payload rest ih =>
      rw [List.append_cons]
      exact ih (holds.respond payload)

section Answered

variable {client : Client} {session : Session} {exchange : Exchange} {payload : String}
  {call : Call} {key : ObjectKey} {slots values : List Attribute} {status : Status}

/-- A round trip ends with the first response that comes in time. -/
theorem Session.IsAnswered.roundTrip (answered : session.IsAnswered exchange payload)
    (message : Message) : (session.roundTrip exchange message).1 = readResponse payload := by
  obtain ⟨number, queue, responses, holds⟩ := answered.subscribed
  obtain ⟨others, rest, scripted⟩ := answered.first
  have passes : (exchange.drain (some number)).2.check .publish = .ok () :=
    (Exchange.check_drain _ _ _).trans answered.passes
  have replies : (exchange.drain (some number)).2.replies = (payload :: others) :: rest :=
    (Exchange.replies_drain _ _).trans scripted
  have waiting := (holds.drain.request message.encode).respondAll (payload :: others)
  unfold Session.roundTrip
  dsimp only
  rw [responses, Exchange.publishRequest_eq passes, replies]
  dsimp only [List.head?_cons, Option.getD_some, List.tail_cons]
  unfold Session.await Broker.take
  rw [responses]
  dsimp only
  rw [show Broker.queue _ number = [] ++ payload :: others from waiting.queue_eq]
  rfl

/-- A read whose request is answered goes as the response says. -/
theorem perform_reads (started : client.session = some session)
    (answered : session.IsAnswered exchange payload) (reads : call.Reads key slots) :
    (client.perform exchange call).1 =
      Client.readResponse key slots (Session.readResponse payload) := by
  have read : (client.get exchange (.ok key) slots).1 =
      Client.readResponse key slots (Session.readResponse payload) := by
    unfold Client.get Client.exchangeMessage
    dsimp only
    rw [started]
    dsimp only
    rw [answered.roundTrip]
  cases reads with
  | byId named =>
      unfold Client.perform
      dsimp only
      rw [named]
      exact read
  | byKey => exact read

theorem readResponse_of_gives (gives : Gives payload status values) :
    Client.readResponse key slots (Session.readResponse payload) =
      ⟨if status = .success then .ok .done else .error (.reported .bufferOverflow key.text),
        Client.fillAnswered slots values⟩ := by
  obtain ⟨good, fields, said, carried⟩ := gives
  rw [said]
  unfold Client.readResponse
  dsimp only
  rcases good with rfl | rfl
  · simp [carried]
  · simp [carried]

/-- A read that is served as one that went well or lacked room fills the slots from it. -/
theorem perform_served {served : Answer} (started : client.session = some session)
    (reads : call.Reads key slots)
    (good : Status.ofResult served.result = .success ∨
      Status.ofResult served.result = .bufferOverflow)
    (answered : session.IsAnswered exchange (serve served).encode) :
    Status.ofResult (client.perform exchange call).1.result = Status.ofResult served.result ∧
      (client.perform exchange call).1.slots = Client.fillAnswered slots served.slots := by
  rw [perform_reads started answered reads, readResponse_of_gives (gives_serve good)]
  rcases good with fine | short
  · rw [fine]
    exact ⟨rfl, rfl⟩
  · rw [short]
    exact ⟨rfl, rfl⟩

/-- Any other response is a fault, and leaves the slots alone. -/
theorem readResponse_of_not_gives (otherwise : ∀ status values, ¬ Gives payload status values) :
    ∃ fault, Client.readResponse key slots (Session.readResponse payload) =
      ⟨.error fault, slots⟩ := by
  cases said : Session.readResponse payload with
  | error fault => exact ⟨fault, rfl⟩
  | ok spoken =>
      obtain ⟨status, fields⟩ := spoken
      unfold Client.readResponse
      dsimp only
      split
      · exact ⟨_, rfl⟩
      · next good =>
          cases carried : Attribute.ofFields fields with
          | error fault => exact ⟨fault, rfl⟩
          | ok values =>
              have fine : status = .success ∨ status = .bufferOverflow := by
                by_contra neither
                exact good (not_or.mp neither)
              exact absurd ⟨fine, fields, said, carried⟩ (otherwise status values)

end Answered

/-! ## Slots that are filled in their places -/

/--
Whenever a switch process fills these slots from what it has stored, with room
for all of it or not, the read leaves them as the process has filled them, and
has the status that it has there.
-/
def FillsInPlace (slots : List Attribute) : Prop :=
  ∀ {client : Client} {session : Session} {exchange : Exchange} {call : Call} {key : ObjectKey}
    {stored : Attributes}, client.session = some session → call.Reads key slots →
    (Status.ofResult (Switch.read key stored slots).result = .success ∨
      Status.ofResult (Switch.read key stored slots).result = .bufferOverflow) →
    session.IsAnswered exchange (serve (Switch.read key stored slots)).encode →
    (client.perform exchange call).1.slots = (Switch.read key stored slots).slots ∧
      Status.ofResult (client.perform exchange call).1.result =
        Status.ofResult (Switch.read key stored slots).result

theorem fillsInPlace_of_nodup {slots : List Attribute}
    (distinct : (slots.map Attribute.id).Nodup) : FillsInPlace slots := by
  intro client session exchange call key stored started reads good answered
  obtain ⟨status, left⟩ := perform_served started reads good answered
  refine ⟨left.trans ?_, status⟩
  exact (fillsFirst_fillAnswered _ _).eq_of_nodup (Switch.ids_fillSlots slots) distinct

namespace Conversation

/-- What the lone client meets when its next request is answered with this payload. -/
def repliedWith (payload : String) : Exchange :=
  { undisturbed with replies := [[payload]] }

theorem lone_isAnswered (payload : String) : lone.IsAnswered (repliedWith payload) payload :=
  ⟨⟨0, [], rfl, rfl⟩, rfl, [], [], rfl⟩

end Conversation

/-- A scalar that is stored for an attribute fills all slots of it. -/
theorem read_of_bool {key : ObjectKey} {stored : Attributes} {slots : List Attribute} {value : Bool}
    (same : ∀ slot ∈ slots, stored.get? slot.id = some (.bool value)) :
    Switch.read key stored slots =
      ⟨.ok .done, slots.map fun slot => ⟨slot.id, .bool value⟩⟩ := by
  have filled : Switch.fillSlots key stored slots =
      (.ok [], slots.map fun slot => ⟨slot.id, .bool value⟩) := by
    induction slots with
    | nil => rfl
    | cons slot rest ih =>
        obtain ⟨own, others⟩ := List.forall_mem_cons.mp same
        have taken : Switch.fillSlot key stored slot = .ok (.bool value, .filled) := by
          unfold Switch.fillSlot
          rw [own]
          cases slot.value <;> rfl
        unfold Switch.fillSlots
        rw [taken, ih others]
        rfl
  unfold Switch.read
  rw [filled]
  rfl

/-- Of a repeated attribute, a later slot does not take over what is stored. -/
theorem not_fillsInPlace_of_repeated {slots before after : List Attribute} {slot : Attribute}
    (split : slots = before ++ slot :: after) (inBefore : slot.id ∈ before.map Attribute.id) :
    ¬ FillsInPlace slots := by
  intro inPlace
  obtain ⟨value, differs⟩ : ∃ value : Bool, slot.value ≠ .bool value := by
    by_cases isTrue : slot.value = .bool true
    · exact ⟨false, by simp [isTrue]⟩
    · exact ⟨true, isTrue⟩
  let fill (slot : Attribute) : Attribute := ⟨slot.id, .bool value⟩
  let stored := Attributes.ofList (slots.map fill)
  let key : ObjectKey := .object (.compose 0 .port 3)
  let reading : Call := .getEntry key slots
  have reads : reading.Reads key slots := .byKey
  have same : ∀ slot ∈ slots, stored.get? slot.id = some (.bool value) := by
    intro slot member
    obtain ⟨_, found⟩ := Attributes.exists_get?_ofList (List.mem_map_of_mem (f := fill) member)
    obtain ⟨_, given, _, rfl⟩ := Attributes.get?_ofList_eq_some found
    obtain ⟨_, _, rfl⟩ := List.mem_map.mp given
    exact found
  have served : Switch.read key stored slots = ⟨.ok .done, slots.map fill⟩ := read_of_bool same
  have fine : Status.ofResult (Switch.read key stored slots).result = .success := by
    rw [served]
    rfl
  have answered := Conversation.lone_isAnswered (serve (Switch.read key stored slots)).encode
  have started : (Client.mk (some Conversation.lone)).session = some Conversation.lone := rfl
  have left := (perform_served started reads (.inl fine) answered).2
  rw [(inPlace started reads (.inl fine) answered).1, served] at left
  have kept := (fillsFirst_fillAnswered slots (slots.map fill)).repeated split inBefore
  have changed : (slots.map fill)[before.length]? = some (fill slot) := by
    simp [split]
  rw [← left, changed] at kept
  exact differs (congrArg Attribute.value (Option.some.inj kept)).symm

theorem fillsInPlace_iff {slots : List Attribute} :
    FillsInPlace slots ↔ (slots.map Attribute.id).Nodup := by
  refine ⟨fun inPlace => ?_, fillsInPlace_of_nodup⟩
  refine nodup_ids_iff.mpr fun split inBefore => ?_
  exact not_fillsInPlace_of_repeated split inBefore inPlace

/--
A read that is answered with values ends with the status of the answer.  The
first slot of each attribute then has the last value that was answered for it,
and every other slot is as it was handed in.  Any other answer is a fault that
leaves all slots alone.  So slots are filled in their places, whatever the
switch process has stored, exactly if no attribute is asked for twice.
-/
theorem answered_values_fill_first_slots {client : Client} {session : Session}
    {exchange : Exchange} {call : Call} {key : ObjectKey} {slots : List Attribute}
    {payload : String} (started : client.session = some session) (reads : call.Reads key slots)
    (answered : session.IsAnswered exchange payload) :
    (∀ {status values}, Gives payload status values →
      (client.perform exchange call).1.result =
          (if status = .success then .ok .done
            else .error (.reported .bufferOverflow key.text)) ∧
        FillsFirst slots values (client.perform exchange call).1.slots) ∧
    ((∀ status values, ¬ Gives payload status values) →
      ∃ fault, (client.perform exchange call).1 = ⟨.error fault, slots⟩) ∧
    (FillsInPlace slots ↔ (slots.map Attribute.id).Nodup) := by
  rw [perform_reads started answered reads]
  refine ⟨fun gives => ?_, readResponse_of_not_gives, fillsInPlace_iff⟩
  rw [readResponse_of_gives gives]
  exact ⟨rfl, fillsFirst_fillAnswered _ _⟩

namespace Conversation

/-- The lone client reads attributes of a port, and is told these values. -/
def readPort (slots values : List Attribute) : Answer :=
  let payload := (serve ⟨.ok .done, values⟩).encode
  ((Client.mk (some lone)).perform (repliedWith payload)
    (.get .port (.compose 0 .port 3) slots)).1

/-- Two attributes of a port, each of which gets its value. -/
theorem different_slots_are_filled :
    FillsFirst [.request .portSpeed 0, .request .portMtu 0]
        [⟨.portSpeed, .u32 100000⟩, ⟨.portMtu, .u32 9100⟩]
        (readPort [.request .portSpeed 0, .request .portMtu 0]
          [⟨.portSpeed, .u32 100000⟩, ⟨.portMtu, .u32 9100⟩]).slots ∧
      FillsInPlace [.request .portSpeed 0, .request .portMtu 0] := by
  let slots : List Attribute := [.request .portSpeed 0, .request .portMtu 0]
  let served : Answer := ⟨.ok .done, [⟨.portSpeed, .u32 100000⟩, ⟨.portMtu, .u32 9100⟩]⟩
  have started : (Client.mk (some lone)).session = some lone := rfl
  have reads : (Call.get .port (.compose 0 .port 3) slots).Reads
      (.object (.compose 0 .port 3)) slots := .byId (by decide)
  obtain ⟨filled, _, inPlace⟩ :=
    answered_values_fill_first_slots started reads (lone_isAnswered (serve served).encode)
  have gives : Gives (serve served).encode .success served.slots := gives_serve (.inl rfl)
  exact ⟨(filled gives).2, inPlace.mpr (by decide)⟩

/--
An attribute of a port is asked for twice.  The switch process fills both
slots, and the second one stays empty.
-/
theorem second_slot_stays_empty :
    (Switch.read (.object (.compose 0 .port 3)) (.ofList [⟨.portMtu, .u32 9100⟩])
        [.request .portMtu 0, .request .portMtu 0]).slots =
      [⟨.portMtu, .u32 9100⟩, ⟨.portMtu, .u32 9100⟩] ∧
    (readPort [.request .portMtu 0, .request .portMtu 0]
        [⟨.portMtu, .u32 9100⟩, ⟨.portMtu, .u32 9100⟩]).slots =
      [⟨.portMtu, .u32 9100⟩, ⟨.portMtu, .u32 0⟩] ∧
    ¬ FillsInPlace [.request .portMtu 0, .request .portMtu 0] := by
  refine ⟨by decide, by decide +kernel, fun inPlace => ?_⟩
  exact absurd (fillsInPlace_iff.mp inPlace) (by decide)

end Conversation

end Remote

end SwitchAbstraction
