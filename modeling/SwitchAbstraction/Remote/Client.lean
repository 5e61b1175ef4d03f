import SwitchAbstraction.Call
import SwitchAbstraction.Ids
import SwitchAbstraction.Notification
import SwitchAbstraction.Remote.Exchange
import SwitchAbstraction.Remote.Settings

/-!
# The remote backend

Each call is checked as far as that can be done here, sent as a request, and
answered by the next response.  Responses that were left over from earlier
calls are thrown away before a request goes out.  Ids are drawn here, from the
counter in the store, so they are known before the request is sent.
-/

namespace SwitchAbstraction

namespace Remote

/-- What lives as long as the backend is started. -/
structure Session where
  settings : Settings
  /-- The subscription to responses, unless it ended as it began. -/
  responses : Option Nat
  indexes : SwitchIndexPool
  /-- The subscription to notifications, unless it ended as it began. -/
  notifications : Option Nat
  /-- Whether somebody listens to notifications. -/
  listening : Bool

/-- The backend, started or not. -/
structure Client where
  session : Option Session

namespace Session

/-- What a payload that arrived in time says. -/
def readResponse (payload : String) : Except Fault (Status × List Field) := do
  parseResponse (← Message.decode payload)

/-- Takes the response to a request that was published. -/
def await (session : Session) (exchange : Exchange) (message : Message) :
    Except Fault (Status × List Field) × Exchange :=
  match session.responses with
  | none => (.error (.failed .responsesClosed), exchange)
  | some number =>
      match exchange.broker.take number with
      | (none, _) =>
          (.error (.failed (.timedOut message.op message.key session.settings.timeout)),
            exchange)
      | (some payload, broker) => (readResponse payload, { exchange with broker })

/-- Sends a request and takes its response. -/
def roundTrip (session : Session) (exchange : Exchange) (message : Message) :
    Except Fault (Status × List Field) × Exchange :=
  let (_, drained) := exchange.drain session.responses
  match drained.publishRequest message.encode with
  | (.error fault, next) => (.error fault, next)
  | (.ok (), next) => session.await next message

end Session

namespace Client

/-- A backend that was never started. -/
def idle : Client :=
  ⟨none⟩

/-- Whether the backend is started. -/
def isStarted (client : Client) : Bool :=
  client.session.isSome

/-- Subscribes to responses and notifications; both or neither. -/
def subscribe (exchange : Exchange) :
    Except Fault (Option Nat × Option Nat) × Exchange :=
  match exchange.subscribe responseChannel with
  | (.error fault, next) => (.error fault, next)
  | (.ok responses, next) =>
      match next.subscribe notificationChannel with
      | (.error fault, last) => (.error fault, last.unsubscribe responses)
      | (.ok notifications, last) => (.ok (responses, notifications), last)

/-- Passes a backend that is not started, and reads the settings of its services. -/
def checkStart (client : Client) (services : Services) : Except Fault Settings := do
  if client.isStarted then throw (.failed (.alreadyInitialized .remote))
  services.validate
  Settings.ofServices services

/-- Starts the backend. -/
def start (client : Client) (exchange : Exchange) (services : Services) (listening : Bool) :
    Except Fault Unit × Client × Exchange :=
  match client.checkStart services with
  | .error fault => (.error fault, client, exchange)
  | .ok settings =>
      match subscribe exchange with
      | (.error fault, next) => (.error fault, client, next)
      | (.ok (responses, notifications), next) =>
          (.ok (), ⟨some { settings, responses, indexes := .fresh, notifications, listening }⟩,
            next)

/-- Shuts the backend down and ends its subscriptions. -/
def shutdown (client : Client) (exchange : Exchange) :
    Except Fault Unit × Client × Exchange :=
  match client.session with
  | none => (.error .uninitialized, client, exchange)
  | some session =>
      (.ok (), idle,
        (exchange.unsubscribe session.responses).unsubscribe session.notifications)

/-- Takes the notifications that have arrived, as far as somebody listens. -/
def listen (client : Client) (exchange : Exchange) : List Notification × Exchange :=
  match client.session with
  | none => ([], exchange)
  | some session =>
      let (payloads, next) := exchange.drain session.notifications
      let messages := payloads.filterMap fun payload => (Message.decode payload).toOption
      (if session.listening then messages.filterMap Notification.heard else [], next)

/-- Sends a request and takes its response. -/
def exchangeMessage (client : Client) (exchange : Exchange) (message : Message) :
    Except Fault (Status × List Field) × Exchange :=
  match client.session with
  | none => (.error .uninitialized, exchange)
  | some session => session.roundTrip exchange message

/-- The fields of a response that says success; any other is a fault with a note. -/
def expectSuccess (note : String) :
    Except Fault (Status × List Field) → Except Fault (List Field)
  | .error fault => .error fault
  | .ok (.success, fields) => .ok fields
  | .ok (status, _) => .error (.reported status note)

/-- Sends a request that has to succeed. -/
def command (client : Client) (exchange : Exchange) (message : Message) :
    Except Fault (List Field) × Exchange :=
  let (result, next) := client.exchangeMessage exchange message
  (expectSuccess (message.op ++ " " ++ message.key) result, next)

/-- Draws the id of a new object. -/
def drawId (session : Session) (exchange : Exchange) (type : ObjectType)
    (switchId : ObjectId) : Except Fault (ObjectId × Session) × Exchange :=
  if type = .switch then
    (session.indexes.allocate.map fun (index, indexes) =>
      (.ofSwitchIndex index, { session with indexes }), exchange)
  else
    match switchId.expectType .switch with
    | .error fault => (.error fault, exchange)
    | .ok () =>
        match exchange.increment idCounter with
        | (.error fault, next) => (.error fault, next)
        | (.ok counter, next) =>
            ((ObjectId.encode switchId.switchIndex type counter.toNat).map fun id =>
              (id, session), next)

/-- Creates an object.  Its id is used up once it is drawn, whatever the answer. -/
def create (client : Client) (exchange : Exchange) (type : ObjectType) (switchId : ObjectId)
    (attrs : List Attribute) : Except Fault ObjectId × Client × Exchange :=
  if !type.isIdAddressed then (.error (.invalid (.notCreatedById type)), client, exchange)
  else
    match client.session with
    | none => (.error .uninitialized, client, exchange)
    | some session =>
        match drawId session exchange type switchId with
        | (.error fault, next) => (.error fault, client, next)
        | (.ok (id, session), next) =>
            let key := ObjectKey.object id
            let message := request RequestOp.create.name key (Attribute.toFields attrs)
            let (result, last) := session.roundTrip next message
            ((expectSuccess key.text result).map fun _ => id, ⟨some session⟩, last)

/-- Sends a request about the object with a key, which has to succeed. -/
def commandOn (client : Client) (exchange : Exchange) (key : Except Fault ObjectKey)
    (message : ObjectKey → Message) : Except Fault (List Field) × Exchange :=
  match key with
  | .error fault => (.error fault, exchange)
  | .ok key => client.command exchange (message key)

/-- Puts answered values into the first slots of their attributes, one after another. -/
def fillAnswered (slots answered : List Attribute) : List Attribute :=
  answered.foldl (fun slots attr =>
    slots.modify (slots.findIdx fun slot => slot.id = attr.id) fun slot =>
      { slot with value := attr.value }) slots

/-- How a read goes on a response: an overflow fills the slots, too, but is a fault. -/
def readResponse (key : ObjectKey) (slots : List Attribute) :
    Except Fault (Status × List Field) → Answer
  | .error fault => ⟨.error fault, slots⟩
  | .ok (status, fields) =>
      if status ≠ .success ∧ status ≠ .bufferOverflow then
        ⟨.error (.reported status key.text), slots⟩
      else
        match Attribute.ofFields fields with
        | .error fault => ⟨.error fault, slots⟩
        | .ok answered =>
            let result :=
              if status = .success then .ok .done else .error (.reported status key.text)
            ⟨result, fillAnswered slots answered⟩

/-- Reads attributes of the object with a key. -/
def get (client : Client) (exchange : Exchange) (key : Except Fault ObjectKey)
    (slots : List Attribute) : Answer × Exchange :=
  match key with
  | .error fault => (⟨.error fault, slots⟩, exchange)
  | .ok key =>
      let message := request RequestOp.get.name key (Attribute.toFields slots)
      let (result, next) := client.exchangeMessage exchange message
      (readResponse key slots result, next)

/-- Reads statistics of the object with a key. -/
def readStats (client : Client) (exchange : Exchange) (key : Except Fault ObjectKey)
    (stats : List Stat) (mode : StatsMode) : Except Fault (List UInt64) × Exchange :=
  let (result, next) := client.commandOn exchange key fun key => statsRequest key stats mode
  (result.bind (decodeCounts stats), next)

/-- The answer to a request that gives nothing. -/
def done (result : Except Fault (List Field)) : Answer :=
  ⟨result.map fun _ => .done, []⟩

/-- Makes a call. -/
def perform (client : Client) (exchange : Exchange) : Call → Answer × Client × Exchange
  | .create type switchId attrs =>
      let (result, next) := client.create exchange type switchId attrs
      (⟨result.map .created, []⟩, next)
  | .remove type id =>
      let (result, next) := client.commandOn exchange (ObjectKey.ofTypedId type id) fun key =>
        request RequestOp.remove.name key []
      (done result, client, next)
  | .set type id attr =>
      let (result, next) := client.commandOn exchange (ObjectKey.ofTypedId type id) fun key =>
        request RequestOp.set.name key (Attribute.toFields [attr])
      (done result, client, next)
  | .get type id slots =>
      let (answer, next) := client.get exchange (ObjectKey.ofTypedId type id) slots
      (answer, client, next)
  | .createEntry key attrs =>
      let (result, next) := client.command exchange
        (request RequestOp.create.name key (Attribute.toFields attrs))
      (done result, client, next)
  | .removeEntry key =>
      let (result, next) := client.command exchange (request RequestOp.remove.name key [])
      (done result, client, next)
  | .setEntry key attr =>
      let (result, next) := client.command exchange
        (request RequestOp.set.name key (Attribute.toFields [attr]))
      (done result, client, next)
  | .getEntry key slots =>
      let (answer, next) := client.get exchange (.ok key) slots
      (answer, client, next)
  | .readStats type id stats mode =>
      let (result, next) := client.readStats exchange (ObjectKey.ofTypedId type id) stats mode
      (⟨result.map .counted, []⟩, client, next)
  | .clearStats type id stats =>
      let (result, next) := client.commandOn exchange (ObjectKey.ofTypedId type id) fun key =>
        request RequestOp.clearStats.name key (statFields stats)
      (done result, client, next)
  | .flush switchId attrs =>
      let key := ObjectKey.ofTypedId .switch switchId
      let (result, next) := client.commandOn exchange key fun key =>
        request RequestOp.flush.name key (Attribute.toFields attrs)
      (done result, client, next)

end Client

end Remote

end SwitchAbstraction
