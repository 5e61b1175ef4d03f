import SwitchAbstraction.Remote.Client

/-!
# Fleets

Several clients that share a store.  A client makes one call after another, and
the calls of different clients overlap.  A creation is drawn out into its three
parts: the id is drawn, the request goes out, and the response is taken.  What
other clients and other users of the store do can come between any two of them.
Other calls draw no ids and are made in one go.
-/

namespace SwitchAbstraction

namespace Remote

/-! ## The parts of a creation -/

/-- A creation whose id is drawn. -/
structure Creation where
  type : ObjectType
  switchId : ObjectId
  attrs : List Attribute
  id : ObjectId

/-- The key of the object that is to be created. -/
def Creation.key (creation : Creation) : ObjectKey :=
  .object creation.id

/-- The request of a creation. -/
def Creation.message (creation : Creation) : Message :=
  request RequestOp.create.name creation.key (Attribute.toFields creation.attrs)

/-- Throws the responses away that are left over, and sends a request. -/
def Session.send (session : Session) (exchange : Exchange) (message : Message) :
    Except Fault Unit × Exchange :=
  (exchange.drain session.responses).2.publishRequest message.encode

/-- Takes the response to the request of a creation. -/
def Session.hear (session : Session) (exchange : Exchange) (creation : Creation) :
    Except Fault ObjectId × Exchange :=
  let (result, next) := session.await exchange creation.message
  ((Client.expectSuccess creation.key.text result).map fun _ => creation.id, next)

/-- The first part of a creation: what can be checked here, and the id. -/
def Client.draw (client : Client) (exchange : Exchange) (type : ObjectType)
    (switchId : ObjectId) : Except Fault (ObjectId × Session) × Exchange :=
  if !type.isIdAddressed then (.error (.invalid (.notCreatedById type)), exchange)
  else
    match client.session with
    | none => (.error .uninitialized, exchange)
    | some session => drawId session exchange type switchId

/-- A creation is its three parts, as far as each of them succeeds. -/
theorem Client.create_eq (client : Client) (exchange : Exchange) (type : ObjectType)
    (switchId : ObjectId) (attrs : List Attribute) :
    client.create exchange type switchId attrs =
      match client.draw exchange type switchId with
      | (.error fault, next) => (.error fault, client, next)
      | (.ok (id, session), next) =>
          let creation := ⟨type, switchId, attrs, id⟩
          match session.send next creation.message with
          | (.error fault, last) => (.error fault, ⟨some session⟩, last)
          | (.ok (), sent) =>
              let (result, last) := session.hear sent creation
              (result, ⟨some session⟩, last) := by
  unfold create draw
  split
  · rfl
  · cases client.session with
    | none => rfl
    | some session =>
        dsimp only
        cases drawn : drawId session exchange type switchId with
        | mk result next =>
            cases result with
            | error fault => rfl
            | ok pair =>
                dsimp only [Session.roundTrip, Session.send, Session.hear, Creation.message,
                  Creation.key]
                cases (next.drain pair.2.responses).2.publishRequest _ with
                | mk sent last => cases sent <;> rfl

/-! ## Many clients -/

/-- What calls meet besides the store itself. -/
structure Circumstances where
  replies : List (List String)
  troubles : List (StoreOp × Trouble)
  closed : List String

namespace Circumstances

/-- A peer that is silent, and no trouble. -/
def calm : Circumstances :=
  ⟨[], [], []⟩

/-- What calls on a store meet. -/
def meet (circumstances : Circumstances) (broker : Broker) : Exchange :=
  ⟨broker, circumstances.replies, circumstances.troubles, none, circumstances.closed, []⟩

end Circumstances

/-- How far a client is in a creation. -/
inductive Progress
  | idle
  | drawn (creation : Creation)
  | waiting (creation : Creation)

/-- A client, and how often it was started. -/
structure Party where
  client : Client
  progress : Progress
  sessions : Nat

/-- A client that was never started. -/
def Party.idle : Party :=
  ⟨.idle, .idle, 0⟩

/-- A request for a creation that was published, by whom, and in which of its sessions. -/
structure CreateRequest where
  party : Nat
  session : Nat
  creation : Creation
  payload : String

/-- Clients by number, and the store that they share. -/
structure Fleet where
  broker : Broker
  parties : Nat → Party
  /-- How often the counter of ids was counted up. -/
  increments : Nat
  /-- The requests for creations that were published, the oldest first. -/
  requests : List CreateRequest

namespace Fleet

/-- What can happen in a fleet. -/
inductive Turn
  | start (party : Nat) (services : Services) (listening : Bool) (circumstances : Circumstances)
  | shutdown (party : Nat)
  /-- A call begins.  A creation draws its id, and any other call is made as a whole. -/
  | call (party : Nat) (call : Call) (circumstances : Circumstances)
  /-- The request of a creation goes out. -/
  | send (party : Nat) (circumstances : Circumstances)
  /-- A creation takes its response, or has waited long enough. -/
  | hear (party : Nat)
  /-- A client takes the notifications that have arrived. -/
  | listen (party : Nat)
  /-- Somebody else counts a counter up. -/
  | increment (counter : String)
  /-- Somebody else publishes something. -/
  | publish (channel payload : String)
  /-- Somebody else subscribes to a channel. -/
  | subscribe (channel : String)
  /-- Somebody else takes what waits for him. -/
  | take (number : Nat)
  /-- Somebody else drops his receiver. -/
  | unsubscribe (number : Nat)

/-- Clients that were never started, on a store that nobody has used. -/
def fresh : Fleet :=
  ⟨.fresh, fun _ => .idle, 0, []⟩

/-- The fleet with another store, upon which it is clear whether ids were counted. -/
def setBroker (fleet : Fleet) (broker : Broker) : Fleet :=
  { fleet with
    broker
    increments :=
      if broker.counter idCounter = fleet.broker.counter idCounter then fleet.increments
      else fleet.increments + 1 }

/-- The fleet with another party under a number. -/
def setParty (fleet : Fleet) (number : Nat) (party : Party) : Fleet :=
  { fleet with
    parties := fun other => if other = number then party else fleet.parties other }

/-- The fleet after a client was started, or not. -/
def start (fleet : Fleet) (number : Nat) (services : Services) (listening : Bool)
    (circumstances : Circumstances) : Fleet :=
  let party := fleet.parties number
  let (result, client, next) :=
    party.client.start (circumstances.meet fleet.broker) services listening
  let sessions :=
    match result with
    | .ok () => party.sessions + 1
    | .error _ => party.sessions
  (fleet.setBroker next.broker).setParty number { party with client, sessions }

/-- The fleet after a client was shut down, or not. -/
def shutdown (fleet : Fleet) (number : Nat) : Fleet :=
  let party := fleet.parties number
  let (_, client, next) := party.client.shutdown (Circumstances.calm.meet fleet.broker)
  (fleet.setBroker next.broker).setParty number { party with client }

/-- The fleet after a creation has drawn its id, or not. -/
def draw (fleet : Fleet) (number : Nat) (type : ObjectType) (switchId : ObjectId)
    (attrs : List Attribute) (circumstances : Circumstances) : Fleet :=
  let party := fleet.parties number
  match party.client.draw (circumstances.meet fleet.broker) type switchId with
  | (.error _, next) => fleet.setBroker next.broker
  | (.ok (id, session), next) =>
      (fleet.setBroker next.broker).setParty number
        { party with
          client := ⟨some session⟩
          progress := .drawn ⟨type, switchId, attrs, id⟩ }

/-- The fleet after a call other than a creation. -/
def perform (fleet : Fleet) (number : Nat) (call : Call) (circumstances : Circumstances) : Fleet :=
  let party := fleet.parties number
  let (_, client, next) := party.client.perform (circumstances.meet fleet.broker) call
  (fleet.setBroker next.broker).setParty number { party with client }

/-- The fleet after the request of a creation went out, or not. -/
def send (fleet : Fleet) (number : Nat) (session : Session) (creation : Creation)
    (circumstances : Circumstances) : Fleet :=
  let party := fleet.parties number
  let (result, next) := session.send (circumstances.meet fleet.broker) creation.message
  let progress :=
    match result with
    | .ok () => .waiting creation
    | .error _ => .idle
  let published := next.sent.map fun payload => ⟨number, party.sessions, creation, payload⟩
  { (fleet.setBroker next.broker).setParty number { party with progress } with
    requests := fleet.requests ++ published }

/-- The fleet after a creation has come to its end. -/
def hear (fleet : Fleet) (number : Nat) (session : Session) (creation : Creation) : Fleet :=
  let (_, next) := session.hear (Circumstances.calm.meet fleet.broker) creation
  (fleet.setBroker next.broker).setParty number
    { fleet.parties number with progress := .idle }

/-- The fleet after a client has taken its notifications. -/
def listen (fleet : Fleet) (number : Nat) : Fleet :=
  let (_, next) := (fleet.parties number).client.listen (Circumstances.calm.meet fleet.broker)
  fleet.setBroker next.broker

/-- The fleet after a call has begun. -/
def begin (fleet : Fleet) (number : Nat) (circumstances : Circumstances) : Call → Fleet
  | .create type switchId attrs => fleet.draw number type switchId attrs circumstances
  | call => fleet.perform number call circumstances

/-- The fleet after a turn, if that can happen now. -/
def step (fleet : Fleet) : Turn → Option Fleet
  | .start number services listening circumstances =>
      match (fleet.parties number).progress with
      | .idle => some (fleet.start number services listening circumstances)
      | _ => none
  | .shutdown number =>
      match (fleet.parties number).progress with
      | .idle => some (fleet.shutdown number)
      | _ => none
  | .call number call circumstances =>
      match (fleet.parties number).progress with
      | .idle => some (fleet.begin number circumstances call)
      | _ => none
  | .send number circumstances =>
      match (fleet.parties number).progress, (fleet.parties number).client.session with
      | .drawn creation, some session => some (fleet.send number session creation circumstances)
      | _, _ => none
  | .hear number =>
      match (fleet.parties number).progress, (fleet.parties number).client.session with
      | .waiting creation, some session => some (fleet.hear number session creation)
      | _, _ => none
  | .listen number => some (fleet.listen number)
  | .increment counter => some (fleet.setBroker (fleet.broker.increment counter).2)
  | .publish channel payload => some (fleet.setBroker (fleet.broker.publish channel payload))
  | .subscribe channel => some (fleet.setBroker (fleet.broker.subscribe channel).2)
  | .take number => some (fleet.setBroker (fleet.broker.take number).2)
  | .unsubscribe number => some (fleet.setBroker (fleet.broker.unsubscribe number))

/-- The fleet after a turn, or as it is if that cannot happen now. -/
def play (fleet : Fleet) (turn : Turn) : Fleet :=
  (fleet.step turn).getD fleet

/-- The fleet after turns, as far as each can happen. -/
def playAll (fleet : Fleet) (turns : List Turn) : Fleet :=
  turns.foldl play fleet

end Fleet

end Remote

end SwitchAbstraction
