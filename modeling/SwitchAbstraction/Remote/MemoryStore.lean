import SwitchAbstraction.OrderedMap

/-!
# Stores in memory

A shared store that lives in one process.  Each channel has a list of senders,
one for each party that subscribed to it.  A party goes by dropping its receiver,
and nobody is told.  That its sender leads nowhere is found out when next
something is published on the channel: a publication goes through the senders
one after another, sends to those whose receiver is still there, and keeps only
these.

The lists of senders are locked while a publication is under way, the receivers
are not.  Meanwhile parties can receive and go, but nobody can subscribe or
begin another publication.
-/

namespace SwitchAbstraction

namespace Remote

/-- A publication that is under way. -/
structure Publication where
  channel : String
  payload : String
  /-- The senders that it has yet to come to. -/
  ahead : List Nat
  /-- The senders that it has sent to. -/
  served : List Nat
  deriving DecidableEq

/-- Counters by name, senders by channel, and receivers by the number of their sender. -/
structure MemoryStore where
  counters : OrderedMap String UInt64
  senders : OrderedMap String (List Nat)
  /-- The payloads that wait, for each receiver that was not dropped. -/
  receivers : OrderedMap Nat (List String)
  /-- The number of subscriptions ever made. -/
  issued : Nat
  publication : Option Publication
  deriving DecidableEq

namespace MemoryStore

/-- What the parties that share a store can do. -/
inductive Action
  | subscribe (channel : String)
  /-- A publication begins. -/
  | publish (channel payload : String)
  /-- The publication under way comes to the next sender. -/
  | serve
  /-- The publication under way has come to all senders. -/
  | conclude
  /-- The payload that has waited longest for a receiver is taken. -/
  | receive (number : Nat)
  /-- A receiver is dropped. -/
  | drop (number : Nat)
  deriving DecidableEq

/-- A store that nobody has used. -/
def fresh : MemoryStore :=
  ⟨∅, ∅, ∅, 0, none⟩

/-- The value of a counter, zero at first. -/
def counter (store : MemoryStore) (name : String) : UInt64 :=
  (store.counters.get? name).getD 0

/-- Counts a counter up and gives its new value. -/
def increment (store : MemoryStore) (name : String) : UInt64 × MemoryStore :=
  let value := store.counter name + 1
  (value, { store with counters := store.counters.insert name value })

/-- The senders of a channel, in the order in which their parties subscribed. -/
def sendersOf (store : MemoryStore) (channel : String) : List Nat :=
  (store.senders.get? channel).getD []

/-- Whether a receiver is there and was not dropped. -/
def isLive (store : MemoryStore) (number : Nat) : Bool :=
  store.receivers.contains number

/-- The payloads that wait for a receiver. -/
def queue (store : MemoryStore) (number : Nat) : List String :=
  (store.receivers.get? number).getD []

/-- The store with one more sender on a channel, and the receiver for it. -/
def addReceiver (store : MemoryStore) (channel : String) : MemoryStore :=
  { store with
    senders := store.senders.insert channel (store.sendersOf channel ++ [store.issued])
    receivers := store.receivers.insert store.issued []
    issued := store.issued + 1 }

/-- The store with a publication that has come to no sender yet. -/
def beginPublication (store : MemoryStore) (channel payload : String) : MemoryStore :=
  { store with publication := some ⟨channel, payload, store.sendersOf channel, []⟩ }

/-- The store after a publication has come to a sender. -/
def sendTo (store : MemoryStore) (publication : Publication) (number : Nat) (ahead : List Nat) :
    MemoryStore :=
  match store.receivers.get? number with
  | some queue =>
      { store with
        receivers := store.receivers.insert number (queue ++ [publication.payload])
        publication :=
          some { publication with ahead, served := publication.served ++ [number] } }
  | none => { store with publication := some { publication with ahead } }

/-- The store with only those senders on a channel that its last publication has sent to. -/
def keepServed (store : MemoryStore) (publication : Publication) : MemoryStore :=
  { store with
    senders := store.senders.modify publication.channel fun _ => publication.served
    publication := none }

/-- The store after an action, if that can happen now. -/
def step (store : MemoryStore) : Action → Option MemoryStore
  | .subscribe channel =>
      match store.publication with
      | none => some (store.addReceiver channel)
      | some _ => none
  | .publish channel payload =>
      match store.publication with
      | none => some (store.beginPublication channel payload)
      | some _ => none
  | .serve =>
      match store.publication with
      | some publication =>
          match publication.ahead with
          | number :: rest => some (store.sendTo publication number rest)
          | [] => none
      | none => none
  | .conclude =>
      match store.publication with
      | some publication =>
          match publication.ahead with
          | [] => some (store.keepServed publication)
          | _ :: _ => none
      | none => none
  | .receive number =>
      match store.receivers.get? number with
      | some (_ :: rest) =>
          some { store with receivers := store.receivers.insert number rest }
      | _ => none
  | .drop number =>
      if store.isLive number then
        some { store with receivers := store.receivers.erase number }
      else none

/-- The store after an action, or as it is if that cannot happen now. -/
def act (store : MemoryStore) (action : Action) : MemoryStore :=
  (store.step action).getD store

/-- The store after actions, as far as each can happen. -/
def actAll (store : MemoryStore) (actions : List Action) : MemoryStore :=
  actions.foldl act store

/-- Begins a subscription and gives its number. -/
def subscribe (store : MemoryStore) (channel : String) : Nat × MemoryStore :=
  (store.issued, store.act (.subscribe channel))

/-- Publishes a payload, with nothing in between. -/
def publish (store : MemoryStore) (channel payload : String) : MemoryStore :=
  store.actAll
    (.publish channel payload ::
      (List.replicate (store.sendersOf channel).length .serve ++ [.conclude]))

/-- Drops a receiver. -/
def drop (store : MemoryStore) (number : Nat) : MemoryStore :=
  store.act (.drop number)

/-- Takes all payloads that wait for a receiver. -/
def drain (store : MemoryStore) (number : Nat) : List String × MemoryStore :=
  (store.queue number,
    store.actAll (List.replicate (store.queue number).length (.receive number)))

end MemoryStore

end Remote

end SwitchAbstraction
