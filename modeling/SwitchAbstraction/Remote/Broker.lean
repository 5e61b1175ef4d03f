import SwitchAbstraction.OrderedMap

/-!
# Brokers

A store that several parties share: counters that go up, and channels on which
payloads are published.  A subscription queues what is published on its
channel from its beginning to its end.
-/

namespace SwitchAbstraction

namespace Remote

/-- One party's subscription to a channel, with the payloads it has not taken yet. -/
structure Subscription where
  channel : String
  queue : List String
  deriving DecidableEq

/-- The subscription with a payload added, if that is on its channel. -/
def Subscription.offer (subscription : Subscription) (channel payload : String) :
    Subscription :=
  if subscription.channel = channel then
    { subscription with queue := subscription.queue ++ [payload] }
  else subscription

/-- Counters by name, and subscriptions by the number they were given. -/
structure Broker where
  counters : OrderedMap String UInt64
  subscriptions : OrderedMap Nat Subscription
  /-- The number of subscriptions ever made. -/
  issued : Nat
  deriving DecidableEq

namespace Broker

/-- A broker that nobody has used. -/
def fresh : Broker :=
  ⟨∅, ∅, 0⟩

/-- The value of a counter, zero at first. -/
def counter (broker : Broker) (name : String) : UInt64 :=
  (broker.counters.get? name).getD 0

/-- Counts a counter up and gives its new value. -/
def increment (broker : Broker) (name : String) : UInt64 × Broker :=
  let value := broker.counter name + 1
  (value, { broker with counters := broker.counters.insert name value })

/-- Begins a subscription and gives its number. -/
def subscribe (broker : Broker) (channel : String) : Nat × Broker :=
  (broker.issued,
    { broker with
      subscriptions := broker.subscriptions.insert broker.issued ⟨channel, []⟩
      issued := broker.issued + 1 })

/-- Ends a subscription. -/
def unsubscribe (broker : Broker) (number : Nat) : Broker :=
  { broker with subscriptions := broker.subscriptions.erase number }

/-- Publishes a payload to all that are subscribed to its channel. -/
def publish (broker : Broker) (channel payload : String) : Broker :=
  { broker with
    subscriptions := broker.subscriptions.mapValues fun _ subscription =>
      subscription.offer channel payload }

/-- Publishes payloads one after another. -/
def publishAll (broker : Broker) (channel : String) (payloads : List String) : Broker :=
  payloads.foldl (fun broker payload => broker.publish channel payload) broker

/-- The payloads that wait in a subscription. -/
def queue (broker : Broker) (number : Nat) : List String :=
  ((broker.subscriptions.get? number).map Subscription.queue).getD []

/-- The broker with other payloads waiting in a subscription. -/
def setQueue (broker : Broker) (number : Nat) (queue : List String) : Broker :=
  { broker with
    subscriptions := broker.subscriptions.modify number fun subscription =>
      { subscription with queue } }

/-- Takes all payloads that wait in a subscription. -/
def drain (broker : Broker) (number : Nat) : List String × Broker :=
  (broker.queue number, broker.setQueue number [])

/-- Takes the payload that has waited longest in a subscription. -/
def take (broker : Broker) (number : Nat) : Option String × Broker :=
  match broker.queue number with
  | [] => (none, broker)
  | payload :: rest => (some payload, broker.setQueue number rest)

end Broker

end Remote

end SwitchAbstraction
