import SwitchAbstraction.Remote.Broker
import SwitchAbstraction.Remote.Protocol

/-!
# Exchanges

What the remote backend meets while it makes calls: the shared store, the
troubles that the store is in, and what its peer will answer.  The answers to
a request are the payloads that arrive before the wait for them is over; a
peer that is slow, silent or chatty is one that gives fewer or more of them.
-/

namespace SwitchAbstraction

namespace Remote

/-- An operation on a shared store. -/
inductive StoreOp
  | increment
  | publish
  | subscribe (channel : String)
  deriving DecidableEq

/-- The words for an operation. -/
def StoreOp.name : StoreOp → String
  | .increment => "increment"
  | .publish => "publish"
  | .subscribe channel => "subscribe " ++ channel

/-- How an operation on a shared store goes wrong. -/
inductive Trouble
  | connection
  | command
  deriving DecidableEq

/-- The defect that an operation in trouble reports. -/
def StoreOp.defect (op : StoreOp) : Trouble → StoreDefect
  | .connection => .connection (op.name ++ " refused")
  | .command => .command (op.name ++ " rejected")

/-- The shared store and the peer behind it, as calls meet them. -/
structure Exchange where
  broker : Broker
  /-- For each request to come, the responses that arrive in time. -/
  replies : List (List String)
  troubles : List (StoreOp × Trouble)
  /-- A value that the store gives instead of that of a counter. -/
  counted : Option UInt64
  /-- The channels whose subscriptions end as soon as they begin. -/
  closed : List String
  /-- The requests that were published. -/
  sent : List String

namespace Exchange

/-- A store without trouble, and a peer that is silent. -/
def quiet (broker : Broker) : Exchange :=
  ⟨broker, [], [], none, [], []⟩

/-- Fails if an operation is in trouble. -/
def check (exchange : Exchange) (op : StoreOp) : Except Fault Unit :=
  match exchange.troubles.find? fun entry => entry.1 = op with
  | some (_, trouble) => .error (.failed (.store (op.defect trouble)))
  | none => .ok ()

/-- Counts a counter up. -/
def increment (exchange : Exchange) (name : String) : Except Fault UInt64 × Exchange :=
  match exchange.check .increment with
  | .error fault => (.error fault, exchange)
  | .ok () =>
      let (value, broker) := exchange.broker.increment name
      (.ok (exchange.counted.getD value), { exchange with broker })

/-- Publishes a request, upon which its answers arrive. -/
def publishRequest (exchange : Exchange) (payload : String) :
    Except Fault Unit × Exchange :=
  match exchange.check .publish with
  | .error fault => (.error fault, exchange)
  | .ok () =>
      let broker := exchange.broker.publish requestChannel payload
      (.ok (),
        { exchange with
          broker := broker.publishAll responseChannel (exchange.replies.head?.getD [])
          replies := exchange.replies.tail
          sent := exchange.sent ++ [payload] })

/-- Subscribes to a channel; there is no number if the subscription ends at once. -/
def subscribe (exchange : Exchange) (channel : String) :
    Except Fault (Option Nat) × Exchange :=
  match exchange.check (.subscribe channel) with
  | .error fault => (.error fault, exchange)
  | .ok () =>
      if channel ∈ exchange.closed then (.ok none, exchange)
      else
        let (number, broker) := exchange.broker.subscribe channel
        (.ok (some number), { exchange with broker })

/-- Ends a subscription, if there is one. -/
def unsubscribe (exchange : Exchange) (number : Option Nat) : Exchange :=
  match number with
  | none => exchange
  | some number => { exchange with broker := exchange.broker.unsubscribe number }

/-- Takes all payloads that wait in a subscription, if there is one. -/
def drain (exchange : Exchange) (number : Option Nat) : List String × Exchange :=
  match number with
  | none => ([], exchange)
  | some number =>
      let (payloads, broker) := exchange.broker.drain number
      (payloads, { exchange with broker })

end Exchange

end Remote

end SwitchAbstraction
