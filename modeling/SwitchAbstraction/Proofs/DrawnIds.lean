import SwitchAbstraction.Proofs.FreshIds
import SwitchAbstraction.Remote.Fleet

/-!
# Drawing ids from a store

Of all that a client does with its store, only creations count the counter of ids
up, each at most once.  A creation draws an id, or it fails; and what is refused at
once neither counts nor takes an index.
-/

namespace SwitchAbstraction

namespace Remote

/-! ## What leaves the counters alone -/

theorem Broker.counters_publishAll (broker : Broker) (channel : String) (payloads : List String) :
    (broker.publishAll channel payloads).counters = broker.counters := by
  induction payloads generalizing broker with
  | nil => rfl
  | cons payload rest ih => exact ih (broker.publish channel payload)

theorem Broker.counters_take (broker : Broker) (number : Nat) :
    (broker.take number).2.counters = broker.counters := by
  unfold take
  split <;> rfl

namespace Exchange

variable {exchange : Exchange}

theorem counters_drain (exchange : Exchange) (number : Option Nat) :
    (exchange.drain number).2.broker.counters = exchange.broker.counters := by
  cases number <;> rfl

theorem counters_unsubscribe (exchange : Exchange) (number : Option Nat) :
    (exchange.unsubscribe number).broker.counters = exchange.broker.counters := by
  cases number <;> rfl

theorem counters_subscribe (exchange : Exchange) (channel : String) :
    (exchange.subscribe channel).2.broker.counters = exchange.broker.counters := by
  unfold subscribe
  split
  · rfl
  · split <;> rfl

/-- A request is published, or the store is left as it is. -/
theorem publishRequest_cases (exchange : Exchange) (payload : String) :
    (∃ fault, exchange.publishRequest payload = (.error fault, exchange)) ∨
      ∃ next, exchange.publishRequest payload = (.ok (), next) ∧
        next.sent = exchange.sent ++ [payload] ∧
        next.broker.counters = exchange.broker.counters := by
  unfold publishRequest
  split
  · next fault _ => exact .inl ⟨fault, rfl⟩
  · refine .inr ⟨_, rfl, rfl, ?_⟩
    exact Broker.counters_publishAll _ _ _

end Exchange

namespace Session

variable {session : Session}

theorem counters_await (session : Session) (exchange : Exchange) (message : Message) :
    (session.await exchange message).2.broker.counters = exchange.broker.counters := by
  unfold await
  cases session.responses with
  | none => rfl
  | some number =>
      dsimp only
      have same := exchange.broker.counters_take number
      split
      · rfl
      · next payload broker taken =>
          rw [taken] at same
          exact same

theorem counters_roundTrip (session : Session) (exchange : Exchange) (message : Message) :
    (session.roundTrip exchange message).2.broker.counters = exchange.broker.counters := by
  rw [← exchange.counters_drain session.responses]
  unfold roundTrip
  dsimp only
  obtain ⟨fault, refused⟩ | ⟨next, published, _, same⟩ :=
    (exchange.drain session.responses).2.publishRequest_cases message.encode
  · rw [refused]
  · rw [published]
    exact (session.counters_await next message).trans same

end Session

namespace Client

variable {client : Client} {exchange : Exchange}

theorem counters_subscribe (exchange : Exchange) :
    (subscribe exchange).2.broker.counters = exchange.broker.counters := by
  have first := exchange.counters_subscribe responseChannel
  unfold subscribe
  split
  · next begun =>
      rw [begun] at first
      exact first
  · next responses middle begun =>
      rw [begun] at first
      have second := middle.counters_subscribe notificationChannel
      split
      · next alsoBegun =>
          rw [alsoBegun] at second
          exact (Exchange.counters_unsubscribe _ _).trans (second.trans first)
      · next alsoBegun =>
          rw [alsoBegun] at second
          exact second.trans first

theorem counters_listen (client : Client) (exchange : Exchange) :
    (client.listen exchange).2.broker.counters = exchange.broker.counters := by
  unfold listen
  cases client.session with
  | none => rfl
  | some session => exact exchange.counters_drain session.notifications

theorem counters_exchangeMessage (client : Client) (exchange : Exchange) (message : Message) :
    (client.exchangeMessage exchange message).2.broker.counters = exchange.broker.counters := by
  unfold exchangeMessage
  cases client.session with
  | none => rfl
  | some session => exact session.counters_roundTrip exchange message

theorem counters_commandOn (client : Client) (exchange : Exchange)
    (key : Except Fault ObjectKey) (message : ObjectKey → Message) :
    (client.commandOn exchange key message).2.broker.counters = exchange.broker.counters := by
  cases key with
  | error fault => rfl
  | ok key => exact client.counters_exchangeMessage exchange (message key)

theorem counters_get (client : Client) (exchange : Exchange) (key : Except Fault ObjectKey)
    (slots : List Attribute) :
    (client.get exchange key slots).2.broker.counters = exchange.broker.counters := by
  cases key with
  | error fault => rfl
  | ok key => exact client.counters_exchangeMessage exchange _

/-- Calls other than creations draw no ids. -/
theorem perform_of_not_create (client : Client) (exchange : Exchange) {call : Call}
    (other : ∀ type switchId attrs, call ≠ .create type switchId attrs) :
    (client.perform exchange call).2.1 = client ∧
      (client.perform exchange call).2.2.broker.counters = exchange.broker.counters := by
  cases call with
  | create type switchId attrs => exact absurd rfl (other type switchId attrs)
  | get type id slots => exact ⟨rfl, client.counters_get exchange _ _⟩
  | getEntry key slots => exact ⟨rfl, client.counters_get exchange (.ok key) slots⟩
  | createEntry key attrs => exact ⟨rfl, client.counters_exchangeMessage exchange _⟩
  | removeEntry key => exact ⟨rfl, client.counters_exchangeMessage exchange _⟩
  | setEntry key attr => exact ⟨rfl, client.counters_exchangeMessage exchange _⟩
  | _ => exact ⟨rfl, client.counters_commandOn exchange _ _⟩

/-! ## Drawing -/

/-- An id is drawn, the client goes on with a session, and the store is left behind. -/
inductive Draws (client : Client) (exchange : Exchange) (switchId : ObjectId) :
    ObjectType → ObjectId → Session → Exchange → Prop
  | index {session : Session} {index : UInt8} {indexes : SwitchIndexPool}
      (started : client.session = some session)
      (taken : index.toNat = session.indexes.taken)
      (goesOn : indexes.taken = session.indexes.taken + 1) :
      Draws client exchange switchId .switch (.ofSwitchIndex index) { session with indexes }
        exchange
  | counter {session : Session} {type : ObjectType} {counter : Nat}
      (started : client.session = some session) (other : type ≠ .switch)
      (addressed : type.isIdAddressed = true)
      (counts : counter = (exchange.broker.increment idCounter).1.toNat)
      (fits : counter < ObjectId.counterLimit) :
      Draws client exchange switchId type (.compose switchId.switchIndex type counter) session
        { exchange with broker := (exchange.broker.increment idCounter).2 }

variable {type : ObjectType} {switchId : ObjectId}

theorem draws_index (exchange : Exchange) (switchId : ObjectId) {session : Session}
    (started : client.session = some session) :
    (∃ fault, drawId session exchange .switch switchId = (.error fault, exchange)) ∨
      ∃ id next, drawId session exchange .switch switchId = (.ok (id, next), exchange) ∧
        Draws client exchange switchId .switch id next exchange := by
  dsimp only [drawId]
  rw [if_pos rfl]
  cases allocated : session.indexes.allocate with
  | error fault => exact .inl ⟨fault, rfl⟩
  | ok pair =>
      obtain ⟨taken, goesOn⟩ := SwitchIndexPool.allocate_eq_ok allocated
      exact .inr ⟨_, _, rfl, .index started taken goesOn⟩

/-- A counter that is too large for an id is counted, but nothing is drawn. -/
theorem draws_counter (switchId : ObjectId) {session : Session}
    (started : client.session = some session) (other : type ≠ .switch)
    (addressed : type.isIdAddressed = true) (uncounted : exchange.counted = none) :
    let counted := { exchange with broker := (exchange.broker.increment idCounter).2 }
    (∃ fault, drawId session exchange type switchId = (.error fault, exchange)) ∨
      (∃ fault, drawId session exchange type switchId = (.error fault, counted)) ∨
      ∃ id, drawId session exchange type switchId = (.ok (id, session), counted) ∧
        Draws client exchange switchId type id session counted := by
  dsimp only [drawId]
  rw [if_neg other]
  cases switchId.expectType .switch with
  | error fault => exact .inl ⟨fault, rfl⟩
  | ok _ =>
      unfold Exchange.increment
      cases exchange.check .increment with
      | error fault => exact .inl ⟨fault, rfl⟩
      | ok _ =>
          dsimp only
          have value : exchange.counted.getD (exchange.broker.increment idCounter).1 =
              (exchange.broker.increment idCounter).1 := by
            rw [uncounted, Option.getD_none]
          rw [value]
          right
          by_cases fits : (exchange.broker.increment idCounter).1.toNat < ObjectId.counterLimit
          · rw [ObjectId.encode_of_lt addressed fits]
            exact .inr ⟨_, rfl, .counter started other addressed rfl fits⟩
          · rw [ObjectId.encode_of_not_lt addressed (Nat.not_lt.mp fits)]
            exact .inl ⟨_, rfl⟩

/-- A creation draws an id, or it counts and fails, or it fails at once. -/
theorem draw_cases (type : ObjectType) (switchId : ObjectId) (uncounted : exchange.counted = none) :
    (∃ fault, client.draw exchange type switchId = (.error fault, exchange)) ∨
      (∃ fault, client.draw exchange type switchId =
        (.error fault, { exchange with broker := (exchange.broker.increment idCounter).2 })) ∨
      ∃ id session next, client.draw exchange type switchId = (.ok (id, session), next) ∧
        client.Draws exchange switchId type id session next := by
  unfold draw
  split
  · exact .inl ⟨_, rfl⟩
  · next addressed =>
      cases started : client.session with
      | none => exact .inl ⟨_, rfl⟩
      | some session =>
          by_cases same : type = .switch
          · subst same
            obtain ⟨fault, fails⟩ | ⟨id, next, drawn, draws⟩ :=
              draws_index exchange switchId started
            · exact .inl ⟨fault, fails⟩
            · exact .inr (.inr ⟨id, next, exchange, drawn, draws⟩)
          · have addressed' : type.isIdAddressed = true := by simpa using addressed
            obtain fails | counts | ⟨id, drawn, draws⟩ :=
              draws_counter switchId started same addressed' uncounted
            · exact .inl fails
            · exact .inr (.inl counts)
            · exact .inr (.inr ⟨id, session, _, drawn, draws⟩)

/-- A creation that is refused before it counts leaves the store as it was. -/
theorem draw_refused (exchange : Exchange)
    (refused : client.session = none ∨ type.isIdAddressed = false ∨
      type ≠ .switch ∧ switchId.type? ≠ some .switch) :
    ∃ fault, client.draw exchange type switchId = (.error fault, exchange) := by
  unfold draw
  split
  · exact ⟨_, rfl⟩
  · next addressed =>
      obtain idle | unaddressed | ⟨other, wrong⟩ := refused
      · rw [idle]
        exact ⟨_, rfl⟩
      · rw [unaddressed] at addressed
        exact absurd rfl addressed
      · cases client.session with
        | none => exact ⟨_, rfl⟩
        | some session =>
            dsimp only [drawId]
            rw [if_neg other]
            cases expected : switchId.expectType .switch with
            | error fault => exact ⟨fault, rfl⟩
            | ok _ =>
                have typed := (ObjectId.expectType_eq_ok_iff (by decide)).mp expected
                exact absurd typed wrong

/-- Starting a client makes a new session, or leaves the client as it was. -/
theorem start_cases (client : Client) (exchange : Exchange) (services : Services)
    (listening : Bool) :
    (client.start exchange services listening).2.2.broker.counters = exchange.broker.counters ∧
      ((∃ fault next, client.start exchange services listening = (.error fault, client, next)) ∨
        ∃ session next,
          client.start exchange services listening = (.ok (), ⟨some session⟩, next)) := by
  have same := counters_subscribe exchange
  unfold start
  split
  · exact ⟨rfl, .inl ⟨_, _, rfl⟩⟩
  · split
    · next subscribed =>
        rw [subscribed] at same
        exact ⟨same, .inl ⟨_, _, rfl⟩⟩
    · next subscribed =>
        rw [subscribed] at same
        exact ⟨same, .inr ⟨_, _, rfl⟩⟩

theorem counters_shutdown (client : Client) (exchange : Exchange) :
    (client.shutdown exchange).2.2.broker.counters = exchange.broker.counters := by
  unfold shutdown
  cases client.session with
  | none => rfl
  | some session =>
      exact (Exchange.counters_unsubscribe _ _).trans (exchange.counters_unsubscribe _)

end Client

end Remote

end SwitchAbstraction
