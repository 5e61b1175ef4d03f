import SwitchAbstraction.OrderedMap.Lemmas
import SwitchAbstraction.Proofs.Transport

/-!
# Conversations

A client makes one call after another while the switch process answers the
requests in their order, each once, at any time after it was sent.  A response
does not say which request it is for.  A call throws the responses away that
are left over when it begins, sends its request, and takes the first response
that comes after.  So it hears the answer to the first request that was still
open when it began, which is an earlier one after a call that timed out.
-/

namespace SwitchAbstraction

namespace Remote

/-! ## Subscriptions -/

namespace Exchange

/-- These responses wait in a subscription. -/
def Holds (exchange : Exchange) (number : Nat) (queue : List String) : Prop :=
  exchange.broker.subscriptions.get? number = some ⟨responseChannel, queue⟩

/-- A response that is published. -/
def respond (exchange : Exchange) (payload : String) : Exchange :=
  { exchange with broker := exchange.broker.publish responseChannel payload }

variable {exchange : Exchange} {number : Nat} {queue : List String}

theorem Holds.queue_eq (holds : exchange.Holds number queue) :
    exchange.broker.queue number = queue := by
  unfold Broker.queue
  rw [holds]
  rfl

theorem Holds.respond (holds : exchange.Holds number queue) (payload : String) :
    (exchange.respond payload).Holds number (queue ++ [payload]) := by
  have offered : Subscription.offer ⟨responseChannel, queue⟩ responseChannel payload =
      ⟨responseChannel, queue ++ [payload]⟩ := if_pos rfl
  unfold Holds Exchange.respond Broker.publish
  rw [OrderedMap.get?_mapValues, holds, Option.map_some, offered]

theorem Holds.setQueue (holds : exchange.Holds number queue) (other : List String) :
    ({ exchange with broker := exchange.broker.setQueue number other }).Holds number other := by
  unfold Holds Broker.setQueue
  rw [OrderedMap.get?_modify, if_pos rfl, holds]
  rfl

theorem Holds.drain (holds : exchange.Holds number queue) :
    (exchange.drain (some number)).2.Holds number [] :=
  holds.setQueue []

theorem replies_drain (exchange : Exchange) (subscription : Option Nat) :
    (exchange.drain subscription).2.replies = exchange.replies := by
  cases subscription <;> rfl

theorem sent_drain (exchange : Exchange) (subscription : Option Nat) :
    (exchange.drain subscription).2.sent = exchange.sent := by
  cases subscription <;> rfl

theorem troubles_drain (exchange : Exchange) (subscription : Option Nat) :
    (exchange.drain subscription).2.troubles = exchange.troubles := by
  cases subscription <;> rfl

/-- What is in trouble stays so while left-over responses are thrown away. -/
theorem check_drain (exchange : Exchange) (subscription : Option Nat) (op : StoreOp) :
    (exchange.drain subscription).2.check op = exchange.check op := by
  unfold check
  rw [troubles_drain]

theorem drain_withReplies (exchange : Exchange) (subscription : Option Nat)
    (replies : List (List String)) :
    (({ exchange with replies } : Exchange).drain subscription).2 =
      { (exchange.drain subscription).2 with replies } := by
  cases subscription <;> rfl

/-- A request that is published. -/
def request (exchange : Exchange) (payload : String) : Exchange :=
  { exchange with
    broker := exchange.broker.publish requestChannel payload
    sent := exchange.sent ++ [payload] }

/-- A request that passes goes out, upon which the answers in the script for it arrive. -/
theorem publishRequest_eq {payload : String} (passes : exchange.check .publish = .ok ()) :
    exchange.publishRequest payload =
      (.ok (), { exchange.request payload with
        broker := (exchange.request payload).broker.publishAll responseChannel
          (exchange.replies.head?.getD [])
        replies := exchange.replies.tail }) := by
  unfold publishRequest
  rw [passes]
  rfl

/-- Without a script nothing but the request happens. -/
theorem publishRequest_eq_request {payload : String} (unscripted : exchange.replies = [])
    (passes : exchange.check .publish = .ok ()) :
    exchange.publishRequest payload = (.ok (), exchange.request payload) := by
  obtain ⟨broker, replies, troubles, counted, closed, sent⟩ := exchange
  cases unscripted
  exact publishRequest_eq passes

theorem Holds.request (holds : exchange.Holds number queue) (payload : String) :
    (exchange.request payload).Holds number queue := by
  have different : responseChannel ≠ requestChannel := by decide
  have offered : Subscription.offer ⟨responseChannel, queue⟩ requestChannel payload =
      ⟨responseChannel, queue⟩ := if_neg different
  unfold Holds Exchange.request Broker.publish
  rw [OrderedMap.get?_mapValues, holds, Option.map_some, offered]

/-- What an operation in trouble reports is that trouble. -/
theorem check_eq_error {op : StoreOp} {fault : Fault} (refused : exchange.check op = .error fault) :
    ∃ trouble, fault = .failed (.store (op.defect trouble)) := by
  unfold check at refused
  split at refused
  · next trouble _ =>
      cases refused
      exact ⟨trouble, rfl⟩
  · cases refused

end Exchange

/-! ## The steps of a conversation -/

/-- What the switch process says on each request, counted from the first. -/
abbrev Answers :=
  Nat → Status × List Field

namespace Answers

/-- The payload of the response to a request. -/
def payload (answers : Answers) (number : Nat) : String :=
  (response (answers number).1 (answers number).2).encode

/-- The payloads of the responses to some requests in a row. -/
def payloads (answers : Answers) (first count : Nat) : List String :=
  (List.range' first count).map answers.payload

variable {answers : Answers} {first count : Nat}

theorem payloads_succ :
    answers.payloads first (count + 1) =
      answers.payload first :: answers.payloads (first + 1) count := by
  unfold payloads
  rw [List.range'_succ, List.map_cons]

theorem payloads_append_payload :
    answers.payloads first count ++ [answers.payload (first + count)] =
      answers.payloads first (count + 1) := by
  unfold payloads
  rw [List.range'_concat, List.map_append, Nat.one_mul]
  rfl

end Answers

/-- Where the client is in its calls. -/
inductive Phase
  | idle
  /-- A call has thrown left-over responses away; which request was the first one open then. -/
  | cleared (message : Message) (firstOpen : Nat)
  /-- The request of the call is out, and has a number. -/
  | waiting (message : Message) (firstOpen number : Nat)

/-- A call that has come to its end. -/
structure EndedCall where
  message : Message
  /-- The first request that was not answered when the call began. -/
  firstOpen : Nat
  /-- The number of its own request. -/
  number : Nat
  result : Except Fault (Status × List Field)

/-- A client, the store it shares with the switch process, and how far both have come. -/
structure Conversation where
  exchange : Exchange
  /-- The number of requests that have been answered. -/
  answered : Nat
  phase : Phase
  /-- The calls that have ended, the oldest first. -/
  ended : List EndedCall

namespace Conversation

/-- What the client and the switch process can do. -/
inductive Action
  /-- A call begins: left-over responses are thrown away. -/
  | clear (message : Message)
  /-- The request of the call goes out to a store that is in some troubles. -/
  | publish (troubles : List (StoreOp × Trouble))
  /-- The switch process answers the first open request. -/
  | answer
  /-- The call takes the first response, or has waited long enough. -/
  | finish

/-- A conversation that begins. -/
def opened (exchange : Exchange) : Conversation :=
  ⟨{ exchange with replies := [], sent := [] }, 0, .idle, []⟩

/-- The number of requests that have been sent. -/
def sent (conversation : Conversation) : Nat :=
  conversation.exchange.sent.length

/-- The conversation when a call has come to its end. -/
def endCall (conversation : Conversation) (exchange : Exchange) (call : EndedCall) :
    Conversation :=
  { conversation with exchange, phase := .idle, ended := conversation.ended ++ [call] }

/-- The conversation after an action, if that can happen now. -/
def step (session : Session) (answers : Answers) (conversation : Conversation) :
    Action → Option Conversation
  | .clear message =>
      match conversation.phase with
      | .idle =>
          let (_, exchange) := conversation.exchange.drain session.responses
          some { conversation with exchange, phase := .cleared message conversation.answered }
      | _ => none
  | .publish troubles =>
      match conversation.phase with
      | .cleared message firstOpen =>
          let exchange := { conversation.exchange with troubles }
          match exchange.publishRequest message.encode with
          | (.error fault, next) =>
              some (conversation.endCall next ⟨message, firstOpen, conversation.sent, .error fault⟩)
          | (.ok (), next) =>
              some { conversation with
                exchange := next
                phase := .waiting message firstOpen conversation.sent }
      | _ => none
  | .answer =>
      if conversation.answered < conversation.sent then
        some { conversation with
          exchange := conversation.exchange.respond (answers.payload conversation.answered)
          answered := conversation.answered + 1 }
      else none
  | .finish =>
      match conversation.phase with
      | .waiting message firstOpen number =>
          let (result, next) := session.await conversation.exchange message
          some (conversation.endCall next ⟨message, firstOpen, number, result⟩)
      | _ => none

/-- The conversation after an action, or as it is if that cannot happen now. -/
def act (session : Session) (answers : Answers) (conversation : Conversation) (action : Action) :
    Conversation :=
  (conversation.step session answers action).getD conversation

/-- The conversation after actions, as far as each can happen. -/
def actAll (session : Session) (answers : Answers) (conversation : Conversation)
    (actions : List Action) : Conversation :=
  actions.foldl (act session answers) conversation

/-! ## A call as a whole -/

section Whole

variable (session : Session) (answers : Answers)

theorem actAll_cons (conversation : Conversation) (action : Action)
    (actions : List Action) :
    conversation.actAll session answers (action :: actions) =
      (conversation.act session answers action).actAll session answers actions := rfl

theorem actAll_append (conversation : Conversation) (first second : List Action) :
    conversation.actAll session answers (first ++ second) =
      (conversation.actAll session answers first).actAll session answers second :=
  List.foldl_append

/-- Answers that are due come one after another. -/
theorem actAll_answer (conversation : Conversation) (count : Nat)
    (due : conversation.answered + count ≤ conversation.sent) :
    conversation.actAll session answers (List.replicate count .answer) =
      { conversation with
        exchange := { conversation.exchange with
          broker := conversation.exchange.broker.publishAll responseChannel
            (answers.payloads conversation.answered count) }
        answered := conversation.answered + count } := by
  induction count generalizing conversation with
  | zero => rfl
  | succ count ih =>
      have isDue : conversation.answered < conversation.sent := by omega
      have acted : conversation.act session answers .answer =
          { conversation with
            exchange := conversation.exchange.respond (answers.payload conversation.answered)
            answered := conversation.answered + 1 } := by
        unfold act step
        dsimp only
        rw [if_pos isDue]
        rfl
      rw [List.replicate_succ, actAll_cons, acted, ih, Answers.payloads_succ]
      · simp only [Exchange.respond, Broker.publishAll, List.foldl_cons, Conversation.mk.injEq,
          true_and, and_true]
        omega
      · change conversation.answered + 1 + count ≤ conversation.sent
        omega

variable {session answers}

/-- A call begins with what waits thrown away. -/
theorem act_clear {conversation : Conversation} (message : Message)
    (idle : conversation.phase = .idle) :
    conversation.act session answers (.clear message) =
      { conversation with
        exchange := (conversation.exchange.drain session.responses).2
        phase := .cleared message conversation.answered } := by
  unfold act step
  rw [idle]
  rfl

/-- A request to which no answers are scripted goes out as it is. -/
theorem act_publish {conversation : Conversation} {message : Message} {firstOpen : Nat}
    (cleared : conversation.phase = .cleared message firstOpen)
    (unscripted : conversation.exchange.replies = [])
    (passes : conversation.exchange.check .publish = .ok ()) :
    conversation.act session answers (.publish conversation.exchange.troubles) =
      { conversation with
        exchange := conversation.exchange.request message.encode
        phase := .waiting message firstOpen conversation.sent } := by
  unfold act step
  dsimp only
  rw [cleared]
  dsimp only
  rw [Exchange.publishRequest_eq_request unscripted passes]
  rfl

theorem act_finish {conversation : Conversation} {message : Message} {firstOpen number : Nat}
    (waiting : conversation.phase = .waiting message firstOpen number) :
    conversation.act session answers .finish =
      conversation.endCall (session.await conversation.exchange message).2
        ⟨message, firstOpen, number, (session.await conversation.exchange message).1⟩ := by
  unfold act step
  rw [waiting]
  rfl

/-- A round trip whose request goes out is a wait among the answers that then arrive. -/
theorem roundTrip_eq_await {exchange : Exchange} (message : Message) (payloads : List String)
    (unscripted : exchange.replies = []) (passes : exchange.check .publish = .ok ()) :
    session.roundTrip { exchange with replies := [payloads] } message =
      let asked := (exchange.drain session.responses).2.request message.encode
      session.await { asked with broker := asked.broker.publishAll responseChannel payloads }
        message := by
  let scripted : Exchange := { exchange with replies := [payloads] }
  let drained := (exchange.drain session.responses).2
  have silent : drained.replies = [] := (Exchange.replies_drain _ _).trans unscripted
  have stillPasses : ({ drained with replies := [payloads] } : Exchange).check .publish = .ok () :=
    (Exchange.check_drain exchange _ _).trans passes
  have passed : (scripted.drain session.responses).2 = { drained with replies := [payloads] } :=
    Exchange.drain_withReplies _ _ _
  change session.roundTrip scripted message = _
  unfold Session.roundTrip
  dsimp only
  rw [passed, Exchange.publishRequest_eq stillPasses]
  dsimp only [Exchange.request, List.head?_cons, Option.getD_some, List.tail_cons]
  rw [← silent]

variable (session answers)

/--
A call during which the switch process answers some requests is the round trip
of the client to which these answers come in time.
-/
theorem actAll_roundTrip (conversation : Conversation) (message : Message) (count : Nat)
    (idle : conversation.phase = .idle) (passes : conversation.exchange.check .publish = .ok ())
    (unscripted : conversation.exchange.replies = [])
    (due : conversation.answered + count ≤ conversation.sent + 1) :
    conversation.actAll session answers
        (.clear message :: .publish conversation.exchange.troubles ::
          (List.replicate count .answer ++ [.finish])) =
      let trip := session.roundTrip
        { conversation.exchange with
          replies := [answers.payloads conversation.answered count] } message
      { exchange := trip.2
        answered := conversation.answered + count
        phase := .idle
        ended := conversation.ended ++
          [⟨message, conversation.answered, conversation.sent, trip.1⟩] } := by
  let drained := (conversation.exchange.drain session.responses).2
  let cleared : Conversation :=
    { conversation with
      exchange := drained
      phase := .cleared message conversation.answered }
  let waiting : Conversation :=
    { cleared with
      exchange := drained.request message.encode
      phase := .waiting message conversation.answered cleared.sent }
  have silent : drained.replies = [] := (Exchange.replies_drain _ _).trans unscripted
  have stillPasses : drained.check .publish = .ok () := (Exchange.check_drain _ _ _).trans passes
  have sent : drained.sent = conversation.exchange.sent := Exchange.sent_drain _ _
  have published : cleared.act session answers (.publish conversation.exchange.troubles) =
      waiting := by
    rw [← Exchange.troubles_drain conversation.exchange session.responses]
    exact @act_publish _ _ cleared _ _ rfl silent stillPasses
  have isDue : waiting.answered + count ≤ waiting.sent := by
    change conversation.answered + count ≤ (drained.sent ++ [message.encode]).length
    rw [List.length_append, sent]
    exact due
  have own : cleared.sent = conversation.sent := congrArg List.length sent
  rw [actAll_cons, act_clear message idle, actAll_cons, published, actAll_append,
    actAll_answer session answers waiting count isDue, actAll_cons,
    @act_finish _ _ _ message conversation.answered cleared.sent rfl,
    roundTrip_eq_await message _ unscripted passes, own]
  rfl

end Whole

/-! ## What an ended call has heard -/

end Conversation

/-- The fault of a call on which no response came in time. -/
def Session.timedOut (session : Session) (message : Message) : Fault :=
  .failed (.timedOut message.op message.key session.settings.timeout)

/--
The request of the call was sent under its number, and the call heard the
answer to the first request that was open when it began; or it failed, since no
response came in time, none can come any more, or its request was not sent.
-/
inductive EndedCall.IsExplained (session : Session) (answers : Answers) (sent : List String)
    (call : EndedCall) : Prop
  | heard (own : sent[call.number]? = some call.message.encode)
      (result : call.result = .ok (answers call.firstOpen))
  | late (own : sent[call.number]? = some call.message.encode)
      (result : call.result = .error (session.timedOut call.message))
  | closed (responses : session.responses = none)
      (result : call.result = .error (.failed .responsesClosed))
  | unsent (trouble : Trouble)
      (result : call.result = .error (.failed (.store (StoreOp.publish.defect trouble))))

/-- What was sent stays sent. -/
theorem EndedCall.IsExplained.append {session : Session} {answers : Answers} {sent : List String}
    {call : EndedCall} (explained : call.IsExplained session answers sent) (more : List String) :
    call.IsExplained session answers (sent ++ more) := by
  have stays (own : sent[call.number]? = some call.message.encode) :
      (sent ++ more)[call.number]? = some call.message.encode := by
    obtain ⟨inside, _⟩ := List.getElem?_eq_some_iff.mp own
    rw [List.getElem?_append_left inside, own]
  cases explained with
  | heard own result => exact .heard (stays own) result
  | late own result => exact .late (stays own) result
  | closed responses result => exact .closed responses result
  | unsent trouble result => exact .unsent trouble result

namespace Session

variable {session : Session} {answers : Answers} {exchange : Exchange} {message : Message}
  {number first count : Nat}

theorem await_closed (responses : session.responses = none) :
    session.await exchange message = (.error (.failed .responsesClosed), exchange) := by
  unfold await
  rw [responses]

theorem await_late (responses : session.responses = some number)
    (holds : exchange.Holds number []) :
    session.await exchange message = (.error (session.timedOut message), exchange) := by
  unfold await Broker.take
  rw [responses]
  dsimp only
  rw [holds.queue_eq]
  rfl

/-- The response that waits first is taken, whatever request it is for. -/
theorem await_heard (responses : session.responses = some number)
    (holds : exchange.Holds number (answers.payloads first (count + 1))) :
    ∃ next, session.await exchange message = (.ok (answers first), next) ∧
      next.replies = exchange.replies ∧ next.sent = exchange.sent ∧
      next.Holds number (answers.payloads (first + 1) count) := by
  let rest := answers.payloads (first + 1) count
  refine ⟨{ exchange with broker := exchange.broker.setQueue number rest }, ?_, rfl, rfl,
    holds.setQueue rest⟩
  unfold await Broker.take
  rw [responses]
  dsimp only
  rw [holds.queue_eq, Answers.payloads_succ]
  dsimp only
  unfold Answers.payload
  rw [readResponse_response]

end Session

/-- The first open request of a call under way is not later than its own, once that is sent. -/
def Phase.Agrees (sent : List String) (answered : Nat) : Phase → Prop
  | .idle => True
  | .cleared _ firstOpen => firstOpen ≤ answered
  | .waiting message firstOpen number =>
      firstOpen ≤ number ∧ sent[number]? = some message.encode

/-- The responses that wait begin with the one on this request, if a call is under way. -/
def Phase.StartsAt (first : Nat) : Phase → Prop
  | .idle => True
  | .cleared _ firstOpen => firstOpen = first
  | .waiting _ firstOpen _ => firstOpen = first

namespace Conversation

/--
Requests are answered after they are sent, the responses that wait are the
last ones in a row, and a call under way will take the one on the request that
it found open.
-/
structure IsOrderly (session : Session) (answers : Answers) (conversation : Conversation) :
    Prop where
  unscripted : conversation.exchange.replies = []
  answered_le : conversation.answered ≤ conversation.sent
  agrees : conversation.phase.Agrees conversation.exchange.sent conversation.answered
  queued : ∀ number, session.responses = some number → ∃ first count,
    first + count = conversation.answered ∧ conversation.phase.StartsAt first ∧
      conversation.exchange.Holds number (answers.payloads first count)
  explained : ∀ call ∈ conversation.ended,
    call.firstOpen ≤ call.number ∧ call.IsExplained session answers conversation.exchange.sent

variable {session : Session} {answers : Answers} {conversation next : Conversation}

theorem IsOrderly.endCall (orderly : IsOrderly session answers conversation) {exchange : Exchange}
    {call : EndedCall} (unscripted : exchange.replies = [])
    (sent : exchange.sent = conversation.exchange.sent)
    (queued : ∀ number, session.responses = some number → ∃ first count,
      first + count = conversation.answered ∧
        exchange.Holds number (answers.payloads first count))
    (ordered : call.firstOpen ≤ call.number)
    (explained : call.IsExplained session answers conversation.exchange.sent) :
    IsOrderly session answers (conversation.endCall exchange call) where
  unscripted := unscripted
  answered_le := by
    have before := orderly.answered_le
    unfold Conversation.sent Conversation.endCall at *
    rw [sent]
    exact before
  agrees := trivial
  queued number isOpen := by
    obtain ⟨first, count, total, holds⟩ := queued number isOpen
    exact ⟨first, count, total, trivial, holds⟩
  explained other member := by
    change _ ∧ other.IsExplained session answers exchange.sent
    rw [sent]
    rcases List.mem_append.mp member with earlier | last
    · exact orderly.explained other earlier
    · cases List.mem_singleton.mp last
      exact ⟨ordered, explained⟩

/-! ## Each step keeps the order -/

theorem IsOrderly.clear (orderly : IsOrderly session answers conversation) (message : Message) :
    IsOrderly session answers
      { conversation with
        exchange := (conversation.exchange.drain session.responses).2
        phase := .cleared message conversation.answered } where
  unscripted := by
    rw [Exchange.replies_drain]
    exact orderly.unscripted
  answered_le := by
    have before := orderly.answered_le
    unfold sent at *
    rw [Exchange.sent_drain]
    exact before
  agrees := Nat.le_refl _
  queued number isOpen := by
    obtain ⟨_, _, _, _, holds⟩ := orderly.queued number isOpen
    refine ⟨conversation.answered, 0, rfl, rfl, ?_⟩
    rw [isOpen]
    exact holds.drain
  explained call member := by
    change _ ∧ call.IsExplained session answers (conversation.exchange.drain _).2.sent
    rw [Exchange.sent_drain]
    exact orderly.explained call member

theorem IsOrderly.answer (orderly : IsOrderly session answers conversation)
    (isDue : conversation.answered < conversation.sent) :
    IsOrderly session answers
      { conversation with
        exchange := conversation.exchange.respond (answers.payload conversation.answered)
        answered := conversation.answered + 1 } where
  unscripted := orderly.unscripted
  answered_le := isDue
  agrees := by
    have before := orderly.agrees
    cases phase : conversation.phase with
    | idle => trivial
    | cleared message firstOpen =>
        rw [phase] at before
        exact Nat.le_succ_of_le before
    | waiting message firstOpen number =>
        rw [phase] at before
        exact before
  queued number isOpen := by
    obtain ⟨first, count, total, starts, holds⟩ := orderly.queued number isOpen
    refine ⟨first, count + 1, congrArg Nat.succ total, starts, ?_⟩
    rw [← Answers.payloads_append_payload, total]
    exact holds.respond _
  explained := orderly.explained

/-- The store may be in any troubles while a request goes out. -/
theorem IsOrderly.withTroubles (orderly : IsOrderly session answers conversation)
    (troubles : List (StoreOp × Trouble)) :
    IsOrderly session answers
      { conversation with exchange := { conversation.exchange with troubles } } :=
  ⟨orderly.unscripted, orderly.answered_le, orderly.agrees, orderly.queued, orderly.explained⟩

/-- A request that goes out is the next one after all that were sent. -/
theorem IsOrderly.request (orderly : IsOrderly session answers conversation) {message : Message}
    {firstOpen : Nat} (cleared : conversation.phase = .cleared message firstOpen) :
    IsOrderly session answers
      { conversation with
        exchange := conversation.exchange.request message.encode
        phase := .waiting message firstOpen conversation.sent } where
  unscripted := orderly.unscripted
  answered_le := by
    have before := orderly.answered_le
    unfold sent Exchange.request at *
    rw [List.length_append]
    exact Nat.le_succ_of_le before
  agrees := by
    have answered := orderly.answered_le
    have before := orderly.agrees
    rw [cleared] at before
    exact ⟨Nat.le_trans before answered, List.getElem?_concat_length⟩
  queued number isOpen := by
    obtain ⟨first, count, total, starts, holds⟩ := orderly.queued number isOpen
    rw [cleared] at starts
    exact ⟨first, count, total, starts, holds.request _⟩
  explained call member := by
    obtain ⟨ordered, explained⟩ := orderly.explained call member
    exact ⟨ordered, explained.append [message.encode]⟩

/-- A call that cannot publish its request ends at once. -/
theorem IsOrderly.refuse (orderly : IsOrderly session answers conversation) {message : Message}
    {firstOpen : Nat} {fault : Fault}
    (cleared : conversation.phase = .cleared message firstOpen)
    (refused : conversation.exchange.check .publish = .error fault) :
    IsOrderly session answers
      (conversation.endCall conversation.exchange
        ⟨message, firstOpen, conversation.sent, .error fault⟩) := by
  obtain ⟨trouble, reported⟩ := Exchange.check_eq_error refused
  have before := orderly.agrees
  rw [cleared] at before
  apply orderly.endCall orderly.unscripted rfl
  · intro number isOpen
    obtain ⟨first, count, total, _, holds⟩ := orderly.queued number isOpen
    exact ⟨first, count, total, holds⟩
  · exact Nat.le_trans before orderly.answered_le
  · exact .unsent trouble (congrArg Except.error reported)

theorem IsOrderly.publish (orderly : IsOrderly session answers conversation)
    {troubles : List (StoreOp × Trouble)}
    (stepped : conversation.step session answers (.publish troubles) = some next) :
    IsOrderly session answers next := by
  have troubled := orderly.withTroubles troubles
  unfold step at stepped
  dsimp only at stepped
  split at stepped
  · next message firstOpen cleared =>
      cases passes : ({ conversation.exchange with troubles } : Exchange).check .publish with
      | error fault =>
          have refused : ({ conversation.exchange with troubles } : Exchange).publishRequest
              message.encode = (.error fault, { conversation.exchange with troubles }) := by
            unfold Exchange.publishRequest
            rw [passes]
          rw [refused] at stepped
          cases stepped
          exact troubled.refuse cleared passes
      | ok _ =>
          rw [Exchange.publishRequest_eq_request troubled.unscripted passes] at stepped
          cases stepped
          exact troubled.request cleared
  · cases stepped

/-- A waiting call takes the response that waits first, if there is one. -/
theorem IsOrderly.finish (orderly : IsOrderly session answers conversation) {message : Message}
    {firstOpen number : Nat} (waiting : conversation.phase = .waiting message firstOpen number) :
    IsOrderly session answers
      (conversation.endCall (session.await conversation.exchange message).2
        ⟨message, firstOpen, number, (session.await conversation.exchange message).1⟩) := by
  have before := orderly.agrees
  rw [waiting] at before
  cases responses : session.responses with
  | none =>
      rw [Session.await_closed responses]
      apply orderly.endCall orderly.unscripted rfl
      · intro number isOpen
        rw [responses] at isOpen
        cases isOpen
      · exact before.1
      · exact .closed responses rfl
  | some subscription =>
      obtain ⟨first, count, total, starts, holds⟩ := orderly.queued subscription responses
      rw [waiting] at starts
      cases starts
      cases count with
      | zero =>
          rw [Session.await_late responses holds]
          apply orderly.endCall orderly.unscripted rfl
          · intro number isOpen
            cases responses.symm.trans isOpen
            exact ⟨firstOpen, 0, total, holds⟩
          · exact before.1
          · exact .late before.2 rfl
      | succ count =>
          obtain ⟨last, heard, replies, sent, remaining⟩ :=
            @Session.await_heard _ _ _ message _ _ _ responses holds
          rw [heard]
          apply orderly.endCall (replies.trans orderly.unscripted) sent
          · intro number isOpen
            cases responses.symm.trans isOpen
            refine ⟨firstOpen + 1, count, ?_, remaining⟩
            rw [← total, Nat.add_right_comm, Nat.add_assoc]
          · exact before.1
          · exact .heard before.2 rfl

/-- Every action that can happen keeps a conversation orderly. -/
theorem IsOrderly.step (orderly : IsOrderly session answers conversation) {action : Action}
    (stepped : conversation.step session answers action = some next) :
    IsOrderly session answers next := by
  cases action with
  | clear message =>
      unfold Conversation.step at stepped
      dsimp only at stepped
      split at stepped
      · cases stepped
        exact orderly.clear message
      · cases stepped
  | publish troubles => exact orderly.publish stepped
  | answer =>
      unfold Conversation.step at stepped
      dsimp only at stepped
      split at stepped
      · next isDue =>
          cases stepped
          exact orderly.answer isDue
      · cases stepped
  | finish =>
      unfold Conversation.step at stepped
      dsimp only at stepped
      split at stepped
      · next message firstOpen number waiting =>
          cases stepped
          exact orderly.finish waiting
      · cases stepped

theorem IsOrderly.actAll (orderly : IsOrderly session answers conversation)
    (actions : List Action) :
    IsOrderly session answers (conversation.actAll session answers actions) := by
  induction actions generalizing conversation with
  | nil => exact orderly
  | cons action rest ih =>
      apply ih
      unfold act
      cases stepped : conversation.step session answers action with
      | none => exact orderly
      | some next => exact orderly.step stepped

end Conversation

/-! ## Conversations from the start of a client -/

/-- A subscription has the next number, unless it ends as it begins. -/
theorem Exchange.subscribe_eq_ok {exchange next : Exchange} {channel : String}
    {number : Option Nat} (subscribed : exchange.subscribe channel = (.ok number, next)) :
    number = none ∧ next = exchange ∨
      number = some exchange.broker.issued ∧
        next = { exchange with broker := (exchange.broker.subscribe channel).2 } := by
  unfold subscribe at subscribed
  split at subscribed
  · cases subscribed
  · split at subscribed
    · cases subscribed
      exact .inl ⟨rfl, rfl⟩
    · cases subscribed
      exact .inr ⟨rfl, rfl⟩

/-- No response waits when both subscriptions have begun. -/
theorem Client.subscribe_eq_ok {exchange next : Exchange} {responses notifications : Option Nat}
    (subscribed : subscribe exchange = (.ok (responses, notifications), next)) {number : Nat}
    (isOpen : responses = some number) : next.Holds number [] := by
  unfold subscribe at subscribed
  split at subscribed
  · cases subscribed
  · next first middle begun =>
      split at subscribed
      · cases subscribed
      · next second last alsoBegun =>
          cases subscribed
          subst isOpen
          obtain ⟨absent, _⟩ | ⟨numbered, inserted⟩ := Exchange.subscribe_eq_ok begun
          · cases absent
          · cases numbered
            have holds : middle.Holds exchange.broker.issued [] := by
              unfold Exchange.Holds
              rw [inserted]
              exact OrderedMap.get?_insert_self _ _ _
            have later : middle.broker.issued = exchange.broker.issued + 1 := by
              rw [inserted]
              rfl
            obtain ⟨_, same⟩ | ⟨_, added⟩ := Exchange.subscribe_eq_ok alsoBegun
            · rw [same]
              exact holds
            · have different : exchange.broker.issued ≠ middle.broker.issued := by omega
              unfold Exchange.Holds Broker.subscribe at *
              rw [added]
              dsimp only
              rw [OrderedMap.get?_insert, if_neg different]
              exact holds

theorem Client.start_eq_ok {client : Client} {exchange next : Exchange} {services : Services}
    {listening : Bool} {session : Session}
    (started : client.start exchange services listening = (.ok (), ⟨some session⟩, next))
    {number : Nat} (isOpen : session.responses = some number) : next.Holds number [] := by
  unfold start at started
  split at started
  · cases started
  · split at started
    · cases started
    · next responses notifications last subscribed =>
        cases started
        exact subscribe_eq_ok subscribed isOpen

namespace Conversation

variable {session : Session} {answers : Answers} {conversation : Conversation}

theorem isOrderly_opened {exchange : Exchange}
    (holds : ∀ number, session.responses = some number → exchange.Holds number []) :
    IsOrderly session answers (opened exchange) where
  unscripted := rfl
  answered_le := Nat.le_refl _
  agrees := trivial
  queued number isOpen := ⟨0, 0, rfl, trivial, holds number isOpen⟩
  explained call member := by cases member

/--
Of a client that was started and makes calls in any way, while the switch
process answers at any times, every call that has ended has heard the answer to
the first request that was open when it began, which is its own or an earlier
one, or it has failed.
-/
theorem ended_calls_hear_first_open_request {client : Client} {exchange next : Exchange}
    {services : Services} {listening : Bool}
    (started : client.start exchange services listening = (.ok (), ⟨some session⟩, next))
    (answers : Answers) (actions : List Action) :
    ∀ call ∈ ((opened next).actAll session answers actions).ended,
      call.firstOpen ≤ call.number ∧
        call.IsExplained session answers
          ((opened next).actAll session answers actions).exchange.sent := by
  have orderly : IsOrderly session answers (opened next) :=
    isOrderly_opened fun _ isOpen => Client.start_eq_ok started isOpen
  exact (orderly.actAll actions).explained

/-- The session of a client that is the only one to use its store. -/
def lone : Session :=
  ⟨.standard, some 0, .fresh, some 1, false⟩

/-- What such a client meets when it has been started. -/
def undisturbed : Exchange :=
  (Client.idle.start (.quiet .fresh) (.ofProfile ∅) false).2.2

/-- The removal of a port. -/
def removal : Message :=
  request RequestOp.remove.name (.object (.compose 0 .port 3)) []

/-- The write of an attribute of the same port. -/
def write : Message :=
  request RequestOp.set.name (.object (.compose 0 .port 3))
    (Attribute.toFields [⟨.portMtu, .u32 9100⟩])

/-- Refuses the first request and carries out all others. -/
def refusesFirst : Answers
  | 0 => (.objectInUse, [])
  | _ => (.success, [])

/-- Both answers come while the call for them waits. -/
def prompt : Conversation :=
  (opened undisturbed).actAll lone refusesFirst
    [.clear removal, .publish [], .answer, .finish, .clear write, .publish [], .answer, .finish]

theorem prompt_answers_are_heard :
    Client.idle.start (.quiet .fresh) (.ofProfile ∅) false =
        (.ok (), ⟨some lone⟩, undisturbed) ∧
      ∀ call ∈ prompt.ended, call.firstOpen ≤ call.number ∧
        call.IsExplained lone refusesFirst prompt.exchange.sent := by
  have started : Client.idle.start (.quiet .fresh) (.ofProfile ∅) false =
      (.ok (), ⟨some lone⟩, undisturbed) := rfl
  exact ⟨started, ended_calls_hear_first_open_request started refusesFirst
    [.clear removal, .publish [], .answer, .finish, .clear write, .publish [], .answer, .finish]⟩

/-- The answer to the first call comes when that has timed out and the second call waits. -/
def late : Conversation :=
  (opened undisturbed).actAll lone refusesFirst
    [.clear removal, .publish [], .finish, .clear write, .publish [], .answer, .answer, .finish]

/-- The second call was carried out, and reports that it was refused. -/
theorem late_answer_ends_next_call :
    late.exchange.sent = [removal.encode, write.encode] ∧
      (late.ended.map fun call => (call.number, call.result.toOption)) =
        [(0, none), (1, some (.objectInUse, []))] ∧
      refusesFirst 0 = (.objectInUse, []) ∧
      refusesFirst 1 = (.success, []) := by
  decide +kernel

end Conversation

end Remote

end SwitchAbstraction
