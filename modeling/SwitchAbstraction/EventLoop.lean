/-!
# Event loops

A worker that takes messages from a queue, one at a time, and hands each of
them on.  Before it takes the next one it looks at a run flag.  It ends when the
flag is down, or when it finds the queue empty and nobody left to send.  The
worker of a periodic loop takes no messages; it does one thing again and again,
once a period.

Stopping a loop puts the flag down, leaves a wake-up, closes the slot for
wake-ups and waits until the worker has ended.  Senders, the worker and the one
who stops it act independently, so a loop is given by the single actions that
each of them can take, in any order.
-/

namespace SwitchAbstraction

/-! ## Stopping -/

/-- The wake-up slot of a worker: it holds one wake-up at most and may be closed. -/
structure WakeSlot where
  pending : Bool
  closed : Bool
  deriving DecidableEq

/-- How far the stopping of a loop has come. -/
inductive Stopping
  | notBegun
  /-- The run flag is down. -/
  | flagDown
  /-- A wake-up was left, unless there was one. -/
  | woken
  /-- The slot for wake-ups is closed, and the end of the worker is awaited. -/
  | awaiting
  | returned
  deriving DecidableEq

/-- What a worker shares with the one who stops it. -/
structure Control where
  name : String
  /-- The run flag. -/
  flag : Bool
  wake : WakeSlot
  stopping : Stopping
  deriving DecidableEq

namespace Control

/-- The control of a loop that nobody has begun to stop. -/
def spawn (name : String) : Control :=
  ⟨name, true, ⟨false, false⟩, .notBegun⟩

/-- The control after a wake-up was taken, if there was one. -/
def takeWakeUp (control : Control) : Control :=
  { control with wake := { control.wake with pending := false } }

/--
The control after the next thing that stopping does, if that can happen now.
It returns when the worker has ended.
-/
def stop (control : Control) (ended : Bool) : Option Control :=
  match control.stopping with
  | .notBegun => some { control with flag := false, stopping := .flagDown }
  | .flagDown =>
      some { control with wake := { control.wake with pending := true }, stopping := .woken }
  | .woken =>
      some { control with wake := { control.wake with closed := true }, stopping := .awaiting }
  | .awaiting => if ended then some { control with stopping := .returned } else none
  | .returned => none

end Control

/-! ## Loops over messages -/

/-- Where the worker of an event loop is. -/
inductive Worker (α : Type)
  /-- It is about to look at the flag. -/
  | looking
  /-- It waits for something to do. -/
  | waiting
  /-- It has taken a message that it has not handed on yet. -/
  | holding (message : α)
  /-- It has handed a message on, and whoever got it is at work. -/
  | handing
  | gone
  deriving DecidableEq

/-- A worker with its queue of messages and what it has handed on. -/
structure EventLoop (α : Type) where
  control : Control
  queue : List α
  /-- Whether somebody is left who can send. -/
  hasSenders : Bool
  worker : Worker α
  /-- The messages handed on, the oldest first. -/
  handled : List α
  deriving DecidableEq

namespace EventLoop

variable {α : Type}

/-- What the worker can do. -/
inductive Labour
  /-- It looks at the flag. -/
  | look
  /-- While it waits it takes the oldest message. -/
  | take
  /-- It hands on the message that it has taken. -/
  | handOn
  /-- Whoever got the message is done with it. -/
  | resume
  /-- While it waits it finds the queue empty and nobody left to send. -/
  | finish
  /-- While it waits it takes a wake-up, or finds the slot for wake-ups closed. -/
  | wakeUp
  /-- It has waited long enough. -/
  | timeOut
  deriving DecidableEq

/-- What senders, the worker and the one who stops it can do. -/
inductive Action (α : Type)
  | send (message : α)
  /-- The last sender goes. -/
  | hangUp
  | work (labour : Labour)
  /-- Stopping does what comes next. -/
  | stop
  deriving DecidableEq

/-- A loop whose worker has just begun. -/
def spawn (name : String) : EventLoop α :=
  ⟨.spawn name, [], true, .looking, []⟩

/-- Whether the worker has ended. -/
def hasEnded (loop : EventLoop α) : Bool :=
  match loop.worker with
  | .gone => true
  | _ => false

/-- Whether the worker is at work and not asked to stop. -/
def isRunning (loop : EventLoop α) : Bool :=
  loop.control.flag && !loop.hasEnded

/-- Whether a message that is sent now reaches the queue. -/
def accepts (loop : EventLoop α) : Bool :=
  loop.hasSenders && !loop.hasEnded

/-- The loop after something that its worker does, if that can happen now. -/
def work (loop : EventLoop α) : Labour → Option (EventLoop α)
  | .look =>
      match loop.worker with
      | .looking =>
          some { loop with worker := if loop.control.flag then .waiting else .gone }
      | _ => none
  | .take =>
      match loop.worker, loop.queue with
      | .waiting, message :: rest =>
          some { loop with queue := rest, worker := .holding message }
      | _, _ => none
  | .handOn =>
      match loop.worker with
      | .holding message =>
          some { loop with worker := .handing, handled := loop.handled ++ [message] }
      | _ => none
  | .resume =>
      match loop.worker with
      | .handing => some { loop with worker := .looking }
      | _ => none
  | .finish =>
      match loop.worker with
      | .waiting =>
          if loop.queue.isEmpty && !loop.hasSenders then some { loop with worker := .gone }
          else none
      | _ => none
  | .wakeUp =>
      match loop.worker with
      | .waiting =>
          if loop.control.wake.pending || loop.control.wake.closed then
            some { loop with worker := .looking, control := loop.control.takeWakeUp }
          else none
      | _ => none
  | .timeOut =>
      match loop.worker with
      | .waiting => some { loop with worker := .looking }
      | _ => none

/-- The loop after an action, if that can happen now. -/
def step (loop : EventLoop α) : Action α → Option (EventLoop α)
  | .send message =>
      if loop.accepts then some { loop with queue := loop.queue ++ [message] } else none
  | .hangUp => if loop.hasSenders then some { loop with hasSenders := false } else none
  | .work labour => loop.work labour
  | .stop => (loop.control.stop loop.hasEnded).map fun control => { loop with control }

/-- The loop after an action, or as it is if that cannot happen now. -/
def act (loop : EventLoop α) (action : Action α) : EventLoop α :=
  (loop.step action).getD loop

/-- The loop after actions, as far as each can happen. -/
def actAll (loop : EventLoop α) (actions : List (Action α)) : EventLoop α :=
  actions.foldl act loop

/-- The loop after messages were sent. -/
def sendAll (loop : EventLoop α) (messages : List α) : EventLoop α :=
  loop.actAll (messages.map .send)

/-- What the worker does to hand on one message. -/
def handlingOne : List Labour :=
  [.look, .take, .handOn, .resume]

/-- The loop after its worker has handed on all that was in the queue. -/
def deliver (loop : EventLoop α) : EventLoop α :=
  loop.actAll (loop.queue.flatMap fun _ => handlingOne.map .work)

/-- The loop after the last sender has gone and the worker has noticed. -/
def close (loop : EventLoop α) : EventLoop α :=
  (loop.act .hangUp).deliver.actAll [.work .look, .work .finish]

/-- The loop after it was stopped between two messages. -/
def stop (loop : EventLoop α) : EventLoop α :=
  loop.actAll [.stop, .stop, .stop, .work .look, .work .wakeUp, .work .look, .stop]

end EventLoop

/-! ## Periodic loops -/

/-- Where the worker of a periodic loop is. -/
inductive Ticker
  /-- It is about to look at the flag. -/
  | looking
  /-- It waits for the period to pass. -/
  | waiting
  /-- A period has passed, and it is about to look at the flag again. -/
  | due
  /-- It has found the flag up and is about to do its thing. -/
  | cleared
  /-- It does its thing. -/
  | ticking
  | gone
  deriving DecidableEq

/-- A worker that does one thing again and again, once a period. -/
structure PeriodicLoop where
  control : Control
  worker : Ticker
  /-- How often the thing was done. -/
  ticks : Nat
  deriving DecidableEq

namespace PeriodicLoop

/-- What the worker can do. -/
inductive Labour
  /-- It looks at the flag. -/
  | look
  /-- While it waits a period passes. -/
  | elapse
  /-- After a period it looks at the flag once more. -/
  | lookAgain
  /-- It does its thing. -/
  | tick
  /-- It is done with its thing. -/
  | resume
  /-- While it waits it takes a wake-up. -/
  | wakeUp
  /-- While it waits it finds no wake-up and the slot for wake-ups closed. -/
  | finish
  deriving DecidableEq

/-- What the worker and the one who stops it can do. -/
inductive Action
  | work (labour : Labour)
  /-- Stopping does what comes next. -/
  | stop
  deriving DecidableEq

/-- A loop whose worker has just begun. -/
def spawn (name : String) : PeriodicLoop :=
  ⟨.spawn name, .looking, 0⟩

/-- Whether the worker has ended. -/
def hasEnded (loop : PeriodicLoop) : Bool :=
  match loop.worker with
  | .gone => true
  | _ => false

/-- Whether the worker is at work and not asked to stop. -/
def isRunning (loop : PeriodicLoop) : Bool :=
  loop.control.flag && !loop.hasEnded

/-- The loop after something that its worker does, if that can happen now. -/
def work (loop : PeriodicLoop) : Labour → Option PeriodicLoop
  | .look =>
      match loop.worker with
      | .looking =>
          some { loop with worker := if loop.control.flag then .waiting else .gone }
      | _ => none
  | .elapse =>
      match loop.worker with
      | .waiting => some { loop with worker := .due }
      | _ => none
  | .lookAgain =>
      match loop.worker with
      | .due => some { loop with worker := if loop.control.flag then .cleared else .looking }
      | _ => none
  | .tick =>
      match loop.worker with
      | .cleared => some { loop with worker := .ticking, ticks := loop.ticks + 1 }
      | _ => none
  | .resume =>
      match loop.worker with
      | .ticking => some { loop with worker := .looking }
      | _ => none
  | .wakeUp =>
      match loop.worker with
      | .waiting =>
          if loop.control.wake.pending then
            some { loop with worker := .looking, control := loop.control.takeWakeUp }
          else none
      | _ => none
  | .finish =>
      match loop.worker with
      | .waiting =>
          if loop.control.wake.closed && !loop.control.wake.pending then
            some { loop with worker := .gone }
          else none
      | _ => none

/-- The loop after an action, if that can happen now. -/
def step (loop : PeriodicLoop) : Action → Option PeriodicLoop
  | .work labour => loop.work labour
  | .stop => (loop.control.stop loop.hasEnded).map fun control => { loop with control }

/-- The loop after an action, or as it is if that cannot happen now. -/
def act (loop : PeriodicLoop) (action : Action) : PeriodicLoop :=
  (loop.step action).getD loop

/-- The loop after actions, as far as each can happen. -/
def actAll (loop : PeriodicLoop) (actions : List Action) : PeriodicLoop :=
  actions.foldl act loop

/-- What the worker does in one period. -/
def onePeriod : List Labour :=
  [.look, .elapse, .lookAgain, .tick, .resume]

/-- The loop after a number of periods. -/
def elapse (loop : PeriodicLoop) (periods : Nat) : PeriodicLoop :=
  loop.actAll ((List.replicate periods (onePeriod.map .work)).flatten)

/-- The loop after it was stopped between two periods. -/
def stop (loop : PeriodicLoop) : PeriodicLoop :=
  loop.actAll [.stop, .stop, .stop, .work .look, .work .wakeUp, .work .look, .stop]

end PeriodicLoop

end SwitchAbstraction
