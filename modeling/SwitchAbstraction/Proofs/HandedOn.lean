import Mathlib.Data.List.Infix
import SwitchAbstraction.EventLoop

/-!
# What event loops hand on

Whatever senders, the worker and the one who stops it do, and in whatever
order: what was handed on, what the worker holds and what is still queued are
together the messages that were sent, in their order.  So what was handed on is
a beginning of what was sent, and all of it if the worker ended for want of
senders.  When stopping has returned the worker has ended, and a worker that has
ended does nothing more.
-/

namespace SwitchAbstraction

/-! ## Stopping -/

namespace Control

/-- Flag and stopping agree, and stopping waits for the end of the worker. -/
structure IsOrderly (control : Control) (ended : Bool) : Prop where
  flag_iff : control.flag = true ↔ control.stopping = .notBegun
  ended_of_returned : control.stopping = .returned → ended = true

variable {control next : Control} {ended : Bool}

theorem isOrderly_spawn (name : String) : (spawn name).IsOrderly false where
  flag_iff := ⟨fun _ => rfl, fun _ => rfl⟩
  ended_of_returned returned := by cases returned

theorem IsOrderly.takeWakeUp (orderly : control.IsOrderly ended) :
    control.takeWakeUp.IsOrderly ended :=
  ⟨orderly.flag_iff, orderly.ended_of_returned⟩

/-- A worker that moves on has ended if it had before. -/
theorem IsOrderly.moveOn {later : Bool} (orderly : control.IsOrderly ended)
    (stays : ended = true → later = true) : control.IsOrderly later :=
  ⟨orderly.flag_iff, fun returned => stays (orderly.ended_of_returned returned)⟩

/-- From its first step on, stopping leaves the flag down. -/
theorem flag_of_stop (orderly : control.IsOrderly ended)
    (stopped : control.stop ended = some next) : next.flag = false := by
  have down : control.stopping ≠ .notBegun → control.flag = false := fun begun =>
    Bool.eq_false_iff.mpr fun up => begun (orderly.flag_iff.mp up)
  unfold stop at stopped
  cases phase : control.stopping with
  | notBegun =>
      simp only [phase, Option.some.injEq] at stopped
      rw [← stopped]
  | flagDown | woken =>
      simp only [phase, Option.some.injEq] at stopped
      rw [← stopped]
      exact down (by simp [phase])
  | awaiting =>
      simp only [phase, Option.ite_none_right_eq_some, Option.some.injEq] at stopped
      rw [← stopped.2]
      exact down (by simp [phase])
  | returned => simp [phase] at stopped

/-- Stopping has begun after its first step, and returns only when the worker has ended. -/
theorem stopping_of_stop (stopped : control.stop ended = some next) :
    next.stopping ≠ .notBegun ∧ (next.stopping = .returned → ended = true) := by
  unfold stop at stopped
  cases phase : control.stopping with
  | notBegun | flagDown | woken =>
      simp only [phase, Option.some.injEq] at stopped
      rw [← stopped]
      simp
  | awaiting =>
      simp only [phase, Option.ite_none_right_eq_some, Option.some.injEq] at stopped
      rw [← stopped.2]
      simp [stopped.1]
  | returned => simp [phase] at stopped

theorem IsOrderly.stop (orderly : control.IsOrderly ended)
    (stopped : control.stop ended = some next) : next.IsOrderly ended where
  flag_iff := by
    rw [flag_of_stop orderly stopped]
    simp [(stopping_of_stop stopped).1]
  ended_of_returned := (stopping_of_stop stopped).2

end Control

/-! ## Loops over messages -/

namespace EventLoop

variable {α : Type} {loop next : EventLoop α} {labour : Labour} {action : Action α}
  {before : List α}

/-- What the worker has taken and not handed on yet. -/
def inHand (loop : EventLoop α) : List α :=
  match loop.worker with
  | .holding message => [message]
  | _ => []

/-- The message that an action brings into the queue, if it does. -/
def accepted (loop : EventLoop α) : Action α → List α
  | .send message => if loop.accepts then [message] else []
  | .hangUp => []
  | .work _ => []
  | .stop => []

/-- The messages that reach the queue in the course of actions. -/
def sent (loop : EventLoop α) : List (Action α) → List α
  | [] => []
  | action :: rest => loop.accepted action ++ (loop.act action).sent rest

theorem hasEnded_iff : loop.hasEnded = true ↔ loop.worker = .gone := by
  unfold hasEnded
  cases loop.worker <;> simp

/-- What the worker of a loop does, and what the loop is then. -/
inductive Works (loop : EventLoop α) : Labour → EventLoop α → Prop
  | look (looking : loop.worker = .looking) :
      Works loop .look { loop with worker := if loop.control.flag then .waiting else .gone }
  | take {message : α} {rest : List α} (waiting : loop.worker = .waiting)
      (queued : loop.queue = message :: rest) :
      Works loop .take { loop with queue := rest, worker := .holding message }
  | handOn {message : α} (holding : loop.worker = .holding message) :
      Works loop .handOn
        { loop with worker := .handing, handled := loop.handled ++ [message] }
  | resume (handing : loop.worker = .handing) :
      Works loop .resume { loop with worker := .looking }
  | finish (waiting : loop.worker = .waiting) (empty : loop.queue = [])
      (alone : loop.hasSenders = false) :
      Works loop .finish { loop with worker := .gone }
  | wakeUp (waiting : loop.worker = .waiting) :
      Works loop .wakeUp { loop with worker := .looking, control := loop.control.takeWakeUp }
  | timeOut (waiting : loop.worker = .waiting) :
      Works loop .timeOut { loop with worker := .looking }

theorem works_of_work (worked : loop.work labour = some next) : Works loop labour next := by
  cases labour with
  | look =>
      simp only [work] at worked
      split at worked
      · next looking =>
          cases worked
          exact .look looking
      · cases worked
  | take =>
      simp only [work] at worked
      split at worked
      · next waiting queued =>
          cases worked
          exact .take waiting queued
      · cases worked
  | handOn =>
      simp only [work] at worked
      split at worked
      · next holding =>
          cases worked
          exact .handOn holding
      · cases worked
  | resume =>
      simp only [work] at worked
      split at worked
      · next handing =>
          cases worked
          exact .resume handing
      · cases worked
  | finish =>
      simp only [work] at worked
      split at worked
      · next waiting =>
          simp only [Option.ite_none_right_eq_some, Bool.and_eq_true, List.isEmpty_iff,
            Bool.not_eq_true'] at worked
          obtain ⟨⟨empty, alone⟩, same⟩ := worked
          cases same
          exact .finish waiting empty alone
      · cases worked
  | wakeUp =>
      simp only [work] at worked
      split at worked
      · next waiting =>
          split at worked
          · cases worked
            exact .wakeUp waiting
          · cases worked
      · cases worked
  | timeOut =>
      simp only [work] at worked
      split at worked
      · next waiting =>
          cases worked
          exact .timeOut waiting
      · cases worked

/-- A worker that has ended does nothing more. -/
theorem work_of_hasEnded (ended : loop.hasEnded = true) : loop.work labour = none := by
  have gone := hasEnded_iff.mp ended
  cases labour <;> simp [work, gone]

/-- Nothing reaches the queue of a worker that has ended. -/
theorem send_of_hasEnded (ended : loop.hasEnded = true) (message : α) :
    loop.step (.send message) = none := by
  simp [step, accepts, ended]

/--
What a loop is after messages were sent: nothing is lost or out of order, and
the worker ends by itself only when all is handed on and nobody is left to send.
-/
structure IsOrderly (sent : List α) (loop : EventLoop α) : Prop where
  control : loop.control.IsOrderly loop.hasEnded
  conserved : loop.handled ++ loop.inHand ++ loop.queue = sent
  finished : loop.worker = .gone → loop.control.flag = true →
    loop.queue = [] ∧ loop.hasSenders = false

theorem isOrderly_spawn (name : String) : (spawn name : EventLoop α).IsOrderly [] where
  control := Control.isOrderly_spawn name
  conserved := rfl
  finished gone := by cases gone

theorem IsOrderly.work (orderly : loop.IsOrderly before) (works : Works loop labour next) :
    next.IsOrderly before := by
  have conserved := orderly.conserved
  have stays {other : Bool} (alive : loop.hasEnded = false) : loop.control.IsOrderly other :=
    orderly.control.moveOn fun ended => by rw [alive] at ended; cases ended
  cases works with
  | look looking =>
      refine ⟨stays (by simp [hasEnded, looking]), ?_, ?_⟩
      · simp only [inHand, looking] at conserved
        cases loop.control.flag <;> simpa [inHand] using conserved
      · intro gone up
        have isUp : loop.control.flag = true := up
        simp [isUp] at gone
  | take waiting queued =>
      refine ⟨stays (by simp [hasEnded, waiting]), ?_, fun gone => by cases gone⟩
      simpa [inHand, waiting, queued] using conserved
  | handOn holding =>
      refine ⟨stays (by simp [hasEnded, holding]), ?_, fun gone => by cases gone⟩
      simpa [inHand, holding] using conserved
  | resume handing =>
      refine ⟨stays (by simp [hasEnded, handing]), ?_, fun gone => by cases gone⟩
      simpa [inHand, handing] using conserved
  | finish waiting empty alone =>
      refine ⟨stays (by simp [hasEnded, waiting]), ?_, fun _ _ => ⟨empty, alone⟩⟩
      simpa [inHand, waiting] using conserved
  | wakeUp waiting =>
      have control : loop.control.IsOrderly false := stays (by simp [hasEnded, waiting])
      refine ⟨control.takeWakeUp, ?_, fun gone => by cases gone⟩
      simpa [inHand, waiting] using conserved
  | timeOut waiting =>
      refine ⟨stays (by simp [hasEnded, waiting]), ?_, fun gone => by cases gone⟩
      simpa [inHand, waiting] using conserved

/-- Every action that can happen keeps a loop orderly. -/
theorem IsOrderly.step (orderly : loop.IsOrderly before) (stepped : loop.step action = some next) :
    next.IsOrderly (before ++ loop.accepted action) := by
  cases action with
  | send message =>
      simp only [EventLoop.step, Option.ite_none_right_eq_some, Option.some.injEq] at stepped
      obtain ⟨accepts, rfl⟩ := stepped
      have alive : loop.worker ≠ .gone := by
        intro gone
        simp [EventLoop.accepts, hasEnded_iff.mpr gone] at accepts
      refine ⟨orderly.control, ?_, fun gone => absurd gone alive⟩
      have conserved := orderly.conserved
      simp only [accepted, accepts, if_true]
      rw [← conserved, ← List.append_assoc]
      rfl
  | hangUp =>
      simp only [EventLoop.step, Option.ite_none_right_eq_some, Option.some.injEq] at stepped
      obtain ⟨_, rfl⟩ := stepped
      rw [accepted, List.append_nil]
      exact ⟨orderly.control, orderly.conserved,
        fun gone up => ⟨(orderly.finished gone up).1, rfl⟩⟩
  | work labour =>
      rw [accepted, List.append_nil]
      exact orderly.work (works_of_work stepped)
  | stop =>
      simp only [EventLoop.step, Option.map_eq_some_iff] at stepped
      obtain ⟨control, stopped, rfl⟩ := stepped
      rw [accepted, List.append_nil]
      refine ⟨orderly.control.stop stopped, orderly.conserved, fun _ up => ?_⟩
      have down := Control.flag_of_stop orderly.control stopped
      exact absurd (down.symm.trans up) (by decide)

theorem accepted_of_step_eq_none (refused : loop.step action = none) :
    loop.accepted action = [] := by
  cases action with
  | send message =>
      simp only [EventLoop.step] at refused
      split at refused
      · cases refused
      · next full => simp [accepted, full]
  | hangUp | work _ | stop => rfl

theorem IsOrderly.act (orderly : loop.IsOrderly before) (action : Action α) :
    (loop.act action).IsOrderly (before ++ loop.accepted action) := by
  unfold EventLoop.act
  cases stepped : loop.step action with
  | none =>
      rw [accepted_of_step_eq_none stepped, List.append_nil]
      exact orderly
  | some next => exact orderly.step stepped

theorem IsOrderly.actAll (orderly : loop.IsOrderly before) (actions : List (Action α)) :
    (loop.actAll actions).IsOrderly (before ++ loop.sent actions) := by
  induction actions generalizing loop before with
  | nil =>
      rw [EventLoop.sent, List.append_nil]
      exact orderly
  | cons action rest ih =>
      rw [EventLoop.sent, ← List.append_assoc]
      exact ih (orderly.act action)

/-- What a worker that has ended has handed on stays as it is. -/
theorem act_of_hasEnded (ended : loop.hasEnded = true) (action : Action α) :
    (loop.act action).hasEnded = true ∧ (loop.act action).handled = loop.handled := by
  unfold act
  cases action with
  | send message =>
      rw [send_of_hasEnded ended message]
      exact ⟨ended, rfl⟩
  | hangUp =>
      simp only [step]
      split
      · exact ⟨ended, rfl⟩
      · exact ⟨ended, rfl⟩
  | work labour =>
      simp only [step]
      rw [work_of_hasEnded ended]
      exact ⟨ended, rfl⟩
  | stop =>
      simp only [step]
      cases loop.control.stop loop.hasEnded with
      | none => exact ⟨ended, rfl⟩
      | some control => exact ⟨ended, rfl⟩

theorem hasEnded_actAll (ended : loop.hasEnded = true) (actions : List (Action α)) :
    (loop.actAll actions).hasEnded = true := by
  induction actions generalizing loop with
  | nil => exact ended
  | cons action rest ih => exact ih (act_of_hasEnded ended action).1

theorem handled_actAll_of_hasEnded (ended : loop.hasEnded = true) (actions : List (Action α)) :
    (loop.actAll actions).handled = loop.handled := by
  induction actions generalizing loop with
  | nil => rfl
  | cons action rest ih =>
      obtain ⟨still, same⟩ := act_of_hasEnded ended action
      exact (ih still).trans same

end EventLoop

/-! ## Periodic loops -/

namespace PeriodicLoop

variable {loop next : PeriodicLoop} {labour : Labour} {action : Action}

theorem hasEnded_iff : loop.hasEnded = true ↔ loop.worker = .gone := by
  unfold hasEnded
  cases loop.worker <;> simp

/-- What the worker of a loop does, and what the loop is then. -/
inductive Works (loop : PeriodicLoop) : Labour → PeriodicLoop → Prop
  | look (looking : loop.worker = .looking) :
      Works loop .look { loop with worker := if loop.control.flag then .waiting else .gone }
  | elapse (waiting : loop.worker = .waiting) :
      Works loop .elapse { loop with worker := .due }
  | lookAgain (due : loop.worker = .due) :
      Works loop .lookAgain
        { loop with worker := if loop.control.flag then .cleared else .looking }
  | tick (cleared : loop.worker = .cleared) :
      Works loop .tick { loop with worker := .ticking, ticks := loop.ticks + 1 }
  | resume (ticking : loop.worker = .ticking) :
      Works loop .resume { loop with worker := .looking }
  | wakeUp (waiting : loop.worker = .waiting) :
      Works loop .wakeUp { loop with worker := .looking, control := loop.control.takeWakeUp }
  | finish (waiting : loop.worker = .waiting) :
      Works loop .finish { loop with worker := .gone }

theorem works_of_work (worked : loop.work labour = some next) : Works loop labour next := by
  cases labour with
  | look =>
      simp only [work] at worked
      split at worked
      · next looking =>
          cases worked
          exact .look looking
      · cases worked
  | elapse =>
      simp only [work] at worked
      split at worked
      · next waiting =>
          cases worked
          exact .elapse waiting
      · cases worked
  | lookAgain =>
      simp only [work] at worked
      split at worked
      · next due =>
          cases worked
          exact .lookAgain due
      · cases worked
  | tick =>
      simp only [work] at worked
      split at worked
      · next cleared =>
          cases worked
          exact .tick cleared
      · cases worked
  | resume =>
      simp only [work] at worked
      split at worked
      · next ticking =>
          cases worked
          exact .resume ticking
      · cases worked
  | wakeUp =>
      simp only [work] at worked
      split at worked
      · next waiting =>
          split at worked
          · cases worked
            exact .wakeUp waiting
          · cases worked
      · cases worked
  | finish =>
      simp only [work] at worked
      split at worked
      · next waiting =>
          split at worked
          · cases worked
            exact .finish waiting
          · cases worked
      · cases worked

/-- A worker that has ended does nothing more. -/
theorem work_of_hasEnded (ended : loop.hasEnded = true) : loop.work labour = none := by
  have gone := hasEnded_iff.mp ended
  cases labour <;> simp [work, gone]

/-- Stopping waits for the end of the worker. -/
def IsOrderly (loop : PeriodicLoop) : Prop :=
  loop.control.IsOrderly loop.hasEnded

theorem isOrderly_spawn (name : String) : (spawn name).IsOrderly :=
  Control.isOrderly_spawn name

theorem Works.hasEnded_eq_false (works : Works loop labour next) : loop.hasEnded = false := by
  cases works <;> simp_all [hasEnded]

theorem IsOrderly.work (orderly : loop.IsOrderly) (works : Works loop labour next) :
    next.IsOrderly := by
  have moved : loop.control.IsOrderly next.hasEnded :=
    Control.IsOrderly.moveOn orderly fun ended => by
      rw [works.hasEnded_eq_false] at ended
      cases ended
  cases works with
  | wakeUp waiting => exact moved.takeWakeUp
  | look _ | elapse _ | lookAgain _ | tick _ | resume _ | finish _ => exact moved

theorem IsOrderly.act (orderly : loop.IsOrderly) (action : Action) :
    (loop.act action).IsOrderly := by
  unfold PeriodicLoop.act
  cases stepped : loop.step action with
  | none => exact orderly
  | some next =>
      cases action with
      | work labour => exact orderly.work (works_of_work stepped)
      | stop =>
          simp only [step, Option.map_eq_some_iff] at stepped
          obtain ⟨control, stopped, rfl⟩ := stepped
          exact Control.IsOrderly.stop orderly stopped

theorem IsOrderly.actAll (orderly : loop.IsOrderly) (actions : List Action) :
    (loop.actAll actions).IsOrderly := by
  induction actions generalizing loop with
  | nil => exact orderly
  | cons action rest ih => exact ih (orderly.act action)

/-- How often a worker that has ended did its thing stays as it is. -/
theorem act_of_hasEnded (ended : loop.hasEnded = true) (action : Action) :
    (loop.act action).hasEnded = true ∧ (loop.act action).ticks = loop.ticks := by
  unfold act
  cases action with
  | work labour =>
      simp only [step]
      rw [work_of_hasEnded ended]
      exact ⟨ended, rfl⟩
  | stop =>
      simp only [step]
      cases loop.control.stop loop.hasEnded with
      | none => exact ⟨ended, rfl⟩
      | some control => exact ⟨ended, rfl⟩

theorem hasEnded_actAll (ended : loop.hasEnded = true) (actions : List Action) :
    (loop.actAll actions).hasEnded = true := by
  induction actions generalizing loop with
  | nil => exact ended
  | cons action rest ih => exact ih (act_of_hasEnded ended action).1

theorem ticks_actAll_of_hasEnded (ended : loop.hasEnded = true) (actions : List Action) :
    (loop.actAll actions).ticks = loop.ticks := by
  induction actions generalizing loop with
  | nil => rfl
  | cons action rest ih =>
      obtain ⟨still, same⟩ := act_of_hasEnded ended action
      exact (ih still).trans same

end PeriodicLoop

/-! ## What is handed on -/

namespace EventLoop

/--
What a loop has handed on is a beginning of what was sent to it, and all of it
if the loop ended by itself, which it does only when nobody is left to send.
When stopping has returned the worker is gone, and neither an event loop hands
anything on nor a periodic loop does its thing from then on.
-/
theorem handed_on_is_prefix_of_sent {α : Type} (name : String)
    (actions later : List (Action α)) (periods further : List PeriodicLoop.Action) :
    let loop := (spawn name).actAll actions
    let periodic := (PeriodicLoop.spawn name).actAll periods
    loop.handled <+: (spawn name).sent actions ∧
      (loop.worker = .gone → loop.control.stopping = .notBegun →
        loop.hasSenders = false ∧ loop.handled = (spawn name).sent actions) ∧
      (loop.control.stopping = .returned →
        loop.worker = .gone ∧ (loop.actAll later).handled = loop.handled) ∧
      (periodic.control.stopping = .returned →
        periodic.worker = .gone ∧ (periodic.actAll further).ticks = periodic.ticks) := by
  intro loop periodic
  have orderly : loop.IsOrderly ((spawn name).sent actions) :=
    (isOrderly_spawn name).actAll actions
  have alsoOrderly : periodic.IsOrderly := (PeriodicLoop.isOrderly_spawn name).actAll periods
  have conserved := orderly.conserved
  refine ⟨?_, ?_, ?_, ?_⟩
  · rw [← conserved, List.append_assoc]
    exact List.prefix_append _ _
  · intro gone notBegun
    obtain ⟨empty, alone⟩ := orderly.finished gone (orderly.control.flag_iff.mpr notBegun)
    refine ⟨alone, ?_⟩
    simpa [inHand, gone, empty] using conserved
  · intro returned
    have ended := orderly.control.ended_of_returned returned
    exact ⟨hasEnded_iff.mp ended, handled_actAll_of_hasEnded ended later⟩
  · intro returned
    have ended := Control.IsOrderly.ended_of_returned alsoOrderly returned
    exact ⟨PeriodicLoop.hasEnded_iff.mp ended,
      PeriodicLoop.ticks_actAll_of_hasEnded ended further⟩

/-- Two messages are sent and handed on, then the sender goes. -/
def closing : List (Action Nat) :=
  [.send 1, .work .look, .send 2, .work .take, .work .handOn, .work .resume, .hangUp,
    .work .look, .work .take, .work .handOn, .work .resume, .work .look, .work .finish]

/-- Stopping begins while the first of two messages is held, and returns before the second. -/
def stopping : List (Action Nat) :=
  [.send 1, .send 2, .work .look, .work .take, .stop, .work .handOn, .stop, .stop,
    .work .resume, .work .look, .stop]

/-- Stopping begins between two looks at the flag, so nothing is done after the period. -/
def stoppingPeriodic : List PeriodicLoop.Action :=
  [.work .look, .work .elapse, .stop, .work .lookAgain, .stop, .stop, .work .look, .stop]

/-- Both messages arrive at a loop that is closed, one at a loop that is stopped. -/
theorem handed_on_until_closed_or_stopped :
    let closed := (spawn "events").actAll closing
    let stopped := (spawn "events").actAll stopping
    let periodic := (PeriodicLoop.spawn "events").actAll stoppingPeriodic
    (closed.worker = .gone ∧ closed.control.stopping = .notBegun ∧
        closed.hasSenders = false ∧ closed.handled = (spawn "events").sent closing) ∧
      (stopped.control.stopping = .returned ∧ stopped.worker = .gone ∧
        stopped.handled <+: (spawn "events").sent stopping ∧
        (stopped.actAll closing).handled = stopped.handled) ∧
      periodic.control.stopping = .returned ∧ periodic.worker = .gone ∧
        (periodic.actAll stoppingPeriodic).ticks = periodic.ticks := by
  intro closed stopped periodic
  have closedGone : closed.worker = .gone := by decide
  have notStopped : closed.control.stopping = .notBegun := by decide
  have stopReturned : stopped.control.stopping = .returned := by decide
  have alsoReturned : periodic.control.stopping = .returned := by decide
  obtain ⟨_, finished, _, _⟩ := handed_on_is_prefix_of_sent "events" closing [] [] []
  obtain ⟨begun, _, ended, idle⟩ :=
    handed_on_is_prefix_of_sent "events" stopping closing stoppingPeriodic stoppingPeriodic
  obtain ⟨stoppedGone, silent⟩ := ended stopReturned
  exact ⟨⟨closedGone, notStopped, finished closedGone notStopped⟩,
    ⟨stopReturned, stoppedGone, begun, silent⟩, alsoReturned, idle alsoReturned⟩

end EventLoop

end SwitchAbstraction
