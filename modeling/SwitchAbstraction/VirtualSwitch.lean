import SwitchAbstraction.Chassis.Commands
import SwitchAbstraction.EventLoop

/-!
# The virtual switch backend

Between its start and its shutdown the backend holds a chassis; outside such a
session it takes no calls.  Each session has three workers: one hands what the
chassis reports to a listener, one applies administrative messages, and one lets
entries age.  All sessions share the one slot for a chassis, and so do their
workers.

Whoever has the channel for administrative messages of a session keeps it when the
session is over.  So a backend is kept with all sessions that it ever had, and is
given by the single actions that callers, holders of channels and workers take.

Starts and shutdowns do not overlap here.  A start that comes while a shutdown is
still closing is no step, although nothing keeps callers from it: the end of the
shutdown would empty the slot that the new session has filled.
-/

namespace SwitchAbstraction

namespace VirtualSwitch

/-- The workers of a session. -/
inductive Role
  | notifications
  | admin
  | aging
  deriving DecidableEq

/-- The name of a worker. -/
def Role.name : Role → String
  | .notifications => "vs-notifications"
  | .admin => "vs-admin"
  | .aging => "vs-fdb-aging"

/-- What is begun with each start of the backend. -/
structure Session where
  /-- Whether somebody listens to what the switches report. -/
  listening : Bool
  notifications : EventLoop Message
  admin : EventLoop Message
  aging : PeriodicLoop
  deriving DecidableEq

namespace Session

/-- A session whose workers have just begun. -/
def spawn (listening : Bool) : Session :=
  ⟨listening, .spawn Role.notifications.name, .spawn Role.admin.name, .spawn Role.aging.name⟩

/-- Whether all workers were stopped. -/
def isStopped (session : Session) : Bool :=
  session.aging.control.stopping = .returned && session.admin.control.stopping = .returned &&
    session.notifications.control.stopping = .returned

/-- The session after the next thing that stopping its workers does, if that can happen now. -/
def stopNext (session : Session) : Option Session :=
  if session.aging.control.stopping ≠ .returned then
    (session.aging.step .stop).map fun aging => { session with aging }
  else if session.admin.control.stopping ≠ .returned then
    (session.admin.step .stop).map fun admin => { session with admin }
  else
    (session.notifications.step .stop).map fun notifications => { session with notifications }

/-- The session with reports queued for its listener. -/
def report (session : Session) (notifications : List Notification) : Session :=
  { session with
    notifications := session.notifications.sendAll (notifications.map Notification.toMessage) }

/-- What a listener hears of a message. -/
def hear (session : Session) (message : Message) : Option Notification :=
  if session.listening then Notification.heard message else none

end Session

/-- Where the backend is in its life. -/
inductive Stage
  | idle
  | started
  /-- It is being shut down. -/
  | closing
  deriving DecidableEq

end VirtualSwitch

/-- The backend, started or not. -/
structure VirtualSwitch where
  chassis : Option Chassis
  stage : VirtualSwitch.Stage
  /-- The sessions there have been, the latest first. -/
  sessions : List VirtualSwitch.Session

namespace VirtualSwitch

/-- A backend that was never started. -/
def idle : VirtualSwitch :=
  ⟨none, .idle, []⟩

/-- Whether the backend is started. -/
def isStarted (backend : VirtualSwitch) : Bool :=
  backend.stage = .started

/-! ## Single actions -/

/-- What callers, holders of channels and workers do.  A session is given by how many came later. -/
inductive Action
  /-- The backend is started, or would be but for a worker that cannot be spawned. -/
  | start (files : Files) (services : Services) (listening : Bool)
      (refused : Option (Role × String))
  /-- The backend begins to shut down. -/
  | shutdown
  /-- Shutting down does what comes next. -/
  | stop
  | call (now : UInt64) (call : Call)
  /-- An address is seen on a bridge port. -/
  | learn (now : UInt64) (key : FdbKey) (port : ObjectId)
  /-- Entries age, unless somebody else is at the chassis. -/
  | age (now : UInt64) (contended : Bool)
  /-- The channel for administrative messages is asked for. -/
  | openChannel
  /-- A message is sent through the channel of a session. -/
  | send (ago : Nat) (message : Message)
  | workNotifications (ago : Nat) (labour : EventLoop.Labour)
  | workAdmin (ago : Nat) (labour : EventLoop.Labour) (now : UInt64)
  | workAging (ago : Nat) (labour : PeriodicLoop.Labour) (now : UInt64) (contended : Bool)

/-- What comes of an action. -/
inductive Response
  /-- A call or a message goes on, or a worker does. -/
  | goesOn
  | done (result : Except Fault Unit)
  | answered (answer : Answer)
  | aged (count : Option Nat)
  /-- Whether a message reached the queue of a worker. -/
  | sent (accepted : Bool)
  /-- What a listener hears of a message that a worker hands on. -/
  | heard (notification : Option Notification)

/-- Runs an operation on the chassis, if there is one, and queues what it reports. -/
def onChassis {α : Type} (backend : VirtualSwitch) (refusal : α)
    (operation : Chassis → Outcome Chassis α) : α × VirtualSwitch :=
  match backend.chassis with
  | none => (refusal, backend)
  | some chassis =>
      let outcome := operation chassis
      let sessions := backend.sessions.modifyHead fun session =>
        session.report outcome.notifications
      (outcome.answer, { backend with chassis := some outcome.state, sessions })

/-- Starts the backend with the settings that its services give. -/
def start (backend : VirtualSwitch) (files : Files) (services : Services) (listening : Bool)
    (refused : Option (Role × String)) : Except Fault VirtualSwitch :=
  if backend.isStarted then .error (.failed (.alreadyInitialized .virtualSwitch))
  else
    match services.validate with
    | .error fault => .error fault
    | .ok () =>
        match Settings.ofServices files services with
        | .error defect => .error (.ofSettings defect)
        | .ok settings =>
            match refused with
            | some (role, reason) => .error (.failed (.notSpawned role.name reason))
            | none =>
                .ok ⟨some (.start settings), .started, .spawn listening :: backend.sessions⟩

/-- Makes a call. -/
def perform (backend : VirtualSwitch) (now : UInt64) (call : Call) : Answer × VirtualSwitch :=
  backend.onChassis (call.refused .uninitialized) fun chassis => chassis.perform now call

/-- Records an address seen on a bridge port. -/
def learn (backend : VirtualSwitch) (now : UInt64) (key : FdbKey) (port : ObjectId) :
    Except Fault Unit × VirtualSwitch :=
  backend.onChassis (.error .uninitialized) fun chassis => chassis.learn key port now

/-- Lets entries age, unless somebody else is at the chassis, and counts those that went. -/
def age (backend : VirtualSwitch) (now : UInt64) (contended : Bool) :
    Option Nat × VirtualSwitch :=
  if contended then (none, backend)
  else
    backend.onChassis none fun chassis =>
      let outcome := chassis.age now
      { outcome with answer := some outcome.answer }

/-- Applies an administrative message.  Whether it could be applied is not told. -/
def administer (backend : VirtualSwitch) (now : UInt64) (message : Message) : VirtualSwitch :=
  (backend.onChassis (.ok ()) fun chassis => chassis.administer message now).2

/-- The backend with a session as it is after something. -/
def setSession (backend : VirtualSwitch) (ago : Nat) (session : Session) : VirtualSwitch :=
  { backend with sessions := backend.sessions.set ago session }

/-- What comes of something for the backend as a whole. -/
abbrev Effect :=
  VirtualSwitch → Response × VirtualSwitch

/-- Does something to a session, if it is there and that can happen, and then what comes of it. -/
def onSession (backend : VirtualSwitch) (ago : Nat)
    (operation : Session → Option (Session × Effect)) : Option (Response × VirtualSwitch) :=
  match backend.sessions[ago]? with
  | none => none
  | some session =>
      (operation session).map fun (next, effect) => effect (backend.setSession ago next)

namespace Session

/-- What the worker for notifications does.  A listener hears of what it hands on. -/
def workNotifications (labour : EventLoop.Labour) (session : Session) :
    Option (Session × Effect) :=
  let response :=
    match labour, session.notifications.worker with
    | .handOn, .holding message => .heard (session.hear message)
    | _, _ => .goesOn
  (session.notifications.work labour).map fun notifications =>
    ({ session with notifications }, fun backend => (response, backend))

/-- What the worker for administrative messages does.  It applies those that it hands on. -/
def workAdmin (labour : EventLoop.Labour) (now : UInt64) (session : Session) :
    Option (Session × Effect) :=
  let effect (backend : VirtualSwitch) : VirtualSwitch :=
    match labour, session.admin.worker with
    | .handOn, .holding message => backend.administer now message
    | _, _ => backend
  (session.admin.work labour).map fun admin =>
    ({ session with admin }, fun backend => (.goesOn, effect backend))

/-- What the worker does that lets entries age. -/
def workAging (labour : PeriodicLoop.Labour) (now : UInt64) (contended : Bool)
    (session : Session) : Option (Session × Effect) :=
  let effect (backend : VirtualSwitch) : VirtualSwitch :=
    match labour with
    | .tick => (backend.age now contended).2
    | _ => backend
  (session.aging.work labour).map fun aging =>
    ({ session with aging }, fun backend => (.goesOn, effect backend))

/-- Sends a message through the channel of the session. -/
def send (message : Message) (session : Session) : Option (Session × Effect) :=
  (session.admin.step (.send message)).map fun admin =>
    ({ session with admin }, fun backend => (.sent true, backend))

end Session

/-- The backend after the next thing that shutting down does, if that can happen now. -/
def stop (backend : VirtualSwitch) : Option (Response × VirtualSwitch) :=
  match backend.stage, backend.sessions with
  | .closing, session :: rest =>
      if session.isStopped then
        some (.done (.ok ()), { backend with chassis := none, stage := .idle })
      else
        session.stopNext.map fun next => (.goesOn, { backend with sessions := next :: rest })
  | _, _ => none

/-- What comes of an action, and the backend after it, if it can happen now. -/
def step (backend : VirtualSwitch) : Action → Option (Response × VirtualSwitch)
  | .start files services listening refused =>
      match backend.stage with
      | .closing => none
      | _ =>
          match backend.start files services listening refused with
          | .error fault => some (.done (.error fault), backend)
          | .ok next => some (.done (.ok ()), next)
  | .shutdown =>
      if backend.isStarted then some (.goesOn, { backend with stage := .closing })
      else some (.done (.error .uninitialized), backend)
  | .stop => backend.stop
  | .call now call =>
      let (answer, next) := backend.perform now call
      some (.answered answer, next)
  | .learn now key port =>
      let (result, next) := backend.learn now key port
      some (.done result, next)
  | .age now contended =>
      let (count, next) := backend.age now contended
      some (.aged count, next)
  | .openChannel =>
      let result := if backend.isStarted then .ok () else .error .uninitialized
      some (.done result, backend)
  | .send ago message =>
      some ((backend.onSession ago (Session.send message)).getD (.sent false, backend))
  | .workNotifications ago labour => backend.onSession ago (Session.workNotifications labour)
  | .workAdmin ago labour now => backend.onSession ago (Session.workAdmin labour now)
  | .workAging ago labour now contended =>
      backend.onSession ago (Session.workAging labour now contended)

/-- The backend after an action, or as it is if that cannot happen now. -/
def act (backend : VirtualSwitch) (action : Action) : VirtualSwitch :=
  ((backend.step action).map Prod.snd).getD backend

/-- The backend after actions, as far as each can happen. -/
def actAll (backend : VirtualSwitch) (actions : List Action) : VirtualSwitch :=
  actions.foldl act backend

/-- What comes of actions, of each as far as it can happen. -/
def responses (backend : VirtualSwitch) : List Action → List (Option Response)
  | [] => []
  | action :: rest => (backend.step action).map Prod.fst :: (backend.act action).responses rest

/-- What happens until the backend is shut down, if each worker is between two things. -/
def shuttingDown : List Action :=
  let stopping (look wakeUp : Action) : List Action :=
    [.stop, .stop, .stop, look, wakeUp, look, .stop]
  .shutdown ::
    (stopping (.workAging 0 .look 0 false) (.workAging 0 .wakeUp 0 false) ++
      stopping (.workAdmin 0 .look 0) (.workAdmin 0 .wakeUp 0) ++
      stopping (.workNotifications 0 .look) (.workNotifications 0 .wakeUp) ++ [.stop])

/-- What the workers of the latest session do to hand on what is queued for one of them. -/
def handlingAll (backend : VirtualSwitch) (queue : Session → List Message)
    (work : EventLoop.Labour → Action) : List Action :=
  ((backend.sessions.head?.map queue).getD []).flatMap fun _ => EventLoop.handlingOne.map work

/-- Lets the workers of the latest session hand on what is queued; a listener hears of it. -/
def catchUp (backend : VirtualSwitch) (now : UInt64) : List Notification × VirtualSwitch :=
  let applied := backend.actAll
    (backend.handlingAll (fun session => session.admin.queue) (.workAdmin 0 · now))
  let telling :=
    applied.handlingAll (fun session => session.notifications.queue) (.workNotifications 0)
  let heard := (applied.responses telling).filterMap fun
    | some (.heard notification) => notification
    | _ => none
  (heard, applied.actAll telling)

/-- What an operation leads to once the workers have handed on what is queued after it. -/
def settled {α : Type} (backend : VirtualSwitch) (now : UInt64)
    (operation : VirtualSwitch → α × VirtualSwitch) : Outcome VirtualSwitch α :=
  let (answer, next) := operation backend
  let (heard, last) := next.catchUp now
  ⟨answer, last, heard⟩

end VirtualSwitch

end SwitchAbstraction
