import Mathlib.Data.List.Forall2
import SwitchAbstraction.Proofs.HandedOn
import SwitchAbstraction.VirtualSwitch

/-!
# Backends that are started again

Sessions share the slot for a chassis, and their workers too.  But a shutdown is over
only when it has waited for all three workers, and a worker that has ended does
nothing more, also if somebody still holds the channel of its session.  So whatever
went before, a backend that is not started takes no calls, and once it is started
again it does all that a new one does.
-/

namespace SwitchAbstraction

namespace VirtualSwitch

/-! ## Sessions -/

namespace Session

variable {session next : Session}

/-- Stopping a worker of the session returns only when that has ended. -/
structure IsOrderly (session : Session) : Prop where
  notifications : ∃ sent, session.notifications.IsOrderly sent
  admin : ∃ sent, session.admin.IsOrderly sent
  aging : session.aging.IsOrderly

/-- All workers of the session have ended. -/
structure HasEnded (session : Session) : Prop where
  notifications : session.notifications.hasEnded = true
  admin : session.admin.hasEnded = true
  aging : session.aging.hasEnded = true

/-- A session has become another by what was done to its workers. -/
structure Leads (session next : Session) : Prop where
  notifications : ∃ actions, next.notifications = session.notifications.actAll actions
  admin : ∃ actions, next.admin = session.admin.actAll actions
  aging : ∃ actions, next.aging = session.aging.actAll actions

theorem Leads.refl (session : Session) : session.Leads session :=
  ⟨⟨[], rfl⟩, ⟨[], rfl⟩, ⟨[], rfl⟩⟩

theorem leads_of_notifications {action : EventLoop.Action Message}
    {notifications : EventLoop Message}
    (stepped : session.notifications.step action = some notifications) :
    session.Leads { session with notifications } := by
  refine ⟨⟨[action], ?_⟩, ⟨[], rfl⟩, ⟨[], rfl⟩⟩
  simp [EventLoop.actAll, EventLoop.act, stepped]

theorem leads_of_admin {action : EventLoop.Action Message} {admin : EventLoop Message}
    (stepped : session.admin.step action = some admin) :
    session.Leads { session with admin } := by
  refine ⟨⟨[], rfl⟩, ⟨[action], ?_⟩, ⟨[], rfl⟩⟩
  simp [EventLoop.actAll, EventLoop.act, stepped]

theorem leads_of_aging {action : PeriodicLoop.Action} {aging : PeriodicLoop}
    (stepped : session.aging.step action = some aging) :
    session.Leads { session with aging } := by
  refine ⟨⟨[], rfl⟩, ⟨[], rfl⟩, ⟨[action], ?_⟩⟩
  simp [PeriodicLoop.actAll, PeriodicLoop.act, stepped]

theorem leads_report (session : Session) (notifications : List Notification) :
    session.Leads (session.report notifications) :=
  ⟨⟨_, rfl⟩, ⟨[], rfl⟩, ⟨[], rfl⟩⟩

theorem leads_of_stopNext (stopped : session.stopNext = some next) : session.Leads next := by
  unfold stopNext at stopped
  split at stopped
  · obtain ⟨aging, stepped, rfl⟩ := Option.map_eq_some_iff.mp stopped
    exact leads_of_aging stepped
  · split at stopped
    · obtain ⟨admin, stepped, rfl⟩ := Option.map_eq_some_iff.mp stopped
      exact leads_of_admin stepped
    · obtain ⟨notifications, stepped, rfl⟩ := Option.map_eq_some_iff.mp stopped
      exact leads_of_notifications stepped

theorem isOrderly_spawn (listening : Bool) : (spawn listening).IsOrderly where
  notifications := ⟨[], EventLoop.isOrderly_spawn _⟩
  admin := ⟨[], EventLoop.isOrderly_spawn _⟩
  aging := PeriodicLoop.isOrderly_spawn _

theorem IsOrderly.lead (orderly : session.IsOrderly) (leads : session.Leads next) :
    next.IsOrderly := by
  obtain ⟨sent, notifications⟩ := orderly.notifications
  obtain ⟨alsoSent, admin⟩ := orderly.admin
  obtain ⟨⟨first, same⟩, ⟨second, alsoSame⟩, ⟨third, likewise⟩⟩ := leads
  refine ⟨⟨_, same ▸ notifications.actAll first⟩, ⟨_, alsoSame ▸ admin.actAll second⟩, ?_⟩
  exact likewise ▸ orderly.aging.actAll third

theorem HasEnded.lead (ended : session.HasEnded) (leads : session.Leads next) :
    next.HasEnded := by
  obtain ⟨⟨first, same⟩, ⟨second, alsoSame⟩, ⟨third, likewise⟩⟩ := leads
  refine ⟨?_, ?_, ?_⟩
  · rw [same]
    exact EventLoop.hasEnded_actAll ended.notifications first
  · rw [alsoSame]
    exact EventLoop.hasEnded_actAll ended.admin second
  · rw [likewise]
    exact PeriodicLoop.hasEnded_actAll ended.aging third

/-- When all workers were stopped, all have ended. -/
theorem IsOrderly.hasEnded (orderly : session.IsOrderly) (stopped : session.isStopped = true) :
    session.HasEnded := by
  simp only [isStopped, Bool.and_eq_true, decide_eq_true_eq] at stopped
  obtain ⟨⟨aging, admin⟩, notifications⟩ := stopped
  obtain ⟨_, orderlyNotifications⟩ := orderly.notifications
  obtain ⟨_, orderlyAdmin⟩ := orderly.admin
  exact ⟨orderlyNotifications.control.ended_of_returned notifications,
    orderlyAdmin.control.ended_of_returned admin,
    Control.IsOrderly.ended_of_returned orderly.aging aging⟩

end Session

/-! ## Backends in order -/

variable {backend next : VirtualSwitch} {action : Action} {response : Response}

theorem forall₂_leads_refl (sessions : List Session) :
    List.Forall₂ Session.Leads sessions sessions := by
  induction sessions with
  | nil => exact .nil
  | cons session rest ih => exact .cons (.refl session) ih

theorem forall₂_leads_set {sessions : List Session} {ago : Nat} {session next : Session}
    (found : sessions[ago]? = some session) (leads : session.Leads next) :
    List.Forall₂ Session.Leads sessions (sessions.set ago next) := by
  induction sessions generalizing ago with
  | nil => exact .nil
  | cons first rest ih =>
      cases ago with
      | zero =>
          cases found
          exact .cons leads (forall₂_leads_refl rest)
      | succ ago => exact .cons (.refl first) (ih found)

theorem forall₂_leads_tail {sessions later : List Session}
    (leads : List.Forall₂ Session.Leads sessions later) :
    List.Forall₂ Session.Leads sessions.tail later.tail := by
  cases leads with
  | nil => exact .nil
  | cons _ rest => exact rest

/-- What holds of each session and stays so holds of what the sessions become. -/
theorem forall_of_forall₂_leads {holds : Session → Prop}
    (stays : ∀ {session next : Session}, holds session → session.Leads next → holds next)
    {sessions later : List Session} (leads : List.Forall₂ Session.Leads sessions later)
    (all : ∀ session ∈ sessions, holds session) : ∀ session ∈ later, holds session := by
  induction leads with
  | nil => exact all
  | @cons first second rest more leads _ ih =>
      intro session member
      rcases List.mem_cons.mp member with rfl | inRest
      · exact stays (all first List.mem_cons_self) leads
      · exact ih (fun other inMore => all other (List.mem_cons_of_mem _ inMore)) session inRest

/-- The sessions that are over. -/
def past (backend : VirtualSwitch) : List Session :=
  match backend.stage with
  | .idle => backend.sessions
  | _ => backend.sessions.tail

/-- All workers of sessions that are over have ended, and an idle backend has no chassis. -/
structure IsOrderly (backend : VirtualSwitch) : Prop where
  controlled : ∀ session ∈ backend.sessions, session.IsOrderly
  ended : ∀ session ∈ backend.past, session.HasEnded
  empty : backend.stage = .idle → backend.chassis = none
  current : backend.stage ≠ .idle → backend.sessions ≠ []

theorem isOrderly_idle : idle.IsOrderly where
  controlled _ member := by cases member
  ended _ member := by cases member
  empty _ := rfl
  current started := absurd rfl started

theorem IsOrderly.goOn (orderly : backend.IsOrderly)
    (chassis : backend.chassis = none → next.chassis = none)
    (stage : next.stage = backend.stage)
    (leads : List.Forall₂ Session.Leads backend.sessions next.sessions) : next.IsOrderly := by
  refine ⟨?_, ?_, ?_, ?_⟩
  · exact forall_of_forall₂_leads Session.IsOrderly.lead leads orderly.controlled
  · have ended := orderly.ended
    rw [past] at ended ⊢
    rw [stage]
    split at ended
    · exact forall_of_forall₂_leads Session.HasEnded.lead leads ended
    · exact forall_of_forall₂_leads Session.HasEnded.lead (forall₂_leads_tail leads) ended
  · intro idle
    exact chassis (orderly.empty (stage ▸ idle))
  · intro started nothing
    rw [nothing] at leads
    exact orderly.current (stage ▸ started) (List.forall₂_nil_right_iff.mp leads)

theorem IsOrderly.onChassis {α : Type} (orderly : backend.IsOrderly) (refusal : α)
    (operation : Chassis → Outcome Chassis α) :
    (backend.onChassis refusal operation).2.IsOrderly := by
  unfold VirtualSwitch.onChassis
  cases present : backend.chassis with
  | none => exact orderly
  | some chassis =>
      apply orderly.goOn
      · intro absent
        cases present.symm.trans absent
      · rfl
      · cases sessions : backend.sessions with
        | nil => exact .nil
        | cons session rest => exact .cons (session.leads_report _) (forall₂_leads_refl rest)

theorem IsOrderly.age (orderly : backend.IsOrderly) (now : UInt64) (contended : Bool) :
    (backend.age now contended).2.IsOrderly := by
  unfold VirtualSwitch.age
  split
  · exact orderly
  · exact orderly.onChassis _ _

/-! ## Sessions long ago -/

/-- A backend that has had other sessions before its own. -/
def after (backend : VirtualSwitch) (older : List Session) : VirtualSwitch :=
  { backend with sessions := backend.sessions ++ older }

/-- What comes of an action, with other sessions before those of the backend. -/
def putAfter (older : List Session) (outcome : Response × VirtualSwitch) :
    Response × VirtualSwitch :=
  (outcome.1, outcome.2.after older)

/-- A session is the backend's own, or it is over, or it never was. -/
theorem session_after {older : List Session} (ended : ∀ session ∈ older, session.HasEnded)
    (backend : VirtualSwitch) (ago : Nat) :
    (∃ session, backend.sessions[ago]? = some session ∧
        (backend.after older).sessions[ago]? = some session ∧
        ∀ later, (backend.after older).setSession ago later =
          (backend.setSession ago later).after older) ∨
      (backend.sessions[ago]? = none ∧
        ∀ session, (backend.after older).sessions[ago]? = some session → session.HasEnded) := by
  by_cases own : ago < backend.sessions.length
  · left
    refine ⟨backend.sessions[ago], List.getElem?_eq_getElem own, ?_, ?_⟩
    · rw [after, List.getElem?_append_left own, List.getElem?_eq_getElem own]
    · intro later
      rw [setSession, after, List.set_append_left _ _ own]
      rfl
  · right
    have beyond : backend.sessions.length ≤ ago := Nat.not_lt.mp own
    refine ⟨List.getElem?_eq_none beyond, ?_⟩
    intro session found
    rw [after, List.getElem?_append_right beyond] at found
    exact ended session (List.mem_of_getElem? found)

theorem onChassis_after {α : Type} (orderly : backend.IsOrderly) (older : List Session)
    (refusal : α) (operation : Chassis → Outcome Chassis α) :
    (backend.after older).onChassis refusal operation =
      ((backend.onChassis refusal operation).1,
        (backend.onChassis refusal operation).2.after older) := by
  obtain ⟨present, stage, sessions⟩ := backend
  cases present with
  | none => rfl
  | some chassis =>
      have notIdle : stage ≠ .idle := by
        intro idle
        cases orderly.empty idle
      cases sessions with
      | nil => exact absurd rfl (orderly.current notIdle)
      | cons session rest => rfl

theorem age_after (orderly : backend.IsOrderly) (older : List Session) (now : UInt64)
    (contended : Bool) :
    (backend.after older).age now contended =
      ((backend.age now contended).1, (backend.age now contended).2.after older) := by
  unfold age
  split
  · rfl
  · exact onChassis_after orderly older _ _

/-! ## Work on sessions -/

/--
What can be done to a session goes through its workers, so nothing can be done once
these have ended; and what comes of it does not hang on sessions long ago.
-/
structure IsWork (operation : Session → Option (Session × Effect)) : Prop where
  leads : ∀ {session later : Session} {effect : Effect},
    operation session = some (later, effect) → session.Leads later
  silent : ∀ {session : Session}, session.HasEnded → operation session = none
  orderly : ∀ {session later : Session} {effect : Effect},
    operation session = some (later, effect) →
      ∀ {backend : VirtualSwitch}, backend.IsOrderly → (effect backend).2.IsOrderly
  afterwards : ∀ {session later : Session} {effect : Effect},
    operation session = some (later, effect) →
      ∀ {backend : VirtualSwitch}, backend.IsOrderly → ∀ older : List Session,
        effect (backend.after older) = putAfter older (effect backend)

/-- What a worker or a sender does to a session, followed by what comes of it, is work. -/
theorem isWork_map {α : Type} {move : Session → Option α} {put : Session → α → Session}
    {effect : Session → Effect}
    (leads : ∀ {session : Session} {moved : α}, move session = some moved →
      session.Leads (put session moved))
    (silent : ∀ {session : Session}, session.HasEnded → move session = none)
    (orderly : ∀ (session : Session) {backend : VirtualSwitch}, backend.IsOrderly →
      (effect session backend).2.IsOrderly)
    (afterwards : ∀ (session : Session) {backend : VirtualSwitch}, backend.IsOrderly →
      ∀ older : List Session,
        effect session (backend.after older) = putAfter older (effect session backend)) :
    IsWork fun session =>
      (move session).map fun moved => (put session moved, effect session) where
  leads worked := by
    obtain ⟨moved, isMoved, same⟩ := Option.map_eq_some_iff.mp worked
    cases same
    exact leads isMoved
  silent ended := by rw [silent ended, Option.map_none]
  orderly worked := by
    obtain ⟨moved, _, same⟩ := Option.map_eq_some_iff.mp worked
    cases same
    exact orderly _
  afterwards worked := by
    obtain ⟨moved, _, same⟩ := Option.map_eq_some_iff.mp worked
    cases same
    exact afterwards _

theorem isWork_notifications (labour : EventLoop.Labour) :
    IsWork (Session.workNotifications labour) := by
  apply isWork_map
  · intro session notifications moved
    have stepped : session.notifications.step (.work labour) = some notifications := moved
    exact Session.leads_of_notifications stepped
  · intro session ended
    exact EventLoop.work_of_hasEnded ended.notifications
  · intro session backend orderly
    exact orderly
  · intro session backend orderly older
    rfl

theorem isWork_send (message : Message) : IsWork (Session.send message) := by
  apply isWork_map
  · intro session admin stepped
    exact Session.leads_of_admin stepped
  · intro session ended
    exact EventLoop.send_of_hasEnded ended.admin message
  · intro session backend orderly
    exact orderly
  · intro session backend orderly older
    rfl

theorem isWork_admin (labour : EventLoop.Labour) (now : UInt64) :
    IsWork (Session.workAdmin labour now) := by
  apply isWork_map
  · intro session admin moved
    have stepped : session.admin.step (.work labour) = some admin := moved
    exact Session.leads_of_admin stepped
  · intro session ended
    exact EventLoop.work_of_hasEnded ended.admin
  · intro session backend orderly
    dsimp only
    split
    · exact orderly.onChassis _ _
    · exact orderly
  · intro session backend orderly older
    dsimp only
    split
    · rw [administer, onChassis_after orderly older]
      rfl
    · rfl

theorem isWork_aging (labour : PeriodicLoop.Labour) (now : UInt64) (contended : Bool) :
    IsWork (Session.workAging labour now contended) := by
  apply isWork_map
  · intro session aging moved
    have stepped : session.aging.step (.work labour) = some aging := moved
    exact Session.leads_of_aging stepped
  · intro session ended
    exact PeriodicLoop.work_of_hasEnded ended.aging
  · intro session backend orderly
    dsimp only
    split
    · exact orderly.age now contended
    · exact orderly
  · intro session backend orderly older
    dsimp only
    split
    · rw [age_after orderly older]
      rfl
    · rfl

theorem IsOrderly.setSession (orderly : backend.IsOrderly) {ago : Nat} {session later : Session}
    (found : backend.sessions[ago]? = some session) (leads : session.Leads later) :
    (backend.setSession ago later).IsOrderly := by
  apply orderly.goOn
  · exact id
  · rfl
  · exact forall₂_leads_set found leads

variable {operation : Session → Option (Session × Effect)}

theorem IsOrderly.onSession (orderly : backend.IsOrderly) (work : IsWork operation) {ago : Nat}
    (done : backend.onSession ago operation = some (response, next)) : next.IsOrderly := by
  unfold VirtualSwitch.onSession at done
  split at done
  · cases done
  · next session found =>
      obtain ⟨⟨later, effect⟩, worked, same⟩ := Option.map_eq_some_iff.mp done
      have kept := work.orderly worked (orderly.setSession found (work.leads worked))
      rw [show effect (backend.setSession ago later) = (response, next) from same] at kept
      exact kept

theorem onSession_after (work : IsWork operation) (orderly : backend.IsOrderly)
    {older : List Session} (ended : ∀ session ∈ older, session.HasEnded) (ago : Nat) :
    (backend.after older).onSession ago operation =
      (backend.onSession ago operation).map (putAfter older) := by
  unfold onSession
  obtain ⟨session, own, found, set⟩ | ⟨absent, past⟩ := session_after ended backend ago
  · rw [own, found]
    dsimp only
    cases worked : operation session with
    | none => rfl
    | some pair =>
        obtain ⟨later, effect⟩ := pair
        have orderly := orderly.setSession own (work.leads worked)
        simp only [Option.map_some, set, work.afterwards worked orderly older]
  · rw [absent]
    cases found : (backend.after older).sessions[ago]? with
    | none => rfl
    | some session =>
        dsimp only
        rw [work.silent (past session found)]
        rfl

/-! ## The single actions -/

/-- The last thing that shutting down does ends a session whose workers were all stopped. -/
theorem IsOrderly.stop (orderly : backend.IsOrderly)
    (stopped : backend.stop = some (response, next)) : next.IsOrderly := by
  unfold VirtualSwitch.stop at stopped
  split at stopped
  · next session rest closing sessions =>
      have controlled := orderly.controlled
      have ended := orderly.ended
      rw [past, closing] at ended
      rw [sessions] at controlled ended
      split at stopped
      · next allStopped =>
          cases stopped
          refine ⟨orderly.controlled, ?_, fun _ => rfl, fun other => absurd rfl other⟩
          rw [past]
          dsimp only
          rw [sessions]
          intro other member
          rcases List.mem_cons.mp member with rfl | inRest
          · exact (controlled other List.mem_cons_self).hasEnded allStopped
          · exact ended other inRest
      · obtain ⟨later, stepped, same⟩ := Option.map_eq_some_iff.mp stopped
        cases same
        apply orderly.goOn
        · exact id
        · rfl
        · rw [sessions]
          exact .cons (Session.leads_of_stopNext stepped) (forall₂_leads_refl rest)
  · cases stopped

/-- A start that succeeds puts a new chassis and a new session in front. -/
theorem start_eq_ok {files : Files} {services : Services} {listening : Bool}
    {refused : Option (Role × String)}
    (started : backend.start files services listening refused = .ok next) :
    backend.stage ≠ .started ∧ ∃ settings,
      next = ⟨some (.start settings), .started, .spawn listening :: backend.sessions⟩ := by
  unfold start at started
  split at started
  · cases started
  · next notStarted =>
      split at started
      · cases started
      · split at started
        · cases started
        · split at started
          · cases started
          · cases started
            refine ⟨?_, _, rfl⟩
            simpa [isStarted] using notStarted

theorem IsOrderly.start (orderly : backend.IsOrderly) {files : Files} {services : Services}
    {listening : Bool} {refused : Option (Role × String)} (settled : backend.stage ≠ .closing)
    (started : backend.start files services listening refused = .ok next) : next.IsOrderly := by
  obtain ⟨notStarted, settings, rfl⟩ := start_eq_ok started
  have ended := orderly.ended
  rw [past] at ended
  have idle : backend.stage = .idle := by
    cases stage : backend.stage with
    | idle => rfl
    | started => exact absurd stage notStarted
    | closing => exact absurd stage settled
  rw [idle] at ended
  refine ⟨?_, ended, (by rintro ⟨⟩), fun _ => List.cons_ne_nil _ _⟩
  intro session member
  rcases List.mem_cons.mp member with rfl | before
  · exact Session.isOrderly_spawn listening
  · exact orderly.controlled session before

/-- Every action that can happen keeps a backend orderly. -/
theorem IsOrderly.step (orderly : backend.IsOrderly)
    (stepped : backend.step action = some (response, next)) : next.IsOrderly := by
  cases action with
  | start files services listening refused =>
      simp only [VirtualSwitch.step] at stepped
      split at stepped
      · cases stepped
      · next settled =>
          split at stepped
          · cases stepped
            exact orderly
          · next started =>
              cases stepped
              exact orderly.start settled started
  | shutdown =>
      simp only [VirtualSwitch.step] at stepped
      split at stepped
      · next started =>
          cases stepped
          have isStarted : backend.stage = .started := by
            simpa [VirtualSwitch.isStarted] using started
          have ended := orderly.ended
          rw [past, isStarted] at ended
          have notIdle : backend.stage ≠ .idle := by
            rw [isStarted]
            decide
          exact ⟨orderly.controlled, ended, (by rintro ⟨⟩), fun _ => orderly.current notIdle⟩
      · cases stepped
        exact orderly
  | stop => exact orderly.stop stepped
  | call now call =>
      cases stepped
      exact orderly.onChassis _ _
  | learn now key port =>
      cases stepped
      exact orderly.onChassis _ _
  | age now contended =>
      cases stepped
      exact orderly.age now contended
  | openChannel =>
      cases stepped
      exact orderly
  | send ago message =>
      simp only [VirtualSwitch.step, Option.some.injEq] at stepped
      cases sent : backend.onSession ago (Session.send message) with
      | none =>
          rw [sent] at stepped
          cases stepped
          exact orderly
      | some outcome =>
          rw [sent] at stepped
          cases stepped
          exact orderly.onSession (isWork_send message) sent
  | workNotifications ago labour => exact orderly.onSession (isWork_notifications labour) stepped
  | workAdmin ago labour now => exact orderly.onSession (isWork_admin labour now) stepped
  | workAging ago labour now contended =>
      exact orderly.onSession (isWork_aging labour now contended) stepped

theorem IsOrderly.act (orderly : backend.IsOrderly) (action : Action) :
    (backend.act action).IsOrderly := by
  rw [VirtualSwitch.act]
  cases stepped : backend.step action with
  | none => exact orderly
  | some pair => exact orderly.step stepped

theorem IsOrderly.actAll (orderly : backend.IsOrderly) (actions : List Action) :
    (backend.actAll actions).IsOrderly := by
  induction actions generalizing backend with
  | nil => exact orderly
  | cons action rest ih => exact ih (orderly.act action)

/-! ## Single actions after sessions long ago -/

section After

variable {older : List Session}

theorem stop_after (orderly : backend.IsOrderly) (older : List Session) :
    (backend.after older).stop = backend.stop.map (putAfter older) := by
  unfold stop
  cases stage : backend.stage with
  | idle => simp [after, stage]
  | started => simp [after, stage]
  | closing =>
      cases sessions : backend.sessions with
      | nil => exact absurd sessions (orderly.current (by rw [stage]; decide))
      | cons session rest =>
          simp only [after, stage, sessions, List.cons_append]
          split
          · simp [putAfter, after]
          · simp only [Option.map_map]
            rfl

theorem start_after (backend : VirtualSwitch) (older : List Session) (files : Files)
    (services : Services) (listening : Bool) (refused : Option (Role × String)) :
    (backend.after older).start files services listening refused =
      (backend.start files services listening refused).map fun next => next.after older := by
  unfold start
  rw [show (backend.after older).isStarted = backend.isStarted from rfl]
  split
  · rfl
  · cases services.validate with
    | error fault => rfl
    | ok _ =>
        cases Settings.ofServices files services with
        | error defect => rfl
        | ok settings => cases refused <;> rfl

/-- What a backend does is the same whatever sessions there have been before its own. -/
theorem step_after (ended : ∀ session ∈ older, session.HasEnded) (orderly : backend.IsOrderly)
    (action : Action) :
    (backend.after older).step action = (backend.step action).map (putAfter older) := by
  cases action with
  | start files services listening refused =>
      simp only [step]
      rw [start_after, show (backend.after older).stage = backend.stage from rfl]
      split
      · rfl
      · cases backend.start files services listening refused <;> rfl
  | shutdown =>
      simp only [step]
      rw [show (backend.after older).isStarted = backend.isStarted from rfl]
      split <;> rfl
  | stop => exact stop_after orderly older
  | call now call =>
      simp only [step, perform]
      rw [onChassis_after orderly older]
      rfl
  | learn now key port =>
      simp only [step, learn]
      rw [onChassis_after orderly older]
      rfl
  | age now contended =>
      simp only [step]
      rw [age_after orderly older]
      rfl
  | openChannel => rfl
  | send ago message =>
      simp only [step]
      rw [onSession_after (isWork_send message) orderly ended]
      cases backend.onSession ago (Session.send message) <;> rfl
  | workNotifications ago labour =>
      exact onSession_after (isWork_notifications labour) orderly ended ago
  | workAdmin ago labour now => exact onSession_after (isWork_admin labour now) orderly ended ago
  | workAging ago labour now contended =>
      exact onSession_after (isWork_aging labour now contended) orderly ended ago

theorem act_after (ended : ∀ session ∈ older, session.HasEnded) (orderly : backend.IsOrderly)
    (action : Action) :
    (backend.after older).act action = (backend.act action).after older := by
  rw [act, act, step_after ended orderly]
  cases backend.step action <;> rfl

/-- Sessions long ago make no difference to a whole run. -/
theorem actAll_after (ended : ∀ session ∈ older, session.HasEnded) (orderly : backend.IsOrderly)
    (actions : List Action) :
    (backend.after older).responses actions = backend.responses actions ∧
      (backend.after older).actAll actions = (backend.actAll actions).after older := by
  induction actions generalizing backend with
  | nil => exact ⟨rfl, rfl⟩
  | cons action rest ih =>
      obtain ⟨sameResponses, same⟩ := ih (orderly.act action)
      have first : ((backend.after older).step action).map Prod.fst =
          (backend.step action).map Prod.fst := by
        rw [step_after ended orderly, Option.map_map]
        rfl
      refine ⟨?_, ?_⟩
      · rw [responses, responses, first, act_after ended orderly, sameResponses]
      · rw [actAll, actAll, List.foldl_cons, List.foldl_cons, act_after ended orderly]
        exact same

/-- A backend that is not started is a new one, but for sessions that are over. -/
theorem IsOrderly.eq_after (orderly : backend.IsOrderly) (stage : backend.stage = .idle) :
    backend = idle.after backend.sessions ∧ ∀ session ∈ backend.sessions, session.HasEnded := by
  have empty := orderly.empty stage
  have ended := orderly.ended
  rw [past, stage] at ended
  refine ⟨?_, ended⟩
  obtain ⟨chassis, _, sessions⟩ := backend
  cases stage
  cases empty
  rfl

end After

/-! ## Starting again -/

/-- A backend that refuses whatever is asked of it but a start, and changes by nothing else. -/
structure TakesNoCalls (backend : VirtualSwitch) : Prop where
  call : ∀ now call, backend.step (.call now call) =
    some (.answered (call.refused .uninitialized), backend)
  learn : ∀ now key port, backend.step (.learn now key port) =
    some (.done (.error .uninitialized), backend)
  age : ∀ now contended, backend.step (.age now contended) = some (.aged none, backend)
  openChannel : backend.step .openChannel = some (.done (.error .uninitialized), backend)
  shutdown : backend.step .shutdown = some (.done (.error .uninitialized), backend)
  stays : ∀ action,
    (∀ files services listening refused, action ≠ .start files services listening refused) →
      backend.act action = backend

theorem takesNoCalls_idle : idle.TakesNoCalls where
  call _ _ := rfl
  learn _ _ _ := rfl
  age _ contended := by cases contended <;> rfl
  openChannel := rfl
  shutdown := rfl
  stays action other := by
    cases action with
    | start files services listening refused => exact absurd rfl (other _ _ _ _)
    | age now contended => cases contended <;> rfl
    | _ => rfl

theorem TakesNoCalls.after (none : idle.TakesNoCalls) {older : List Session}
    (ended : ∀ session ∈ older, session.HasEnded) : (idle.after older).TakesNoCalls := by
  have same := fun action => step_after ended isOrderly_idle action
  refine ⟨?_, ?_, ?_, ?_, ?_, ?_⟩
  · intro now call
    rw [same, none.call]
    rfl
  · intro now key port
    rw [same, none.learn]
    rfl
  · intro now contended
    rw [same, none.age]
    rfl
  · rw [same, none.openChannel]
    rfl
  · rw [same, none.shutdown]
    rfl
  · intro action other
    rw [act_after ended isOrderly_idle, none.stays action other]

/--
Whatever was done to a backend, and by whatever workers and holders of channels:
if it is not started, it takes no calls.  If it is started, another start is refused
and changes nothing; and a start that fails changes nothing either.  A backend that is
not started answers everything that is done from then on, and hands on the same
notifications, as one that was never started, and is then the same but for the sessions
that were over.
-/
theorem restarted_backend_is_as_new (history : List Action) :
    ((idle.actAll history).stage = .idle → (idle.actAll history).TakesNoCalls) ∧
      ((idle.actAll history).stage = .started →
        ∀ files services listening refused,
          (idle.actAll history).step (.start files services listening refused) =
            some (.done (.error (.failed (.alreadyInitialized .virtualSwitch))),
              idle.actAll history)) ∧
      (∀ files services listening refused fault next,
        (idle.actAll history).step (.start files services listening refused) =
            some (.done (.error fault), next) →
          next = idle.actAll history) ∧
      ((idle.actAll history).stage = .idle →
        ∀ later,
          (idle.actAll history).responses later = idle.responses later ∧
            (idle.actAll history).actAll later =
              (idle.actAll later).after (idle.actAll history).sessions) := by
  have orderly : (idle.actAll history).IsOrderly := isOrderly_idle.actAll history
  generalize idle.actAll history = backend at orderly
  refine ⟨?_, ?_, ?_, ?_⟩
  · intro stage
    obtain ⟨same, ended⟩ := orderly.eq_after stage
    rw [same]
    exact takesNoCalls_idle.after ended
  · intro stage files services listening refused
    have isStarted : backend.isStarted = true := by simp [VirtualSwitch.isStarted, stage]
    have fails : backend.start files services listening refused =
        .error (.failed (.alreadyInitialized .virtualSwitch)) := by
      rw [start, if_pos isStarted]
    simp only [step, stage, fails]
  · intro files services listening refused fault next failed
    simp only [step] at failed
    split at failed
    · cases failed
    · split at failed
      · cases failed
        rfl
      · cases failed
  · intro stage later
    obtain ⟨same, ended⟩ := orderly.eq_after stage
    have run := actAll_after ended isOrderly_idle later
    rw [← same] at run
    exact run

/-- A start with the profile of one of the models; it fails if a worker cannot be spawned. -/
def begins (refused : Option (Role × String)) : Action :=
  .start .none (.ofProfile (.ofList [(Settings.modelKey, SwitchModel.mlnx2700.name)])) true refused

/-- A message that sets the test mode. -/
def testing : Message :=
  ⟨Admin.testModeOp, "true", []⟩

/--
In the first session a switch is created, the test mode is set through the channel, and
a second message still waits when the backend is shut down.
-/
def firstLife : List Action :=
  [begins none, .call 0 (.create .switch .null []), .send 0 testing, .workAdmin 0 .look 0,
    .workAdmin 0 .take 0, .workAdmin 0 .handOn 0, .workAdmin 0 .resume 0, .send 0 testing] ++
    shuttingDown

/--
The second session begins only after a start has failed, and in it a message comes
through the channel of the first.
-/
def secondLife : List Action :=
  [.call 0 (.create .switch .null []), begins (some (.admin, "no threads")), begins none,
    .send 1 testing, .workAdmin 1 .look 0, .call 0 (.create .switch .null []), begins none]

theorem second_life_is_as_first :
    (idle.actAll firstLife).stage = .idle ∧
      ((idle.actAll firstLife).sessions.map fun session => session.admin.queue) = [[testing]] ∧
      (idle.actAll firstLife).responses secondLife = idle.responses secondLife ∧
      ((idle.actAll firstLife).actAll secondLife).stage = .started := by
  have ends : (idle.actAll firstLife).stage = .idle ∧
      ((idle.actAll firstLife).sessions.map fun session => session.admin.queue) = [[testing]] := by
    decide +kernel
  obtain ⟨stage, queue⟩ := ends
  obtain ⟨_, _, _, asNew⟩ := restarted_backend_is_as_new firstLife
  obtain ⟨same, run⟩ := asNew stage secondLife
  refine ⟨stage, queue, same, ?_⟩
  rw [run]
  decide +kernel

end VirtualSwitch

end SwitchAbstraction
