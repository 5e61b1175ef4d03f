import Mathlib.Data.List.Nodup
import SwitchAbstraction.OrderedMap.Lemmas
import SwitchAbstraction.Remote.Broker
import SwitchAbstraction.Remote.MemoryStore

/-!
# What subscribers hear

A publication goes through the senders of its channel one by one, while
receivers of that channel and of others take payloads and are dropped.  Each
sender stands once in the list of one channel, and a publication passes over
none whose receiver is still there.  So what a receiver has taken, what waits for
it and what a publication under way has yet to bring it are together what was
published on its channel since it subscribed.
-/

namespace SwitchAbstraction

namespace Remote

namespace MemoryStore

variable {store next : MemoryStore} {action : Action} {channel : String} {number : Nat}

/-! ## The single actions -/

/-- What happens to a store, and what it is then. -/
inductive Happens (store : MemoryStore) : Action → MemoryStore → Prop
  | subscribe {channel : String} (free : store.publication = none) :
      Happens store (.subscribe channel) (store.addReceiver channel)
  | publish {channel payload : String} (free : store.publication = none) :
      Happens store (.publish channel payload) (store.beginPublication channel payload)
  | serve {publication : Publication} {number : Nat} {rest : List Nat}
      (underWay : store.publication = some publication)
      (ahead : publication.ahead = number :: rest) :
      Happens store .serve (store.sendTo publication number rest)
  | conclude {publication : Publication} (underWay : store.publication = some publication)
      (ahead : publication.ahead = []) :
      Happens store .conclude (store.keepServed publication)
  | receive {number : Nat} {payload : String} {rest : List String}
      (waits : store.receivers.get? number = some (payload :: rest)) :
      Happens store (.receive number)
        { store with receivers := store.receivers.insert number rest }
  | drop {number : Nat} :
      Happens store (.drop number)
        { store with receivers := store.receivers.erase number }

theorem happens_of_step (stepped : store.step action = some next) :
    Happens store action next := by
  cases action with
  | subscribe channel =>
      simp only [step] at stepped
      split at stepped
      · next free =>
          cases stepped
          exact .subscribe free
      · cases stepped
  | publish channel payload =>
      simp only [step] at stepped
      split at stepped
      · next free =>
          cases stepped
          exact .publish free
      · cases stepped
  | serve =>
      simp only [step] at stepped
      split at stepped
      · next underWay =>
          split at stepped
          · next ahead =>
              cases stepped
              exact .serve underWay ahead
          · cases stepped
      · cases stepped
  | conclude =>
      simp only [step] at stepped
      split at stepped
      · next underWay =>
          split at stepped
          · next ahead =>
              cases stepped
              exact .conclude underWay ahead
          · cases stepped
      · cases stepped
  | receive number =>
      simp only [step] at stepped
      split at stepped
      · next waits =>
          cases stepped
          exact .receive waits
      · cases stepped
  | drop number =>
      simp only [step] at stepped
      split at stepped
      · cases stepped
        exact .drop
      · cases stepped

theorem isLive_iff :
    store.isLive number = true ↔ ∃ queue, store.receivers.get? number = some queue :=
  OrderedMap.contains_iff

theorem queue_of_get? {queue : List String} (found : store.receivers.get? number = some queue) :
    store.queue number = queue := by
  rw [MemoryStore.queue, found, Option.getD_some]

theorem sendersOf_addReceiver (store : MemoryStore) (channel other : String) :
    (store.addReceiver channel).sendersOf other =
      if other = channel then store.sendersOf channel ++ [store.issued]
      else store.sendersOf other := by
  unfold sendersOf addReceiver
  rw [OrderedMap.get?_insert]
  split <;> rfl

theorem sendersOf_sendTo (store : MemoryStore) (publication : Publication) (number : Nat)
    (ahead : List Nat) (channel : String) :
    (store.sendTo publication number ahead).sendersOf channel = store.sendersOf channel := by
  unfold sendTo
  split <;> rfl

theorem issued_sendTo (store : MemoryStore) (publication : Publication) (number : Nat)
    (ahead : List Nat) : (store.sendTo publication number ahead).issued = store.issued := by
  unfold sendTo
  split <;> rfl

theorem isLive_sendTo (store : MemoryStore) (publication : Publication) (number other : Nat)
    (ahead : List Nat) :
    (store.sendTo publication number ahead).isLive other = store.isLive other := by
  unfold sendTo
  split
  · next queue found =>
      unfold isLive OrderedMap.contains
      rw [OrderedMap.get?_insert]
      by_cases same : other = number
      · simp [same, found]
      · simp [same]
  · rfl

theorem sendersOf_keepServed {publication : Publication}
    (listed : publication.served.Sublist (store.sendersOf publication.channel))
    (other : String) :
    (store.keepServed publication).sendersOf other =
      if other = publication.channel then publication.served else store.sendersOf other := by
  unfold sendersOf keepServed at *
  rw [OrderedMap.get?_modify]
  by_cases same : other = publication.channel
  · subst same
    cases found : store.senders.get? publication.channel with
    | none =>
        rw [found] at listed
        simp [List.sublist_nil.mp listed]
    | some numbers => simp
  · simp [same]

@[simp] theorem actAll_nil (store : MemoryStore) : store.actAll [] = store := rfl

@[simp] theorem actAll_cons (store : MemoryStore) (action : Action) (rest : List Action) :
    store.actAll (action :: rest) = (store.act action).actAll rest := rfl

/-! ## Senders -/

/-- Of the senders of its channel a publication has come to, or will, all that lead anywhere. -/
structure Publication.IsSound (store : MemoryStore) (publication : Publication) : Prop where
  listed : (publication.served ++ publication.ahead).Sublist
    (store.sendersOf publication.channel)
  visits : ∀ number ∈ store.sendersOf publication.channel, store.isLive number = true →
    number ∈ publication.served ++ publication.ahead

/-- Numbers are given once, and each stands once in the list of one channel. -/
structure IsOrderly (store : MemoryStore) : Prop where
  issued : ∀ {channel : String} {number : Nat}, number ∈ store.sendersOf channel →
    number < store.issued
  once : ∀ channel : String, (store.sendersOf channel).Nodup
  apart : ∀ {first second : String} {number : Nat}, number ∈ store.sendersOf first →
    number ∈ store.sendersOf second → first = second
  sound : ∀ {publication : Publication}, store.publication = some publication →
    Publication.IsSound store publication

theorem isOrderly_fresh : fresh.IsOrderly where
  issued listed := by cases listed
  once _ := List.nodup_nil
  apart listed := by cases listed
  sound underWay := by cases underWay

/-- Only subscribing adds to the lists of senders. -/
theorem IsOrderly.shrink (orderly : store.IsOrderly) (issued : next.issued = store.issued)
    (fewer : ∀ channel, (next.sendersOf channel).Sublist (store.sendersOf channel))
    (sound : ∀ {publication : Publication}, next.publication = some publication →
      Publication.IsSound next publication) : next.IsOrderly where
  issued listed := issued ▸ orderly.issued ((fewer _).subset listed)
  once channel := (orderly.once channel).sublist (fewer channel)
  apart listed other := orderly.apart ((fewer _).subset listed) ((fewer _).subset other)
  sound := sound

theorem IsOrderly.addReceiver (orderly : store.IsOrderly) (free : store.publication = none)
    (channel : String) : (store.addReceiver channel).IsOrderly := by
  have added : ∀ {other : String} {number : Nat},
      number ∈ (store.addReceiver channel).sendersOf other →
        number ∈ store.sendersOf other ∨ number = store.issued ∧ other = channel := by
    intro other number listed
    rw [sendersOf_addReceiver] at listed
    split at listed
    · next same =>
        rcases List.mem_append.mp listed with before | new
        · exact .inl (same ▸ before)
        · exact .inr ⟨List.mem_singleton.mp new, same⟩
    · exact .inl listed
  refine ⟨?_, ?_, ?_, ?_⟩
  · intro other number listed
    rcases added listed with before | ⟨rfl, _⟩
    · exact Nat.lt_succ_of_lt (orderly.issued before)
    · exact Nat.lt_succ_self _
  · intro other
    rw [sendersOf_addReceiver]
    split
    · refine List.nodup_append'.mpr ⟨orderly.once channel, List.nodup_singleton _, ?_⟩
      intro number listed new
      have same : number = store.issued := List.mem_singleton.mp new
      exact absurd (orderly.issued listed) (by omega)
    · exact orderly.once other
  · intro first second number listed other
    rcases added listed with before | ⟨rfl, rfl⟩
    · rcases added other with alsoBefore | ⟨rfl, _⟩
      · exact orderly.apart before alsoBefore
      · exact absurd (orderly.issued before) (Nat.lt_irrefl _)
    · rcases added other with before | ⟨_, rfl⟩
      · exact absurd (orderly.issued before) (Nat.lt_irrefl _)
      · rfl
  · intro publication underWay
    exact absurd (free.symm.trans underWay) (by simp)

theorem IsOrderly.sendTo (orderly : store.IsOrderly) {publication : Publication}
    {rest : List Nat} (underWay : store.publication = some publication)
    (ahead : publication.ahead = number :: rest) :
    (store.sendTo publication number rest).IsOrderly := by
  obtain ⟨listed, visits⟩ := orderly.sound underWay
  rw [ahead] at listed visits
  apply orderly.shrink (issued_sendTo _ _ _ _)
  · intro channel
    rw [sendersOf_sendTo]
  · intro later isLater
    unfold MemoryStore.sendTo at isLater
    cases found : store.receivers.get? number with
    | some queue =>
        simp only [found, Option.some.injEq] at isLater
        subst isLater
        refine ⟨?_, ?_⟩
        · rw [sendersOf_sendTo]
          simpa using listed
        · intro other
          rw [sendersOf_sendTo, isLive_sendTo]
          simpa using visits other
    | none =>
        simp only [found, Option.some.injEq] at isLater
        subst isLater
        refine ⟨?_, ?_⟩
        · rw [sendersOf_sendTo]
          exact (List.Sublist.append_left (List.sublist_cons_self number rest) _).trans listed
        · intro other
          rw [sendersOf_sendTo, isLive_sendTo]
          intro onChannel live
          have notDropped : other ≠ number := by
            rintro rfl
            obtain ⟨queue, holds⟩ := isLive_iff.mp live
            exact absurd (found.symm.trans holds) (by simp)
          have visited := visits other onChannel live
          simpa [notDropped] using visited

theorem IsOrderly.keepServed (orderly : store.IsOrderly) {publication : Publication}
    (underWay : store.publication = some publication) (ahead : publication.ahead = []) :
    (store.keepServed publication).IsOrderly := by
  have listed := (orderly.sound underWay).listed
  rw [ahead, List.append_nil] at listed
  have issued : (store.keepServed publication).issued = store.issued := rfl
  apply orderly.shrink issued
  · intro channel
    rw [sendersOf_keepServed listed]
    split
    · next same => exact same ▸ listed
    · exact List.Sublist.refl _
  · intro later isLater
    cases isLater

/-- What parties do with their receivers leaves the senders as they are. -/
theorem IsOrderly.setReceivers (orderly : store.IsOrderly)
    {receivers : OrderedMap Nat (List String)}
    (fewer : ∀ {number : Nat} {queue : List String}, receivers.get? number = some queue →
      ∃ before, store.receivers.get? number = some before) :
    { store with receivers := receivers }.IsOrderly := by
  have issued : { store with receivers := receivers }.issued = store.issued := rfl
  apply orderly.shrink issued
  · intro channel
    exact List.Sublist.refl _
  · intro publication underWay
    obtain ⟨listed, visits⟩ := orderly.sound underWay
    refine ⟨listed, ?_⟩
    intro number onChannel live
    obtain ⟨queue, holds⟩ := isLive_iff.mp live
    exact visits number onChannel (isLive_iff.mpr (fewer holds))

theorem IsOrderly.step (orderly : store.IsOrderly) (happens : Happens store action next) :
    next.IsOrderly := by
  cases happens with
  | subscribe free => exact orderly.addReceiver free _
  | @publish channel payload free =>
      have issued : (store.beginPublication channel payload).issued = store.issued := rfl
      apply orderly.shrink issued
      · intro other
        exact List.Sublist.refl _
      · rintro later ⟨⟩
        refine ⟨List.Sublist.refl _, ?_⟩
        intro number onChannel _
        exact onChannel
  | serve underWay ahead => exact orderly.sendTo underWay ahead
  | conclude underWay ahead => exact orderly.keepServed underWay ahead
  | @receive taken payload rest waits =>
      apply orderly.setReceivers
      intro other queue holds
      rw [OrderedMap.get?_insert] at holds
      split at holds
      · next same => exact ⟨_, same ▸ waits⟩
      · exact ⟨queue, holds⟩
  | @drop dropped =>
      apply orderly.setReceivers
      intro other queue holds
      rw [OrderedMap.get?_erase] at holds
      split at holds
      · cases holds
      · exact ⟨queue, holds⟩

theorem IsOrderly.act (orderly : store.IsOrderly) (action : Action) :
    (store.act action).IsOrderly := by
  unfold MemoryStore.act
  cases stepped : store.step action with
  | none => exact orderly
  | some next => exact orderly.step (happens_of_step stepped)

theorem IsOrderly.actAll (orderly : store.IsOrderly) (actions : List Action) :
    (store.actAll actions).IsOrderly := by
  induction actions generalizing store with
  | nil => exact orderly
  | cons action rest ih => exact ih (orderly.act action)

/-! ## Deliveries -/

/-- What a publication under way has yet to bring to a receiver. -/
def pending (store : MemoryStore) (number : Nat) : List String :=
  match store.publication with
  | some publication => if number ∈ publication.ahead then [publication.payload] else []
  | none => []

/-- What an action takes for a receiver. -/
def takenBy (store : MemoryStore) (number : Nat) : Action → List String
  | .receive other => if other = number then (store.queue number).take 1 else []
  | _ => []

/-- What an action begins to publish on a channel. -/
def publishedBy (store : MemoryStore) (channel : String) : Action → List String
  | .publish other payload =>
      if store.publication = none ∧ other = channel then [payload] else []
  | _ => []

/-- What is taken for a receiver in the course of actions. -/
def taken (store : MemoryStore) (number : Nat) : List Action → List String
  | [] => []
  | action :: rest => store.takenBy number action ++ (store.act action).taken number rest

/-- What is published on a channel in the course of actions. -/
def published (store : MemoryStore) (channel : String) : List Action → List String
  | [] => []
  | action :: rest =>
      store.publishedBy channel action ++ (store.act action).published channel rest

theorem pending_of_free (free : store.publication = none) : store.pending number = [] := by
  rw [pending, free]

theorem pending_of_underWay {publication : Publication}
    (underWay : store.publication = some publication) :
    store.pending number = if number ∈ publication.ahead then [publication.payload] else [] := by
  rw [pending, underWay]

theorem publication_sendTo (store : MemoryStore) (publication : Publication) (number : Nat)
    (ahead : List Nat) :
    (store.sendTo publication number ahead).publication =
      some { publication with
        ahead, served := publication.served ++ [number].filter store.isLive } := by
  unfold sendTo isLive
  cases found : store.receivers.get? number with
  | some queue => simp [OrderedMap.contains, found]
  | none => simp [OrderedMap.contains, found]

theorem receivers_sendTo (store : MemoryStore) (publication : Publication) (number other : Nat)
    (ahead : List Nat) :
    (store.sendTo publication number ahead).receivers.get? other =
      (store.receivers.get? other).map fun queue =>
        queue ++ if other = number then [publication.payload] else [] := by
  unfold sendTo
  by_cases same : other = number
  · subst same
    cases found : store.receivers.get? other with
    | some queue => simp
    | none => simp [found]
  · cases store.receivers.get? number with
    | some queue => simp [OrderedMap.get?_insert, same]
    | none => simp [same]

theorem queue_sendTo (store : MemoryStore) (publication : Publication) (other : Nat)
    (ahead : List Nat) (live : store.isLive number = true) :
    (store.sendTo publication other ahead).queue number =
      store.queue number ++ if number = other then [publication.payload] else [] := by
  obtain ⟨queue, found⟩ := isLive_iff.mp live
  rw [MemoryStore.queue, receivers_sendTo, queue_of_get? found, found, Option.map_some,
    Option.getD_some]

/--
A receiver on a channel, if it is there, has missed nothing that was published,
and the next publication on the channel will come to it.
-/
structure Hears (store : MemoryStore) (channel : String) (number : Nat)
    (heard said : List String) : Prop where
  issued : number < store.issued
  listed : store.isLive number = true → number ∈ store.sendersOf channel
  complete : store.isLive number = true →
    heard ++ store.queue number ++ store.pending number = said

section Hearing

variable {heard said : List String}

theorem hears_addReceiver (free : store.publication = none) (channel : String) :
    (store.addReceiver channel).Hears channel store.issued [] [] where
  issued := Nat.lt_succ_self _
  listed _ := by
    rw [sendersOf_addReceiver, if_pos rfl]
    exact List.mem_append_right _ (List.mem_singleton_self _)
  complete _ := by
    have empty : (store.addReceiver channel).queue store.issued = [] :=
      queue_of_get? (OrderedMap.get?_insert_self _ _ _)
    have idle : (store.addReceiver channel).pending store.issued = [] := pending_of_free free
    rw [empty, idle]
    rfl

/-- Another receiver comes with a number of its own. -/
theorem Hears.addReceiver (hears : store.Hears channel number heard said)
    (free : store.publication = none) (other : String) :
    (store.addReceiver other).Hears channel number heard said := by
  have older : number ≠ store.issued := Nat.ne_of_lt hears.issued
  have found : (store.addReceiver other).receivers.get? number = store.receivers.get? number := by
    rw [MemoryStore.addReceiver, OrderedMap.get?_insert, if_neg older]
  have sameLive : (store.addReceiver other).isLive number = store.isLive number := by
    rw [isLive, isLive, OrderedMap.contains, OrderedMap.contains, found]
  have sameQueue : (store.addReceiver other).queue number = store.queue number := by
    rw [queue, queue, found]
  have free' : (store.addReceiver other).publication = none := free
  refine ⟨Nat.lt_succ_of_lt hears.issued, ?_, ?_⟩
  · intro live
    have listed := hears.listed (sameLive ▸ live)
    rw [sendersOf_addReceiver]
    split
    · next same => exact List.mem_append_left _ (same ▸ listed)
    · exact listed
  · intro live
    rw [sameQueue, pending_of_free free', ← pending_of_free free]
    exact hears.complete (sameLive ▸ live)

/-- A publication will come to the receivers on its channel, and to no others. -/
theorem Hears.beginPublication (hears : store.Hears channel number heard said)
    (orderly : store.IsOrderly) (free : store.publication = none) (other payload : String) :
    (store.beginPublication other payload).Hears channel number heard
      (said ++ store.publishedBy channel (.publish other payload)) := by
  refine ⟨hears.issued, hears.listed, ?_⟩
  intro live
  have listed : number ∈ store.sendersOf channel := hears.listed live
  have before : heard ++ store.queue number = said := by
    have complete := hears.complete live
    rwa [pending_of_free free, List.append_nil] at complete
  have reached : number ∈ store.sendersOf other ↔ other = channel := by
    constructor
    · intro alsoListed
      exact orderly.apart alsoListed listed
    · rintro rfl
      exact listed
  have brought : (store.beginPublication other payload).pending number =
      store.publishedBy channel (.publish other payload) := by
    simp [pending, MemoryStore.beginPublication, publishedBy, free, reached]
  have sameQueue : (store.beginPublication other payload).queue number = store.queue number := rfl
  rw [sameQueue, before, brought]

theorem Hears.sendTo (hears : store.Hears channel number heard said) (orderly : store.IsOrderly)
    {publication : Publication} {other : Nat} {rest : List Nat}
    (underWay : store.publication = some publication)
    (ahead : publication.ahead = other :: rest) :
    (store.sendTo publication other rest).Hears channel number heard said := by
  refine ⟨?_, ?_, ?_⟩
  · rw [issued_sendTo]
    exact hears.issued
  · rw [isLive_sendTo, sendersOf_sendTo]
    exact hears.listed
  · rw [isLive_sendTo]
    intro live
    -- A sender that the publication has come to does not lie ahead a second time.
    have once : (other :: rest).Nodup := by
      have listed := (orderly.sound underWay).listed
      rw [ahead] at listed
      exact ((orderly.once _).sublist listed).of_append_right
    have later := publication_sendTo store publication other rest
    have complete := hears.complete live
    rw [pending_of_underWay underWay, ahead] at complete
    rw [queue_sendTo store publication other rest live, pending_of_underWay later]
    by_cases same : number = other
    · subst same
      have notAgain : number ∉ rest := (List.nodup_cons.mp once).1
      simpa [notAgain] using complete
    · simpa [same] using complete

/-- A receiver that is there was sent to, so its sender is kept. -/
theorem Hears.keepServed (hears : store.Hears channel number heard said)
    (orderly : store.IsOrderly) {publication : Publication}
    (underWay : store.publication = some publication) (ahead : publication.ahead = []) :
    (store.keepServed publication).Hears channel number heard said := by
  obtain ⟨listed, visits⟩ := orderly.sound underWay
  rw [ahead, List.append_nil] at listed visits
  refine ⟨hears.issued, ?_, ?_⟩
  · intro live
    have onChannel : number ∈ store.sendersOf channel := hears.listed live
    rw [sendersOf_keepServed listed]
    split
    · next same => exact visits number (same ▸ onChannel) live
    · exact onChannel
  · intro live
    have complete := hears.complete live
    rw [pending_of_underWay underWay, ahead, if_neg List.not_mem_nil] at complete
    exact complete

theorem Hears.receive (hears : store.Hears channel number heard said) {other : Nat}
    {payload : String} {rest : List String}
    (waits : store.receivers.get? other = some (payload :: rest)) :
    { store with receivers := store.receivers.insert other rest }.Hears channel number
      (heard ++ store.takenBy number (.receive other)) said := by
  have samePending : { store with receivers := store.receivers.insert other rest }.pending number =
      store.pending number := rfl
  by_cases same : number = other
  · subst same
    have live : store.isLive number = true := isLive_iff.mpr ⟨_, waits⟩
    have complete := hears.complete live
    have taken : store.takenBy number (.receive number) = [payload] := by
      rw [takenBy, if_pos rfl, queue_of_get? waits, List.take_succ_cons, List.take_zero]
    have left : { store with receivers := store.receivers.insert number rest }.queue number =
        rest := queue_of_get? (OrderedMap.get?_insert_self _ _ _)
    refine ⟨hears.issued, fun _ => hears.listed live, ?_⟩
    intro _
    rw [taken, left, samePending, ← complete, queue_of_get? waits]
    simp only [List.append_assoc, List.singleton_append]
  · have found : (store.receivers.insert other rest).get? number = store.receivers.get? number := by
      rw [OrderedMap.get?_insert, if_neg same]
    have taken : store.takenBy number (.receive other) = [] := by
      rw [takenBy, if_neg (Ne.symm same)]
    rw [taken, List.append_nil]
    refine ⟨hears.issued, ?_, ?_⟩
    · intro live
      exact hears.listed (by rwa [isLive, OrderedMap.contains, found] at live)
    · intro live
      have complete := hears.complete (by rwa [isLive, OrderedMap.contains, found] at live)
      rwa [queue, found, samePending]

theorem Hears.drop (hears : store.Hears channel number heard said) (other : Nat) :
    { store with receivers := store.receivers.erase other }.Hears channel number heard said := by
  by_cases same : number = other
  · subst same
    have gone :
        ¬ { store with receivers := store.receivers.erase number }.isLive number = true := by
      intro live
      obtain ⟨queue, found⟩ := isLive_iff.mp live
      rw [OrderedMap.get?_erase, if_pos rfl] at found
      cases found
    exact ⟨hears.issued, fun live => absurd live gone, fun live => absurd live gone⟩
  · have found : (store.receivers.erase other).get? number = store.receivers.get? number := by
      rw [OrderedMap.get?_erase, if_neg same]
    refine ⟨hears.issued, ?_, ?_⟩
    · intro live
      exact hears.listed (by rwa [isLive, OrderedMap.contains, found] at live)
    · intro live
      have complete := hears.complete (by rwa [isLive, OrderedMap.contains, found] at live)
      rwa [queue, found]

theorem Hears.step (hears : store.Hears channel number heard said) (orderly : store.IsOrderly)
    (happens : Happens store action next) :
    next.Hears channel number (heard ++ store.takenBy number action)
      (said ++ store.publishedBy channel action) := by
  cases happens with
  | subscribe free => simpa [takenBy, publishedBy] using hears.addReceiver free _
  | publish free => simpa [takenBy] using hears.beginPublication orderly free _ _
  | serve underWay ahead =>
      simpa [takenBy, publishedBy] using hears.sendTo orderly underWay ahead
  | conclude underWay ahead =>
      simpa [takenBy, publishedBy] using hears.keepServed orderly underWay ahead
  | receive waits => simpa [publishedBy] using hears.receive waits
  | drop => simpa [takenBy, publishedBy] using hears.drop _

/-- Nothing is taken or published by what cannot happen. -/
theorem idle_of_step_eq_none (stays : store.step action = none) :
    store.takenBy number action = [] ∧ store.publishedBy channel action = [] := by
  cases action with
  | publish other payload =>
      cases underWay : store.publication with
      | none => simp [MemoryStore.step, underWay] at stays
      | some publication => simp [takenBy, publishedBy, underWay]
  | receive other =>
      refine ⟨?_, rfl⟩
      rw [takenBy]
      split
      · next same =>
          subst same
          rw [MemoryStore.step] at stays
          rw [queue]
          split at stays
          · cases stays
          · next nothing =>
              cases found : store.receivers.get? other with
              | none => rfl
              | some queue =>
                  cases queue with
                  | nil => rfl
                  | cons payload rest => exact absurd found (nothing payload rest)
      · rfl
  | _ => exact ⟨rfl, rfl⟩

theorem Hears.act (hears : store.Hears channel number heard said) (orderly : store.IsOrderly)
    (action : Action) :
    (store.act action).Hears channel number (heard ++ store.takenBy number action)
      (said ++ store.publishedBy channel action) := by
  rw [MemoryStore.act]
  cases stepped : store.step action with
  | none =>
      have idle : store.takenBy number action = [] ∧ store.publishedBy channel action = [] :=
        idle_of_step_eq_none stepped
      obtain ⟨nothing, silence⟩ := idle
      rw [nothing, silence, List.append_nil, List.append_nil]
      exact hears
  | some next => exact hears.step orderly (happens_of_step stepped)

theorem Hears.actAll (hears : store.Hears channel number heard said) (orderly : store.IsOrderly)
    (actions : List Action) :
    (store.actAll actions).Hears channel number (heard ++ store.taken number actions)
      (said ++ store.published channel actions) := by
  induction actions generalizing store heard said with
  | nil => simpa [taken, published] using hears
  | cons action rest ih =>
      have later := ih (hears.act orderly action) (orderly.act action)
      simpa [taken, published, List.append_assoc] using later

/--
Whatever parties did to a store before, and whatever they do once somebody has
subscribed to a channel: if the new receiver was not dropped, what was taken
for it and what waits for it are together, in order, the payloads published on the
channel since it subscribed, except for one that a publication under way has yet to
bring to it.
-/
theorem subscribers_hear_all_of_their_channel (earlier later : List Action) (channel : String)
    {number : Nat} {subscribed : MemoryStore}
    (free : (fresh.actAll earlier).publication = none)
    (subscribes : (fresh.actAll earlier).subscribe channel = (number, subscribed))
    (live : (subscribed.actAll later).isLive number = true) :
    subscribed.taken number later ++ (subscribed.actAll later).queue number ++
          (subscribed.actAll later).pending number =
        subscribed.published channel later ∧
      ((subscribed.actAll later).publication = none →
        subscribed.taken number later ++ (subscribed.actAll later).queue number =
          subscribed.published channel later) := by
  have orderly : (fresh.actAll earlier).IsOrderly := isOrderly_fresh.actAll earlier
  generalize fresh.actAll earlier = store at *
  obtain ⟨rfl, rfl⟩ : store.issued = number ∧ store.addReceiver channel = subscribed := by
    simpa [MemoryStore.subscribe, MemoryStore.act, MemoryStore.step, free] using subscribes
  have begun := hears_addReceiver free channel
  have ends := (begun.actAll (orderly.addReceiver free channel) later).complete live
  rw [List.nil_append, List.nil_append] at ends
  refine ⟨ends, ?_⟩
  intro concluded
  rwa [pending_of_free concluded, List.append_nil] at ends

/-- A neighbour on the channel, and one on another. -/
def neighbours : List Action :=
  [.subscribe "news", .subscribe "weather"]

/--
A neighbour goes while something is published, and is passed over from then on, and
a receiver takes what waits for it while something else is under way.
-/
def busyDay : List Action :=
  [.publish "news" "one", .serve, .drop 0, .serve, .conclude, .publish "weather" "rain", .serve,
    .receive 2, .conclude, .publish "news" "two", .serve, .subscribe "news", .serve, .conclude,
    .subscribe "news", .publish "news" "three", .serve]

/-- The last publication of the day comes to its end. -/
def evening : List Action :=
  [.serve, .conclude]

theorem all_news_on_a_busy_day :
    let subscribed := ((fresh.actAll neighbours).subscribe "news").2
    (subscribed.actAll busyDay).isLive 2 = true ∧
      subscribed.published "news" busyDay = ["one", "two", "three"] ∧
      subscribed.taken 2 busyDay ++ (subscribed.actAll busyDay).queue 2 ++
        (subscribed.actAll busyDay).pending 2 = subscribed.published "news" busyDay ∧
      (subscribed.actAll (busyDay ++ evening)).publication = none ∧
      subscribed.taken 2 (busyDay ++ evening) ++
          (subscribed.actAll (busyDay ++ evening)).queue 2 =
        subscribed.published "news" (busyDay ++ evening) := by
  intro subscribed
  have live : (subscribed.actAll busyDay).isLive 2 = true := by decide +kernel
  have stillLive : (subscribed.actAll (busyDay ++ evening)).isLive 2 = true := by decide +kernel
  have free : (fresh.actAll neighbours).publication = none := by decide +kernel
  have concluded : (subscribed.actAll (busyDay ++ evening)).publication = none := by
    decide +kernel
  obtain ⟨heard, _⟩ :=
    subscribers_hear_all_of_their_channel neighbours busyDay "news" free rfl live
  obtain ⟨_, heardAll⟩ :=
    subscribers_hear_all_of_their_channel neighbours (busyDay ++ evening) "news" free rfl stillLive
  exact ⟨live, by decide +kernel, heard, concluded, heardAll concluded⟩

end Hearing

end MemoryStore

end Remote

end SwitchAbstraction
