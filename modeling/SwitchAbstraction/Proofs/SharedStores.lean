import SwitchAbstraction.Proofs.Subscriptions

/-!
# Brokers as stores in memory

A broker sends what is published to all subscriptions at once and forgets those
that end.  A store in memory does the same by and by.  When no publication is
under way, the two show the same, and each operation of the one is the whole of
an operation of the other.  So those who share a store cannot tell which it is.
-/

namespace SwitchAbstraction

namespace Remote

namespace MemoryStore

variable {store : MemoryStore} {broker : Broker} {channel payload : String} {number : Nat}

/-! ## Whole publications -/

/-- What a store is once a publication has come to all senders that were ahead of it. -/
structure Served (store : MemoryStore) (publication : Publication) (later : MemoryStore) :
    Prop where
  counters : later.counters = store.counters
  issued : later.issued = store.issued
  senders : later.senders = store.senders
  receivers : ∀ number, later.receivers.get? number =
    (store.receivers.get? number).map fun queue =>
      queue ++ if number ∈ publication.ahead then [publication.payload] else []
  publication : later.publication =
    some { publication with
      ahead := [], served := publication.served ++ publication.ahead.filter store.isLive }

theorem served_of_ahead_eq_nil {publication : Publication}
    (underWay : store.publication = some publication) (ahead : publication.ahead = []) :
    store.Served publication store where
  counters := rfl
  issued := rfl
  senders := rfl
  receivers number := by simp [ahead]
  publication := by
    cases publication
    simp_all

theorem counters_sendTo (store : MemoryStore) (publication : Publication) (ahead : List Nat) :
    (store.sendTo publication number ahead).counters = store.counters := by
  unfold sendTo
  split <;> rfl

theorem senders_sendTo (store : MemoryStore) (publication : Publication) (ahead : List Nat) :
    (store.sendTo publication number ahead).senders = store.senders := by
  unfold sendTo
  split <;> rfl

theorem act_serve {publication : Publication} {rest : List Nat}
    (underWay : store.publication = some publication)
    (ahead : publication.ahead = number :: rest) :
    store.act .serve = store.sendTo publication number rest := by
  simp only [act, step, underWay, ahead, Option.getD_some]

/-- A publication comes to all senders that are ahead of it. -/
theorem served_actAll {publication : Publication} (underWay : store.publication = some publication)
    (once : publication.ahead.Nodup) :
    store.Served publication
      (store.actAll (List.replicate publication.ahead.length .serve)) := by
  generalize ahead : publication.ahead = numbers at once
  induction numbers generalizing store publication with
  | nil => exact served_of_ahead_eq_nil underWay ahead
  | cons number rest ih =>
      have notAgain : number ∉ rest := (List.nodup_cons.mp once).1
      have served := ih (publication_sendTo store publication number rest) rfl once.of_cons
      rw [List.length_cons, List.replicate_succ, actAll_cons, act_serve underWay ahead]
      refine ⟨?_, ?_, ?_, ?_, ?_⟩
      · rw [served.counters, counters_sendTo]
      · rw [served.issued, issued_sendTo]
      · rw [served.senders, senders_sendTo]
      · intro other
        rw [served.receivers, receivers_sendTo, Option.map_map, ahead]
        congr 1
        funext queue
        by_cases same : other = number
        · simp [same, notAgain]
        · simp [same]
      · have sameLive : (store.sendTo publication number rest).isLive = store.isLive :=
          funext fun other => isLive_sendTo store publication number other rest
        rw [served.publication, sameLive, ahead, ← List.singleton_append (l := rest),
          List.filter_append, List.append_assoc]

/-- What a store is after a publication with nothing in between. -/
structure Published (store : MemoryStore) (channel payload : String) (later : MemoryStore) :
    Prop where
  counters : later.counters = store.counters
  issued : later.issued = store.issued
  free : later.publication = none
  senders : ∀ other, later.sendersOf other =
    if other = channel then (store.sendersOf channel).filter store.isLive
    else store.sendersOf other
  receivers : ∀ number, later.receivers.get? number =
    (store.receivers.get? number).map fun queue =>
      queue ++ if number ∈ store.sendersOf channel then [payload] else []

theorem actAll_append (store : MemoryStore) (first second : List Action) :
    store.actAll (first ++ second) = (store.actAll first).actAll second :=
  List.foldl_append ..

theorem published_publish (orderly : store.IsOrderly) (free : store.publication = none)
    (channel payload : String) :
    store.Published channel payload (store.publish channel payload) := by
  have begins : store.act (.publish channel payload) = store.beginPublication channel payload := by
    simp only [act, step, free, Option.getD_some]
  have once : (store.sendersOf channel).Nodup := orderly.once channel
  have underWay : (store.beginPublication channel payload).publication =
      some ⟨channel, payload, store.sendersOf channel, []⟩ := rfl
  have served := served_actAll underWay once
  rw [publish, actAll_cons, actAll_append, begins, actAll_cons, actAll_nil]
  generalize (store.beginPublication channel payload).actAll
    (List.replicate (store.sendersOf channel).length .serve) = last at *
  have sameSenders : ∀ other, last.sendersOf other = store.sendersOf other := by
    intro other
    rw [sendersOf, served.senders]
    rfl
  have ends : last.act .conclude =
      last.keepServed ⟨channel, payload, [], (store.sendersOf channel).filter store.isLive⟩ := by
    rw [act, step, served.publication]
    rfl
  rw [ends]
  refine ⟨served.counters, served.issued, rfl, ?_, served.receivers⟩
  intro other
  rw [sendersOf_keepServed, sameSenders]
  rw [sameSenders]
  exact List.filter_sublist

/-! ## Brokers -/

/-- A store, with no publication under way, and a broker look the same to those who use them. -/
structure Shows (store : MemoryStore) (broker : Broker) : Prop where
  counters : store.counters = broker.counters
  issued : store.issued = broker.issued
  free : store.publication = none
  queues : ∀ number, store.receivers.get? number =
    (broker.subscriptions.get? number).map Subscription.queue
  channels : ∀ {number : Nat} {subscription : Subscription},
    broker.subscriptions.get? number = some subscription →
      number ∈ store.sendersOf subscription.channel

theorem shows_fresh : fresh.Shows Broker.fresh where
  counters := rfl
  issued := rfl
  free := rfl
  queues _ := rfl
  channels found := by cases found

theorem Shows.increment (shows : store.Shows broker) (name : String) :
    (store.increment name).1 = (broker.increment name).1 ∧
      (store.increment name).2.Shows (broker.increment name).2 := by
  have same : store.counter name = broker.counter name := by
    rw [counter, Broker.counter, shows.counters]
  refine ⟨?_, ?_, shows.issued, shows.free, shows.queues, shows.channels⟩
  · rw [MemoryStore.increment, Broker.increment, same]
  · rw [MemoryStore.increment, Broker.increment, same, shows.counters]

theorem Shows.subscribe (shows : store.Shows broker) (channel : String) :
    (store.subscribe channel).1 = (broker.subscribe channel).1 ∧
      (store.subscribe channel).2.Shows (broker.subscribe channel).2 := by
  have begins : store.act (.subscribe channel) = store.addReceiver channel := by
    simp only [act, step, shows.free, Option.getD_some]
  refine ⟨shows.issued, ?_⟩
  rw [MemoryStore.subscribe, Broker.subscribe, begins, ← shows.issued]
  refine ⟨shows.counters, rfl, shows.free, ?_, ?_⟩
  · intro number
    rw [addReceiver, OrderedMap.get?_insert, OrderedMap.get?_insert]
    split
    · rfl
    · exact shows.queues number
  · intro number subscription found
    rw [OrderedMap.get?_insert] at found
    rw [sendersOf_addReceiver]
    split at found
    · next new =>
        cases found
        rw [if_pos rfl, new]
        exact List.mem_append_right _ (List.mem_singleton_self _)
    · have listed := shows.channels found
      split
      · next same => exact List.mem_append_left _ (same ▸ listed)
      · exact listed

theorem Shows.publish (shows : store.Shows broker) (orderly : store.IsOrderly)
    (channel payload : String) :
    (store.publish channel payload).Shows (broker.publish channel payload) := by
  have published := published_publish orderly shows.free channel payload
  refine ⟨?_, ?_, published.free, ?_, ?_⟩
  · rw [published.counters, shows.counters, Broker.publish]
  · rw [published.issued, shows.issued, Broker.publish]
  · intro number
    rw [published.receivers, shows.queues, Broker.publish, OrderedMap.get?_mapValues]
    cases found : broker.subscriptions.get? number with
    | none => rfl
    | some subscription =>
        have listed := shows.channels found
        by_cases same : subscription.channel = channel
        · simp [Subscription.offer, same, same ▸ listed]
        · have elsewhere : number ∉ store.sendersOf channel := fun alsoListed =>
            same (orderly.apart listed alsoListed)
          simp [Subscription.offer, same, elsewhere]
  · intro number subscription found
    rw [Broker.publish, OrderedMap.get?_mapValues] at found
    obtain ⟨before, foundBefore, rfl⟩ := Option.map_eq_some_iff.mp found
    have listed := shows.channels foundBefore
    have sameChannel : (before.offer channel payload).channel = before.channel := by
      unfold Subscription.offer
      split <;> rfl
    have live : store.isLive number = true := by
      refine isLive_iff.mpr ⟨before.queue, ?_⟩
      rw [shows.queues, foundBefore]
      rfl
    rw [sameChannel, published.senders]
    split
    · next same => exact List.mem_filter.mpr ⟨same ▸ listed, live⟩
    · exact listed

/-- Parties that receive or go leave everything but the receivers as it is. -/
theorem Shows.setReceivers (shows : store.Shows broker) {receivers : OrderedMap Nat (List String)}
    {subscriptions : OrderedMap Nat Subscription}
    (queues : ∀ number, receivers.get? number =
      (subscriptions.get? number).map Subscription.queue)
    (channels : ∀ {number : Nat} {subscription : Subscription},
      subscriptions.get? number = some subscription →
        ∃ before, broker.subscriptions.get? number = some before ∧
          before.channel = subscription.channel) :
    { store with receivers := receivers }.Shows
      { broker with subscriptions := subscriptions } where
  counters := shows.counters
  issued := shows.issued
  free := shows.free
  queues := queues
  channels found := by
    obtain ⟨before, foundBefore, same⟩ := channels found
    exact same ▸ shows.channels foundBefore

theorem drop_eq (store : MemoryStore) (number : Nat) :
    store.drop number = { store with receivers := store.receivers.erase number } := by
  rw [drop, act, step]
  split
  · rfl
  · next gone =>
      have nothing : store.receivers.erase number = store.receivers := by
        apply OrderedMap.ext_get?
        intro other
        rw [OrderedMap.get?_erase]
        split
        · next same =>
            subst same
            cases found : store.receivers.get? other with
            | none => rfl
            | some queue => exact absurd (isLive_iff.mpr ⟨queue, found⟩) gone
        · rfl
      rw [nothing]
      rfl

theorem Shows.unsubscribe (shows : store.Shows broker) (number : Nat) :
    (store.drop number).Shows (broker.unsubscribe number) := by
  rw [drop_eq]
  apply shows.setReceivers
  · intro other
    rw [OrderedMap.get?_erase, OrderedMap.get?_erase, shows.queues]
    split <;> rfl
  · intro other subscription found
    rw [OrderedMap.get?_erase] at found
    split at found
    · cases found
    · exact ⟨subscription, found, rfl⟩

theorem Shows.queue (shows : store.Shows broker) (number : Nat) :
    store.queue number = broker.queue number := by
  rw [MemoryStore.queue, Broker.queue, shows.queues]

/-- What is left to wait for a receiver is left to wait in its subscription. -/
theorem Shows.setQueue (shows : store.Shows broker) {before : List String}
    (found : store.receivers.get? number = some before) (left : List String) :
    { store with receivers := store.receivers.insert number left }.Shows
      (broker.setQueue number left) := by
  rw [shows.queues] at found
  obtain ⟨subscription, foundThere, rfl⟩ := Option.map_eq_some_iff.mp found
  apply shows.setReceivers
  · intro other
    rw [OrderedMap.get?_insert, OrderedMap.get?_modify, shows.queues]
    split
    · next same => simp [same, foundThere]
    · rfl
  · intro other later holds
    rw [OrderedMap.get?_modify] at holds
    split at holds
    · obtain ⟨earlier, foundEarlier, rfl⟩ := Option.map_eq_some_iff.mp holds
      exact ⟨earlier, foundEarlier, rfl⟩
    · exact ⟨later, holds, rfl⟩

theorem act_receive {payload : String} {rest : List String}
    (found : store.receivers.get? number = some (payload :: rest)) :
    store.act (.receive number) =
      { store with receivers := store.receivers.insert number rest } := by
  simp only [act, step, found, Option.getD_some]

theorem act_receive_of_queue_eq_nil (nothing : store.queue number = []) :
    store.act (.receive number) = store := by
  rw [act, step]
  split
  · next found =>
      rw [queue_of_get? found] at nothing
      cases nothing
  · rfl

theorem Shows.take (shows : store.Shows broker) (number : Nat) :
    (store.queue number).head? = (broker.take number).1 ∧
      (store.act (.receive number)).Shows (broker.take number).2 := by
  rw [Broker.take, ← shows.queue]
  cases waits : store.queue number with
  | nil =>
      rw [act_receive_of_queue_eq_nil waits]
      exact ⟨rfl, shows⟩
  | cons payload rest =>
      have found : store.receivers.get? number = some (payload :: rest) := by
        rw [MemoryStore.queue] at waits
        cases found : store.receivers.get? number with
        | none => simp [found] at waits
        | some queue => simpa [found] using waits
      rw [act_receive found]
      exact ⟨rfl, shows.setQueue found rest⟩

/-- All that waits for a receiver is taken by taking one payload after another. -/
theorem actAll_receive {queue : List String} (found : store.receivers.get? number = some queue) :
    store.actAll (List.replicate queue.length (.receive number)) =
      { store with receivers := store.receivers.insert number [] } := by
  induction queue generalizing store with
  | nil => rw [OrderedMap.insert_of_get? found]; rfl
  | cons payload rest ih =>
      rw [List.length_cons, List.replicate_succ, actAll_cons, act_receive found,
        ih (OrderedMap.get?_insert_self _ _ _)]
      congr 1
      apply OrderedMap.ext_get?
      intro other
      rw [OrderedMap.get?_insert, OrderedMap.get?_insert, OrderedMap.get?_insert]
      split <;> rfl

theorem Shows.drain (shows : store.Shows broker) (number : Nat) :
    (store.drain number).1 = (broker.drain number).1 ∧
      (store.drain number).2.Shows (broker.drain number).2 := by
  refine ⟨shows.queue number, ?_⟩
  rw [MemoryStore.drain, Broker.drain]
  cases found : store.receivers.get? number with
  | some queue =>
      rw [queue_of_get? found, actAll_receive found]
      exact shows.setQueue found []
  | none =>
      have nothing : store.queue number = [] := by
        rw [MemoryStore.queue, found]
        rfl
      have noSubscription : broker.subscriptions.get? number = none := by
        rw [shows.queues] at found
        exact Option.map_eq_none_iff.mp found
      have stays : broker.setQueue number [] = broker := by
        rw [Broker.setQueue]
        congr 1
        apply OrderedMap.ext_get?
        intro other
        rw [OrderedMap.get?_modify]
        split
        · next same => rw [same, noSubscription]; rfl
        · rfl
      rw [nothing, stays]
      exact shows

end MemoryStore

/-! ## Whole runs -/

/-- What the parties that share a store ask of it, one after another. -/
inductive StoreOperation
  | increment (name : String)
  | subscribe (channel : String)
  | publish (channel payload : String)
  /-- The payload is taken that has waited longest in a subscription. -/
  | take (number : Nat)
  /-- All payloads are taken that wait in a subscription. -/
  | drain (number : Nat)
  /-- A subscription ends. -/
  | leave (number : Nat)

/-- What a party is told. -/
inductive StoreReply
  | value (value : UInt64)
  | number (number : Nat)
  | payloads (payloads : List String)

/-- What a party is told by a broker, and the broker from then on. -/
def Broker.perform (broker : Broker) : StoreOperation → StoreReply × Broker
  | .increment name => (broker.increment name).map .value id
  | .subscribe channel => (broker.subscribe channel).map .number id
  | .publish channel payload => (.payloads [], broker.publish channel payload)
  | .take number => (broker.take number).map (fun payload => .payloads payload.toList) id
  | .drain number => (broker.drain number).map .payloads id
  | .leave number => (.payloads [], broker.unsubscribe number)

/-- What parties are told by a broker. -/
def Broker.replies (broker : Broker) : List StoreOperation → List StoreReply
  | [] => []
  | operation :: rest =>
      (broker.perform operation).1 :: (broker.perform operation).2.replies rest

/-- What a party is told by a store in memory, and the store from then on. -/
def MemoryStore.perform (store : MemoryStore) : StoreOperation → StoreReply × MemoryStore
  | .increment name => (store.increment name).map .value id
  | .subscribe channel => (store.subscribe channel).map .number id
  | .publish channel payload => (.payloads [], store.publish channel payload)
  | .take number => (.payloads (store.queue number).head?.toList, store.act (.receive number))
  | .drain number => (store.drain number).map .payloads id
  | .leave number => (.payloads [], store.drop number)

/-- What parties are told by a store in memory. -/
def MemoryStore.replies (store : MemoryStore) : List StoreOperation → List StoreReply
  | [] => []
  | operation :: rest =>
      (store.perform operation).1 :: (store.perform operation).2.replies rest

namespace MemoryStore

variable {store : MemoryStore} {broker : Broker}

theorem IsOrderly.perform (orderly : store.IsOrderly) (operation : StoreOperation) :
    (store.perform operation).2.IsOrderly := by
  cases operation with
  | increment name =>
      have issued : (store.increment name).2.issued = store.issued := rfl
      apply orderly.shrink issued
      · intro channel
        exact List.Sublist.refl _
      · intro publication underWay
        obtain ⟨listed, visits⟩ := orderly.sound underWay
        exact ⟨listed, visits⟩
  | subscribe channel => exact orderly.act _
  | publish channel payload => exact orderly.actAll _
  | take number => exact orderly.act _
  | drain number => exact orderly.actAll _
  | leave number => exact orderly.act _

/-- A store tells a party what the broker tells it that looks the same. -/
theorem Shows.perform (shows : store.Shows broker) (orderly : store.IsOrderly)
    (operation : StoreOperation) :
    (store.perform operation).1 = (broker.perform operation).1 ∧
      (store.perform operation).2.Shows (broker.perform operation).2 := by
  cases operation with
  | increment name =>
      obtain ⟨same, still⟩ := shows.increment name
      exact ⟨congrArg StoreReply.value same, still⟩
  | subscribe channel =>
      obtain ⟨same, still⟩ := shows.subscribe channel
      exact ⟨congrArg StoreReply.number same, still⟩
  | publish channel payload => exact ⟨rfl, shows.publish orderly channel payload⟩
  | take number =>
      obtain ⟨same, still⟩ := shows.take number
      refine ⟨?_, still⟩
      rw [MemoryStore.perform, same]
      rfl
  | drain number =>
      obtain ⟨same, still⟩ := shows.drain number
      exact ⟨congrArg StoreReply.payloads same, still⟩
  | leave number => exact ⟨rfl, shows.unsubscribe number⟩

theorem Shows.replies (shows : store.Shows broker) (orderly : store.IsOrderly)
    (operations : List StoreOperation) : store.replies operations = broker.replies operations := by
  induction operations generalizing store broker with
  | nil => rfl
  | cons operation rest ih =>
      obtain ⟨same, still⟩ := shows.perform orderly operation
      rw [MemoryStore.replies, Broker.replies, same, ih still (orderly.perform operation)]

/-- Whatever is asked of it, a store in memory tells its parties what a broker would. -/
theorem replies_eq_of_broker (operations : List StoreOperation) :
    fresh.replies operations = Broker.fresh.replies operations :=
  shows_fresh.replies isOrderly_fresh operations

end MemoryStore

end Remote

end SwitchAbstraction
