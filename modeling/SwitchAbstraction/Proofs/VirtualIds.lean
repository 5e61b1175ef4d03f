import Mathlib.Data.List.Nodup
import SwitchAbstraction.Proofs.Conversations
import SwitchAbstraction.Proofs.DrawnIds

/-!
# Ids drawn by clients

An id is used up when it is drawn, whatever becomes of its creation.  The counter
in the store goes on when a client is shut down and started again, and it is the
same for all clients.  Indexes of switches begin anew with each session.  A
creation that is refused before it draws leaves no trace.
-/

namespace SwitchAbstraction

namespace Remote

/-! ## What is used up -/

/-- What sets an id apart: its counter, or for a switch its index within a session. -/
inductive Serial
  | counted (counter : Nat)
  | indexed (party session : Nat) (index : UInt8)
  deriving DecidableEq

/-- What sets the id of a creation apart from those of all others. -/
def Creation.serial (creation : Creation) (party session : Nat) : Serial :=
  if creation.type = .switch then .indexed party session creation.id.switchIndex
  else .counted creation.id.counter

/-- What sets the id in a request apart from those in all others. -/
def CreateRequest.serial (request : CreateRequest) : Serial :=
  request.creation.serial request.party request.session

/-- The id of a creation says what is to be created and on which switch. -/
structure Creation.IsSound (creation : Creation) : Prop where
  addressed : creation.type.isIdAddressed = true
  composed : ∃ index counter, counter < ObjectId.counterLimit ∧
    creation.id = .compose index creation.type counter ∧
      (creation.type ≠ .switch → index = creation.switchId.switchIndex)

/-- Whether an index is used up in the latest session; in one that has ended all are. -/
def Party.HasTaken (party : Party) (index : UInt8) : Prop :=
  ∀ session, party.client.session = some session → index.toNat < session.indexes.taken

/-- A party has gone on to a later session, or used up more in the same. -/
def Party.GoesOn (party next : Party) : Prop :=
  party.sessions < next.sessions ∨
    party.sessions = next.sessions ∧ ∀ index, party.HasTaken index → next.HasTaken index

theorem Party.goesOn_of_client_eq {party next : Party} (sessions : next.sessions = party.sessions)
    (client : next.client = party.client) : party.GoesOn next := by
  refine .inr ⟨sessions.symm, ?_⟩
  intro index taken session started
  exact taken session (client ▸ started)

namespace Fleet

variable {fleet next : Fleet} {broker : Broker} {number : Nat} {party : Party}
  {creation : Creation} {serial : Serial}

/-- Whether something was used up. -/
def HasIssued (fleet : Fleet) : Serial → Prop
  | .counted counter => counter ≤ fleet.increments
  | .indexed party session index =>
      session < (fleet.parties party).sessions ∨
        session = (fleet.parties party).sessions ∧ (fleet.parties party).HasTaken index

/-- A fleet has counted on, and each party has gone on. -/
structure Advances (fleet next : Fleet) : Prop where
  increments : fleet.increments ≤ next.increments
  parties : ∀ number, (fleet.parties number).GoesOn (next.parties number)

/-- What is used up stays so. -/
theorem HasIssued.advance (issued : fleet.HasIssued serial) (advances : fleet.Advances next) :
    next.HasIssued serial := by
  cases serial with
  | counted counter => exact Nat.le_trans issued advances.increments
  | indexed party session index =>
      obtain later | ⟨same, more⟩ := advances.parties party
      · obtain earlier | ⟨rfl, _⟩ := issued
        · exact .inl (Nat.lt_trans earlier later)
        · exact .inl later
      · obtain earlier | ⟨rfl, taken⟩ := issued
        · exact .inl (same ▸ earlier)
        · exact .inr ⟨same, more index taken⟩

/-- The counter of ids tells how often it was counted up. -/
def IsCounted (fleet : Fleet) : Prop :=
  (fleet.broker.counter idCounter).toNat = fleet.increments

/-- A store whose counter of ids was counted up at most once. -/
def CountsTo (fleet : Fleet) (broker : Broker) : Prop :=
  broker.counter idCounter = fleet.broker.counter idCounter ∨
    broker.counter idCounter = fleet.broker.counter idCounter + 1

theorem countsTo_of_counters (same : broker.counters = fleet.broker.counters) :
    fleet.CountsTo broker := by
  left
  rw [Broker.counter, Broker.counter, same]

theorem counter_increment (broker : Broker) (name other : String) :
    (broker.increment name).2.counter other =
      if other = name then broker.counter name + 1 else broker.counter other := by
  unfold Broker.increment Broker.counter
  rw [OrderedMap.get?_insert]
  split <;> rfl

theorem countsTo_increment (fleet : Fleet) (name : String) :
    fleet.CountsTo (fleet.broker.increment name).2 := by
  rw [CountsTo, counter_increment]
  split
  · next same => exact .inr (same ▸ rfl)
  · exact .inl rfl

theorem increments_le_setBroker (fleet : Fleet) (broker : Broker) :
    fleet.increments ≤ (fleet.setBroker broker).increments := by
  unfold setBroker
  dsimp only
  split
  · exact Nat.le_refl _
  · exact Nat.le_succ _

/-- As long as the counter does not overflow, it tells how often it was counted up. -/
theorem IsCounted.setBroker (counted : fleet.IsCounted) (counts : fleet.CountsTo broker)
    (few : (fleet.setBroker broker).increments < UInt64.size) :
    (fleet.setBroker broker).IsCounted := by
  unfold IsCounted Fleet.setBroker at *
  dsimp only at *
  split at few
  · next same => rw [if_pos same, same, counted]
  · next different =>
      rw [if_neg different]
      obtain same | up := counts
      · exact absurd same different
      · have one : (1 : UInt64).toNat = 1 := rfl
        have size : UInt64.size = 2 ^ 64 := rfl
        rw [up, UInt64.toNat_add, counted, one, Nat.mod_eq_of_lt (size ▸ few)]

/-! ## Fleets in order -/

/-- Whether a party has drawn the id of a creation and not sent its request yet. -/
def HasDrawn (fleet : Fleet) (number : Nat) (creation : Creation) : Prop :=
  (fleet.parties number).progress = .drawn creation

/-- What sets a creation apart that a party makes now. -/
def serialOf (fleet : Fleet) (number : Nat) (creation : Creation) : Serial :=
  creation.serial number (fleet.parties number).sessions

/-- Every id that was drawn is used up, and no two that were drawn are the same. -/
structure IsNumbered (fleet : Fleet) : Prop where
  counted : fleet.IsCounted
  issued : ∀ request ∈ fleet.requests, fleet.HasIssued request.serial
  sound : ∀ request ∈ fleet.requests, request.creation.IsSound ∧
    request.payload = request.creation.message.encode
  apart : fleet.requests.Pairwise fun first second => first.serial ≠ second.serial
  drawnIssued : ∀ {number : Nat} {creation : Creation}, fleet.HasDrawn number creation →
    fleet.HasIssued (fleet.serialOf number creation)
  drawnSound : ∀ {number : Nat} {creation : Creation}, fleet.HasDrawn number creation →
    creation.IsSound
  unpublished : ∀ {number : Nat} {creation : Creation}, fleet.HasDrawn number creation →
    ∀ request ∈ fleet.requests, request.serial ≠ fleet.serialOf number creation
  drawnApart : ∀ {first second : Nat} {creation other : Creation},
    fleet.HasDrawn first creation → fleet.HasDrawn second other → first ≠ second →
      fleet.serialOf first creation ≠ fleet.serialOf second other

theorem isNumbered_fresh : fresh.IsNumbered where
  counted := rfl
  issued _ member := by cases member
  sound _ member := by cases member
  apart := .nil
  drawnIssued drawn := by cases drawn
  drawnSound drawn := by cases drawn
  unpublished drawn := by cases drawn
  drawnApart drawn := by cases drawn

/-- A creation draws what was not used up before. -/
structure DrawsAnew (fleet next : Fleet) (number : Nat) (creation : Creation) : Prop where
  sound : creation.IsSound
  issued : next.HasIssued (next.serialOf number creation)
  anew : ¬ fleet.HasIssued (next.serialOf number creation)

/-- A fleet stays in order while it advances and at most one party draws something. -/
theorem IsNumbered.advance (numbered : fleet.IsNumbered) (advances : fleet.Advances next)
    (counted : next.IsCounted) (requests : next.requests = fleet.requests) (drawer : Nat)
    (drawn : ∀ {number : Nat} {creation : Creation}, next.HasDrawn number creation →
      fleet.HasDrawn number creation ∧
          next.serialOf number creation = fleet.serialOf number creation ∨
        number = drawer ∧ fleet.DrawsAnew next number creation) :
    next.IsNumbered := by
  refine ⟨counted, ?_, ?_, ?_, ?_, ?_, ?_, ?_⟩
  · intro request member
    exact (numbered.issued request (requests ▸ member)).advance advances
  · intro request member
    exact numbered.sound request (requests ▸ member)
  · exact requests ▸ numbered.apart
  · intro number creation isDrawn
    obtain ⟨already, same⟩ | ⟨_, anew⟩ := drawn isDrawn
    · exact same ▸ (numbered.drawnIssued already).advance advances
    · exact anew.issued
  · intro number creation isDrawn
    obtain ⟨already, _⟩ | ⟨_, anew⟩ := drawn isDrawn
    · exact numbered.drawnSound already
    · exact anew.sound
  · intro number creation isDrawn request member
    have member : request ∈ fleet.requests := requests ▸ member
    obtain ⟨already, same⟩ | ⟨_, anew⟩ := drawn isDrawn
    · exact same ▸ numbered.unpublished already request member
    · intro same
      exact anew.anew (same ▸ numbered.issued request member)
  · intro first second creation other isDrawn alsoDrawn different
    obtain ⟨already, same⟩ | ⟨rfl, anew⟩ := drawn isDrawn
    · obtain ⟨alsoAlready, alsoSame⟩ | ⟨_, alsoAnew⟩ := drawn alsoDrawn
      · rw [same, alsoSame]
        exact numbered.drawnApart already alsoAlready different
      · intro equal
        exact alsoAnew.anew (equal ▸ same ▸ numbered.drawnIssued already)
    · obtain ⟨alsoAlready, alsoSame⟩ | ⟨rfl, _⟩ := drawn alsoDrawn
      · intro equal
        exact anew.anew (equal ▸ alsoSame ▸ numbered.drawnIssued alsoAlready)
      · exact absurd rfl different

theorem IsNumbered.setBroker (numbered : fleet.IsNumbered) (counts : fleet.CountsTo broker)
    (few : (fleet.setBroker broker).increments < UInt64.size) :
    (fleet.setBroker broker).IsNumbered := by
  have advances : fleet.Advances (fleet.setBroker broker) :=
    ⟨increments_le_setBroker _ _, fun _ => Party.goesOn_of_client_eq rfl rfl⟩
  apply numbered.advance advances (numbered.counted.setBroker counts few) rfl 0
  intro number creation isDrawn
  exact .inl ⟨isDrawn, rfl⟩

theorem parties_setParty (fleet : Fleet) (number other : Nat) (party : Party) :
    (fleet.setParty number party).parties other =
      if other = number then party else fleet.parties other := rfl

theorem advances_settle (fleet : Fleet) (broker : Broker) (number : Nat)
    (goesOn : (fleet.parties number).GoesOn party) :
    fleet.Advances ((fleet.setBroker broker).setParty number party) where
  increments := fleet.increments_le_setBroker broker
  parties other := by
    rw [parties_setParty]
    split
    · next same => exact same ▸ goesOn
    · exact Party.goesOn_of_client_eq rfl rfl

/-- A fleet stays in order when one party goes on, and draws something or not. -/
theorem IsNumbered.settle (numbered : fleet.IsNumbered) (counts : fleet.CountsTo broker)
    (few : (fleet.setBroker broker).increments < UInt64.size)
    (goesOn : (fleet.parties number).GoesOn party)
    (drawn : ∀ creation, party.progress = .drawn creation →
      fleet.DrawsAnew ((fleet.setBroker broker).setParty number party) number creation) :
    ((fleet.setBroker broker).setParty number party).IsNumbered := by
  apply numbered.advance (fleet.advances_settle broker number goesOn)
    (numbered.counted.setBroker counts few) rfl number
  intro other creation isDrawn
  rw [HasDrawn, parties_setParty] at isDrawn
  by_cases same : other = number
  · subst same
    rw [if_pos rfl] at isDrawn
    exact .inr ⟨rfl, drawn creation isDrawn⟩
  · rw [if_neg same] at isDrawn
    refine .inl ⟨isDrawn, ?_⟩
    rw [serialOf, parties_setParty, if_neg same]
    rfl

/-! ## The single turns -/

theorem IsNumbered.start (numbered : fleet.IsNumbered) {services : Services} {listening : Bool}
    {circumstances : Circumstances} (idle : (fleet.parties number).progress = .idle)
    (few : (fleet.start number services listening circumstances).increments < UInt64.size) :
    (fleet.start number services listening circumstances).IsNumbered := by
  let party := fleet.parties number
  obtain ⟨counters, ⟨fault, next, failed⟩ | ⟨session, next, started⟩⟩ :=
    party.client.start_cases (circumstances.meet fleet.broker) services listening
  · have stays : fleet.start number services listening circumstances =
        (fleet.setBroker next.broker).setParty number party := by
      rw [Fleet.start, failed]
    rw [failed] at counters
    rw [stays] at few ⊢
    apply numbered.settle (countsTo_of_counters counters) few
    · exact Party.goesOn_of_client_eq rfl rfl
    · intro creation drawn
      cases idle.symm.trans drawn
  · have begins : fleet.start number services listening circumstances =
        (fleet.setBroker next.broker).setParty number
          { party with client := ⟨some session⟩, sessions := party.sessions + 1 } := by
      rw [Fleet.start, started]
    rw [started] at counters
    rw [begins] at few ⊢
    apply numbered.settle (countsTo_of_counters counters) few
    · exact .inl (Nat.lt_succ_self _)
    · intro creation drawn
      cases idle.symm.trans drawn

/-- A client that was shut down has no session, and one that was not is as before. -/
theorem goesOn_shutdown (party : Party) (exchange : Exchange) :
    party.GoesOn { party with client := (party.client.shutdown exchange).2.1 } := by
  right
  refine ⟨rfl, ?_⟩
  intro index taken session later
  rw [Client.shutdown] at later
  cases started : party.client.session with
  | none =>
      rw [started] at later
      exact taken session later
  | some before =>
      rw [started] at later
      cases later

theorem IsNumbered.shutdown (numbered : fleet.IsNumbered)
    (idle : (fleet.parties number).progress = .idle)
    (few : (fleet.shutdown number).increments < UInt64.size) :
    (fleet.shutdown number).IsNumbered := by
  have counters := (fleet.parties number).client.counters_shutdown
    (Circumstances.calm.meet fleet.broker)
  apply numbered.settle (countsTo_of_counters counters) few
  · exact goesOn_shutdown _ _
  · intro creation drawn
    cases idle.symm.trans drawn

theorem IsNumbered.perform (numbered : fleet.IsNumbered) {call : Call}
    {circumstances : Circumstances}
    (other : ∀ type switchId attrs, call ≠ .create type switchId attrs)
    (idle : (fleet.parties number).progress = .idle)
    (few : (fleet.perform number call circumstances).increments < UInt64.size) :
    (fleet.perform number call circumstances).IsNumbered := by
  obtain ⟨client, counters⟩ :=
    (fleet.parties number).client.perform_of_not_create (circumstances.meet fleet.broker) other
  apply numbered.settle (countsTo_of_counters counters) few
  · exact Party.goesOn_of_client_eq rfl client
  · intro creation drawn
    cases idle.symm.trans drawn

theorem increments_setBroker_increment (fleet : Fleet) :
    (fleet.setBroker (fleet.broker.increment idCounter).2).increments = fleet.increments + 1 := by
  have different : fleet.broker.counter idCounter + 1 ≠ fleet.broker.counter idCounter := by
    intro same
    simp at same
  rw [Fleet.setBroker, counter_increment, if_pos rfl, if_neg different]

/-- What a party draws was not used up before. -/
theorem drawsAnew {type : ObjectType} {switchId id : ObjectId} (attrs : List Attribute)
    {session : Session} {exchange last : Exchange} (same : exchange.broker = fleet.broker)
    (draws : (fleet.parties number).client.Draws exchange switchId type id session last)
    (counted : (fleet.setBroker last.broker).IsCounted) :
    fleet.DrawsAnew
      ((fleet.setBroker last.broker).setParty number
        { fleet.parties number with
          client := ⟨some session⟩
          progress := .drawn ⟨type, switchId, attrs, id⟩ })
      number ⟨type, switchId, attrs, id⟩ := by
  cases draws with
  | @index before index indexes started taken goesOn =>
      have addressed : ObjectType.switch.isIdAddressed = true := by decide
      refine ⟨⟨addressed, index, index.toNat, ?_, rfl, fun other => absurd rfl other⟩, ?_, ?_⟩
      · exact Nat.lt_of_lt_of_le index.toNat_lt (by decide)
      · rw [serialOf, parties_setParty, if_pos rfl, Creation.serial, if_pos rfl]
        right
        rw [parties_setParty, if_pos rfl]
        refine ⟨rfl, ?_⟩
        rintro later ⟨⟩
        dsimp only
        rw [ObjectId.switchIndex_ofSwitchIndex, goesOn, taken]
        exact Nat.lt_succ_self _
      · rw [serialOf, parties_setParty, if_pos rfl, Creation.serial, if_pos rfl]
        rintro (earlier | ⟨_, already⟩)
        · exact absurd earlier (Nat.lt_irrefl _)
        · have below := already before started
          rw [ObjectId.switchIndex_ofSwitchIndex, taken] at below
          exact absurd below (Nat.lt_irrefl _)
  | @counter before type counter started other addressed counts fits =>
      dsimp only at counted ⊢
      rw [same] at counts counted ⊢
      have up := fleet.increments_setBroker_increment
      have total : counter = fleet.increments + 1 := by
        rw [counts, ← up, ← counted]
        exact congrArg UInt64.toNat (by rw [Fleet.setBroker, counter_increment, if_pos rfl]; rfl)
      have carried : (ObjectId.compose switchId.switchIndex type counter).counter = counter :=
        ObjectId.counter_compose fits
      refine ⟨⟨addressed, switchId.switchIndex, counter, fits, rfl, fun _ => rfl⟩, ?_, ?_⟩
      · rw [serialOf, Creation.serial, if_neg other]
        exact Nat.le_of_eq (carried.trans (total.trans up.symm))
      · rw [serialOf, Creation.serial, if_neg other]
        intro already
        have below : (ObjectId.compose switchId.switchIndex type counter).counter ≤
            fleet.increments := already
        omega

theorem IsNumbered.draw (numbered : fleet.IsNumbered) {type : ObjectType} {switchId : ObjectId}
    {attrs : List Attribute} {circumstances : Circumstances}
    (few : (fleet.draw number type switchId attrs circumstances).increments < UInt64.size) :
    (fleet.draw number type switchId attrs circumstances).IsNumbered := by
  have plain : (circumstances.meet fleet.broker).counted = none := rfl
  obtain ⟨fault, fails⟩ | ⟨fault, counts⟩ | ⟨id, session, last, drawn, draws⟩ :=
    (fleet.parties number).client.draw_cases type switchId plain
  · have stays : fleet.draw number type switchId attrs circumstances =
        fleet.setBroker fleet.broker := by
      rw [Fleet.draw, fails]
      rfl
    rw [stays] at few ⊢
    exact numbered.setBroker (.inl rfl) few
  · have goesOn : fleet.draw number type switchId attrs circumstances =
        fleet.setBroker (fleet.broker.increment idCounter).2 := by
      rw [Fleet.draw, counts]
      rfl
    rw [goesOn] at few ⊢
    exact numbered.setBroker (fleet.countsTo_increment idCounter) few
  · have drew : fleet.draw number type switchId attrs circumstances =
        (fleet.setBroker last.broker).setParty number
          { fleet.parties number with
            client := ⟨some session⟩
            progress := .drawn ⟨type, switchId, attrs, id⟩ } := by
      rw [Fleet.draw, drawn]
    rw [drew] at few ⊢
    have counts : fleet.CountsTo last.broker := by
      cases draws with
      | index => exact .inl rfl
      | counter => exact fleet.countsTo_increment idCounter
    apply numbered.settle counts few
    · cases draws with
      | @index before index indexes started taken goesOn =>
          refine .inr ⟨rfl, ?_⟩
          rintro other hasTaken later ⟨⟩
          exact Nat.lt_of_lt_of_le (hasTaken before started) (goesOn ▸ Nat.le_succ _)
      | @counter before type counter started =>
          refine .inr ⟨rfl, ?_⟩
          rintro other hasTaken later ⟨⟩
          exact hasTaken session started
    · rintro creation ⟨⟩
      exact drawsAnew attrs rfl draws (numbered.counted.setBroker counts few)

/-- A fleet stays in order when a request with an id of its own is published. -/
theorem IsNumbered.addRequest (numbered : fleet.IsNumbered) {request : CreateRequest}
    (issued : fleet.HasIssued request.serial) (sound : request.creation.IsSound)
    (payload : request.payload = request.creation.message.encode)
    (new : ∀ other ∈ fleet.requests, other.serial ≠ request.serial)
    (elsewhere : ∀ {number : Nat} {creation : Creation}, fleet.HasDrawn number creation →
      request.serial ≠ fleet.serialOf number creation) :
    { fleet with requests := fleet.requests ++ [request] }.IsNumbered := by
  refine ⟨numbered.counted, ?_, ?_, ?_, numbered.drawnIssued, numbered.drawnSound, ?_,
    numbered.drawnApart⟩
  · intro other member
    rcases List.mem_append.mp member with before | last
    · exact numbered.issued other before
    · exact List.mem_singleton.mp last ▸ issued
  · intro other member
    rcases List.mem_append.mp member with before | last
    · exact numbered.sound other before
    · exact List.mem_singleton.mp last ▸ ⟨sound, payload⟩
  · refine List.pairwise_append.mpr ⟨numbered.apart, List.pairwise_singleton _ _, ?_⟩
    intro other before last isLast
    exact List.mem_singleton.mp isLast ▸ new other before
  · intro number creation drawn other member
    rcases List.mem_append.mp member with before | last
    · exact numbered.unpublished drawn other before
    · exact List.mem_singleton.mp last ▸ elsewhere drawn

theorem IsNumbered.send (numbered : fleet.IsNumbered) {session : Session}
    {circumstances : Circumstances} (drawn : fleet.HasDrawn number creation)
    (few : (fleet.send number session creation circumstances).increments < UInt64.size) :
    (fleet.send number session creation circumstances).IsNumbered := by
  let drained := ((circumstances.meet fleet.broker).drain session.responses).2
  have counters : drained.broker.counters = fleet.broker.counters :=
    Exchange.counters_drain _ _
  have nothing : drained.sent = [] := Exchange.sent_drain _ _
  obtain ⟨fault, refused⟩ | ⟨next, published, sent, same⟩ :=
    drained.publishRequest_cases creation.message.encode
  · have stays : fleet.send number session creation circumstances =
        (fleet.setBroker drained.broker).setParty number
          { fleet.parties number with progress := .idle } := by
      rw [Fleet.send, Session.send, refused]
      dsimp only
      rw [nothing, List.map_nil, List.append_nil]
      rfl
    rw [stays] at few ⊢
    apply numbered.settle (countsTo_of_counters counters) few
    · exact Party.goesOn_of_client_eq rfl rfl
    · rintro other ⟨⟩
  · rw [nothing, List.nil_append] at sent
    let settled := (fleet.setBroker next.broker).setParty number
      { fleet.parties number with progress := .waiting creation }
    let request : CreateRequest :=
      ⟨number, (fleet.parties number).sessions, creation, creation.message.encode⟩
    have goes : fleet.send number session creation circumstances =
        { settled with requests := settled.requests ++ [request] } := by
      rw [Fleet.send, Session.send, published]
      dsimp only
      rw [sent]
      rfl
    rw [goes] at few ⊢
    have counts := countsTo_of_counters (same.trans counters)
    have goesOn : (fleet.parties number).GoesOn
        { fleet.parties number with progress := .waiting creation } :=
      Party.goesOn_of_client_eq rfl rfl
    have isNumbered : settled.IsNumbered := by
      apply numbered.settle counts few goesOn
      rintro other ⟨⟩
    apply isNumbered.addRequest
    · exact (numbered.drawnIssued drawn).advance (fleet.advances_settle _ _ goesOn)
    · exact numbered.drawnSound drawn
    · rfl
    · exact numbered.unpublished drawn
    · intro other creation alsoDrawn
      rw [HasDrawn, parties_setParty] at alsoDrawn
      split at alsoDrawn
      · cases alsoDrawn
      · next different =>
          rw [serialOf, parties_setParty, if_neg different]
          exact numbered.drawnApart drawn alsoDrawn (Ne.symm different)

theorem IsNumbered.hear (numbered : fleet.IsNumbered) {session : Session}
    (few : (fleet.hear number session creation).increments < UInt64.size) :
    (fleet.hear number session creation).IsNumbered := by
  have counters := session.counters_await (Circumstances.calm.meet fleet.broker) creation.message
  apply numbered.settle (countsTo_of_counters counters) few
  · exact Party.goesOn_of_client_eq rfl rfl
  · rintro other ⟨⟩

theorem IsNumbered.begin (numbered : fleet.IsNumbered) {call : Call}
    {circumstances : Circumstances} (idle : (fleet.parties number).progress = .idle)
    (few : (fleet.begin number circumstances call).increments < UInt64.size) :
    (fleet.begin number circumstances call).IsNumbered := by
  cases call with
  | create type switchId attrs => exact numbered.draw few
  | _ => exact numbered.perform (by simp) idle few

/-- Every turn that can happen keeps a fleet in order, while the counter does not overflow. -/
theorem IsNumbered.step (numbered : fleet.IsNumbered) {turn : Turn}
    (stepped : fleet.step turn = some next) (few : next.increments < UInt64.size) :
    next.IsNumbered := by
  cases turn with
  | start number services listening circumstances =>
      simp only [Fleet.step] at stepped
      split at stepped
      · next idle =>
          cases stepped
          exact numbered.start idle few
      · cases stepped
  | shutdown number =>
      simp only [Fleet.step] at stepped
      split at stepped
      · next idle =>
          cases stepped
          exact numbered.shutdown idle few
      · cases stepped
  | call number call circumstances =>
      simp only [Fleet.step] at stepped
      split at stepped
      · next idle =>
          cases stepped
          exact numbered.begin idle few
      · cases stepped
  | send number circumstances =>
      simp only [Fleet.step] at stepped
      split at stepped
      · next creation session drawn started =>
          cases stepped
          exact numbered.send drawn few
      · cases stepped
  | hear number =>
      simp only [Fleet.step] at stepped
      split at stepped
      · cases stepped
        exact numbered.hear few
      · cases stepped
  | listen number =>
      cases stepped
      have counters := (fleet.parties number).client.counters_listen
        (Circumstances.calm.meet fleet.broker)
      exact numbered.setBroker (countsTo_of_counters counters) few
  | increment counter =>
      cases stepped
      exact numbered.setBroker (fleet.countsTo_increment counter) few
  | publish channel payload =>
      cases stepped
      exact numbered.setBroker (countsTo_of_counters rfl) few
  | subscribe channel =>
      cases stepped
      exact numbered.setBroker (countsTo_of_counters rfl) few
  | take number =>
      cases stepped
      exact numbered.setBroker (countsTo_of_counters (fleet.broker.counters_take number)) few
  | unsubscribe number =>
      cases stepped
      exact numbered.setBroker (countsTo_of_counters rfl) few

/-- Nothing takes a count of the counter back. -/
theorem increments_le_step {turn : Turn} (stepped : fleet.step turn = some next) :
    fleet.increments ≤ next.increments := by
  cases turn with
  | call number call circumstances =>
      simp only [Fleet.step] at stepped
      split at stepped
      · cases stepped
        cases call with
        | create type switchId attrs =>
            rw [begin, draw]
            split
            · exact increments_le_setBroker _ _
            · exact increments_le_setBroker _ _
        | _ => exact increments_le_setBroker _ _
      · cases stepped
  | start | shutdown | send | hear =>
      simp only [Fleet.step] at stepped
      split at stepped
      · cases stepped
        exact increments_le_setBroker _ _
      · cases stepped
  | _ =>
      cases stepped
      exact increments_le_setBroker _ _

theorem increments_le_play (fleet : Fleet) (turn : Turn) :
    fleet.increments ≤ (fleet.play turn).increments := by
  rw [play]
  cases stepped : fleet.step turn with
  | none => exact Nat.le_refl _
  | some next => exact increments_le_step stepped

theorem playAll_cons (fleet : Fleet) (turn : Turn) (rest : List Turn) :
    fleet.playAll (turn :: rest) = (fleet.play turn).playAll rest := rfl

theorem increments_le_playAll (fleet : Fleet) (turns : List Turn) :
    fleet.increments ≤ (fleet.playAll turns).increments := by
  induction turns generalizing fleet with
  | nil => exact Nat.le_refl _
  | cons turn rest ih => exact Nat.le_trans (fleet.increments_le_play turn) (ih (fleet.play turn))

theorem IsNumbered.play (numbered : fleet.IsNumbered) (turn : Turn)
    (few : (fleet.play turn).increments < UInt64.size) : (fleet.play turn).IsNumbered := by
  rw [Fleet.play] at few ⊢
  cases stepped : fleet.step turn with
  | none => exact numbered
  | some next =>
      rw [stepped] at few
      exact numbered.step stepped few

theorem IsNumbered.playAll (numbered : fleet.IsNumbered) (turns : List Turn)
    (few : (fleet.playAll turns).increments < UInt64.size) :
    (fleet.playAll turns).IsNumbered := by
  induction turns generalizing fleet with
  | nil => exact numbered
  | cons turn rest ih =>
      rw [playAll_cons] at few ⊢
      have soFar := Nat.lt_of_le_of_lt ((fleet.play turn).increments_le_playAll rest) few
      exact ih (numbered.play turn soFar) few

/-- A creation that is refused before it counts leaves the fleet as it was. -/
theorem draw_refused {type : ObjectType} {switchId : ObjectId} {attrs : List Attribute}
    {circumstances : Circumstances}
    (refused : (fleet.parties number).client.session = none ∨ type.isIdAddressed = false ∨
      type ≠ .switch ∧ switchId.type? ≠ some .switch) :
    fleet.draw number type switchId attrs circumstances = fleet := by
  obtain ⟨fault, fails⟩ := Client.draw_refused (circumstances.meet fleet.broker) refused
  rw [draw, fails]
  dsimp only [Circumstances.meet, setBroker]
  rw [if_pos rfl]

/-! ## Creations that nothing comes between -/

/-- The turns of a creation that nothing comes between. -/
def creationTurns (number : Nat) (type : ObjectType) (switchId : ObjectId)
    (attrs : List Attribute) (circumstances : Circumstances) : List Turn :=
  [.call number (.create type switchId attrs) circumstances, .send number circumstances,
    .hear number]

variable {type : ObjectType} {switchId : ObjectId} {attrs : List Attribute}
  {circumstances : Circumstances} {session : Session}

theorem play_create (idle : (fleet.parties number).progress = .idle) :
    fleet.play (.call number (.create type switchId attrs) circumstances) =
      fleet.draw number type switchId attrs circumstances := by
  rw [play, step, idle]
  rfl

theorem play_send (drawn : fleet.HasDrawn number creation)
    (started : (fleet.parties number).client.session = some session) :
    fleet.play (.send number circumstances) =
      fleet.send number session creation circumstances := by
  rw [play, step, drawn, started]
  rfl

theorem play_hear (waiting : (fleet.parties number).progress = .waiting creation)
    (started : (fleet.parties number).client.session = some session) :
    fleet.play (.hear number) = fleet.hear number session creation := by
  rw [play, step, waiting, started]
  rfl

theorem play_send_of_idle (idle : (fleet.parties number).progress = .idle) :
    fleet.play (.send number circumstances) = fleet := by
  rw [play, step, idle]
  rfl

theorem play_hear_of_idle (idle : (fleet.parties number).progress = .idle) :
    fleet.play (.hear number) = fleet := by
  rw [play, step, idle]
  rfl

theorem parties_hear (fleet : Fleet) (number : Nat) (session : Session) (creation : Creation) :
    (fleet.hear number session creation).parties number =
      { fleet.parties number with progress := .idle } :=
  if_pos rfl

/-- Drawing an id changes nothing that is met but the store. -/
theorem meet_of_draw {client : Client} {broker : Broker} {last : Exchange}
    {result : Except Fault (ObjectId × Session)}
    (drawn : client.draw (circumstances.meet broker) type switchId = (result, last)) :
    circumstances.meet last.broker = last := by
  have plain : (circumstances.meet broker).counted = none := rfl
  obtain ⟨fault, fails⟩ | ⟨fault, counts⟩ | ⟨id, session, next, draws, isDrawn⟩ :=
    client.draw_cases type switchId plain
  · obtain ⟨_, rfl⟩ := Prod.mk.inj (fails.symm.trans drawn)
    rfl
  · obtain ⟨_, rfl⟩ := Prod.mk.inj (counts.symm.trans drawn)
    rfl
  · obtain ⟨_, rfl⟩ := Prod.mk.inj (draws.symm.trans drawn)
    cases isDrawn with
    | index => rfl
    | counter => rfl

/-- What a creation hears depends on the store only, and of what is met it changes that alone. -/
theorem hear_eq (session : Session) (exchange : Exchange) (creation : Creation) :
    (session.hear exchange creation).2.broker =
        (session.hear (Circumstances.calm.meet exchange.broker) creation).2.broker ∧
      (session.hear exchange creation).2.sent = exchange.sent := by
  unfold Session.hear Session.await
  cases session.responses with
  | none => exact ⟨rfl, rfl⟩
  | some subscription =>
      dsimp only [Circumstances.meet]
      cases exchange.broker.take subscription with
      | mk payload broker => cases payload <;> exact ⟨rfl, rfl⟩

/-- A party waits for the response to a request that went out, and is idle again otherwise. -/
theorem parties_send (fleet : Fleet) (number : Nat) (session : Session) (creation : Creation)
    (circumstances : Circumstances) :
    (fleet.send number session creation circumstances).parties number =
      { fleet.parties number with
        progress :=
          match (session.send (circumstances.meet fleet.broker) creation.message).1 with
          | .ok () => .waiting creation
          | .error _ => .idle } :=
  if_pos rfl

theorem payloads_send (fleet : Fleet) (number : Nat) (session : Session) (creation : Creation)
    (circumstances : Circumstances) :
    (fleet.send number session creation circumstances).requests.map CreateRequest.payload =
      fleet.requests.map CreateRequest.payload ++
        (session.send (circumstances.meet fleet.broker) creation.message).2.sent := by
  unfold Fleet.send
  dsimp only
  rw [List.map_append, List.map_map]
  exact congrArg (_ ++ ·) (List.map_id _)

/-- The request goes out and its response is taken as in a whole creation. -/
theorem playAll_send_hear (drawn : fleet.HasDrawn number creation)
    (started : (fleet.parties number).client.session = some session) :
    let exchange :=
      match session.send (circumstances.meet fleet.broker) creation.message with
      | (.error _, last) => last
      | (.ok (), sent) => (session.hear sent creation).2
    let after := fleet.playAll [.send number circumstances, .hear number]
    after.broker = exchange.broker ∧
      (after.parties number).client = (fleet.parties number).client ∧
      (after.parties number).progress = .idle ∧
      after.requests.map CreateRequest.payload =
        fleet.requests.map CreateRequest.payload ++ exchange.sent := by
  have party := fleet.parties_send number session creation circumstances
  have payloads := fleet.payloads_send number session creation circumstances
  have broker : (fleet.send number session creation circumstances).broker =
      (session.send (circumstances.meet fleet.broker) creation.message).2.broker := rfl
  have client := congrArg Party.client party
  have progress := congrArg Party.progress party
  rw [playAll_cons, playAll_cons, play_send drawn started]
  cases sends : session.send (circumstances.meet fleet.broker) creation.message with
  | mk result next =>
      rw [sends] at payloads broker
      simp only [sends] at progress
      cases result with
      | error fault =>
          rw [play_hear_of_idle progress]
          exact ⟨broker, client, progress, payloads⟩
      | ok _ =>
          have running := (congrArg Client.session client).trans started
          have ended := (fleet.send number session creation circumstances).parties_hear number
            session creation
          obtain ⟨heard, sent⟩ := hear_eq session next creation
          rw [play_hear progress running]
          dsimp only
          rw [heard, sent, ← broker]
          exact ⟨rfl, (congrArg Party.client ended).trans client, congrArg Party.progress ended,
            payloads⟩

/--
The turns of a creation that nothing comes between do to the store, to the client
and to what is published what the whole creation does.
-/
theorem playAll_creationTurns (idle : (fleet.parties number).progress = .idle) :
    let (_, client, exchange) :=
      (fleet.parties number).client.create (circumstances.meet fleet.broker) type switchId attrs
    let after := fleet.playAll (creationTurns number type switchId attrs circumstances)
    after.broker = exchange.broker ∧ (after.parties number).client = client ∧
      (after.parties number).progress = .idle ∧
      after.requests.map CreateRequest.payload =
        fleet.requests.map CreateRequest.payload ++ exchange.sent := by
  unfold creationTurns
  rw [Client.create_eq, playAll_cons, play_create idle, Fleet.draw]
  cases drawn : (fleet.parties number).client.draw (circumstances.meet fleet.broker) type
      switchId with
  | mk result last =>
      have same := meet_of_draw drawn
      cases result with
      | error fault =>
          have nothing : last.sent = [] := by
            rw [← same]
            rfl
          have still : ((fleet.setBroker last.broker).parties number).progress = .idle := idle
          dsimp only
          rw [playAll_cons, playAll_cons, play_send_of_idle still, play_hear_of_idle still, nothing,
            List.append_nil]
          exact ⟨rfl, rfl, idle, rfl⟩
      | ok pair =>
          obtain ⟨id, session⟩ := pair
          let creation : Creation := ⟨type, switchId, attrs, id⟩
          let party : Party :=
            { fleet.parties number with client := ⟨some session⟩, progress := .drawn creation }
          let first : Fleet := (fleet.setBroker last.broker).setParty number party
          have own : first.parties number = party := if_pos rfl
          have meets : circumstances.meet first.broker = last := same
          obtain ⟨broker, client, progress, requests⟩ :=
            @playAll_send_hear first number creation circumstances session
              (congrArg Party.progress own) (congrArg (fun party => party.client.session) own)
          rw [meets] at broker requests
          rw [own] at client
          dsimp only
          cases sends : session.send last creation.message with
          | mk result next =>
              rw [sends] at broker requests
              cases result with
              | error | ok => exact ⟨broker, client, progress, requests⟩

end Fleet

/-! ## The ids in requests -/

namespace CreateRequest

/-- The id of what a published request asks to create. -/
def id? (request : CreateRequest) : Option ObjectId :=
  match Message.decode request.payload with
  | .error _ => none
  | .ok message =>
      match ObjectKey.parse message.key with
      | .ok (.object id) => if message.op = RequestOp.create.name then some id else none
      | _ => none

/-- The id of what a published request asks to create, unless that is a switch. -/
def objectId? (request : CreateRequest) : Option ObjectId :=
  if request.creation.type = .switch then none else request.id?

/-- The id of the switch that a party asks to create in one of its sessions. -/
def switchId? (party session : Nat) (request : CreateRequest) : Option ObjectId :=
  if request.creation.type = .switch ∧ request.party = party ∧ request.session = session then
    request.id?
  else none

variable {request : CreateRequest}

theorem id?_eq (sound : request.creation.IsSound)
    (payload : request.payload = request.creation.message.encode) :
    request.id? = some request.creation.id := by
  obtain ⟨index, counter, fits, composed, _⟩ := sound.composed
  have typed : request.creation.id.type? = some request.creation.type :=
    composed ▸ ObjectId.type?_compose fits
  have wellFormed : (ObjectKey.object request.creation.id).IsWellFormed :=
    ⟨request.creation.type, typed, sound.addressed⟩
  have parsed : ObjectKey.parse request.creation.message.key = .ok request.creation.key :=
    ObjectKey.parse_text wellFormed
  rw [id?, payload, Message.decode_encode]
  dsimp only
  rw [parsed]
  exact if_pos rfl

theorem serial_of_ne_switch (other : request.creation.type ≠ .switch) :
    request.serial = .counted request.creation.id.counter := by
  rw [serial, Creation.serial, if_neg other]

theorem serial_of_eq_switch (switch : request.creation.type = .switch) :
    request.serial =
      .indexed request.party request.session request.creation.id.switchIndex := by
  rw [serial, Creation.serial, if_pos switch]

theorem objectId?_eq_some {id : ObjectId} (sound : request.creation.IsSound)
    (payload : request.payload = request.creation.message.encode)
    (named : request.objectId? = some id) : request.serial = .counted id.counter := by
  rw [objectId?] at named
  split at named
  · cases named
  · next other =>
      rw [id?_eq sound payload] at named
      cases named
      exact serial_of_ne_switch other

theorem switchId?_eq_some {id : ObjectId} {party session : Nat} (sound : request.creation.IsSound)
    (payload : request.payload = request.creation.message.encode)
    (named : request.switchId? party session = some id) :
    request.serial = .indexed party session id.switchIndex := by
  rw [switchId?] at named
  split at named
  · next isThere =>
      obtain ⟨switch, rfl, rfl⟩ := isThere
      rw [id?_eq sound payload] at named
      cases named
      exact serial_of_eq_switch switch
  · cases named

end CreateRequest

namespace Fleet

variable {fleet : Fleet}

/-- Ids that give away the serials of their creations are read off requests once each. -/
theorem IsNumbered.nodup_filterMap (numbered : fleet.IsNumbered)
    {read : CreateRequest → Option ObjectId} {serial : ObjectId → Serial}
    (tells : ∀ request ∈ fleet.requests, ∀ id, read request = some id →
      request.serial = serial id) :
    (fleet.requests.filterMap read).Nodup := by
  have apart : fleet.requests.Pairwise fun first second =>
      ∀ id, read first = some id → ∀ other, read second = some other → id ≠ other := by
    refine List.Pairwise.imp_of_mem ?_ numbered.apart
    intro first second member alsoMember different id named other alsoNamed same
    apply different
    rw [tells first member id named, tells second alsoMember other alsoNamed, same]
  exact List.pairwise_filterMap.mpr apart

/--
Whatever clients on one store do, and whatever they meet: as long as the counter
of ids does not overflow, the ids of objects in the published requests for their
creation are all different.  Each says what was asked for, on which switch, and has a
counter that fits.  The ids of switches in requests of one session are all different,
too.  A creation that is refused at once, because the client is not started, because
the type is not addressed by id, or because the id given for the switch is that of none,
changes neither the client nor the store, and nothing is published.  A creation whose
turns follow one another is the creation of the client as a whole.
-/
theorem ids_in_requests_are_unique (turns : List Turn)
    (few : (fresh.playAll turns).increments < UInt64.size) :
    ((fresh.playAll turns).requests.filterMap CreateRequest.objectId?).Nodup ∧
      (∀ request ∈ (fresh.playAll turns).requests, request.creation.type ≠ .switch →
        ∃ counter < ObjectId.counterLimit,
          request.id? = some (.compose request.creation.switchId.switchIndex
            request.creation.type counter)) ∧
      (∀ party session,
        ((fresh.playAll turns).requests.filterMap
          (CreateRequest.switchId? party session)).Nodup) ∧
      (∀ party type switchId attrs circumstances,
        let fleet := fresh.playAll turns
        let client := (fleet.parties party).client
        let exchange := circumstances.meet fleet.broker
        (client.session = none ∨ type.isIdAddressed = false ∨
            type ≠ .switch ∧ (switchId = .null ∨ switchId.type? ≠ some .switch)) →
          (∃ fault, client.create exchange type switchId attrs = (.error fault, client, exchange)) ∧
            fleet.play (.call party (.create type switchId attrs) circumstances) = fleet) ∧
      ∀ party type switchId attrs circumstances,
        let fleet := fresh.playAll turns
        (fleet.parties party).progress = .idle →
          let (_, client, exchange) := (fleet.parties party).client.create
            (circumstances.meet fleet.broker) type switchId attrs
          let after := fleet.playAll (creationTurns party type switchId attrs circumstances)
          after.broker = exchange.broker ∧ (after.parties party).client = client ∧
            (after.parties party).progress = .idle ∧
            after.requests.map CreateRequest.payload =
              fleet.requests.map CreateRequest.payload ++ exchange.sent := by
  have numbered : (fresh.playAll turns).IsNumbered := isNumbered_fresh.playAll turns few
  generalize fresh.playAll turns = fleet at *
  refine ⟨?_, ?_, ?_, ?_, fun _ _ _ _ _ => playAll_creationTurns⟩
  · apply numbered.nodup_filterMap
    intro request member id named
    obtain ⟨sound, payload⟩ := numbered.sound request member
    exact CreateRequest.objectId?_eq_some sound payload named
  · intro request member other
    obtain ⟨sound, payload⟩ := numbered.sound request member
    obtain ⟨index, counter, fits, composed, onSwitch⟩ := sound.composed
    refine ⟨counter, fits, ?_⟩
    rw [CreateRequest.id?_eq sound payload, composed, onSwitch other]
  · intro party session
    apply numbered.nodup_filterMap
    intro request member id named
    obtain ⟨sound, payload⟩ := numbered.sound request member
    exact CreateRequest.switchId?_eq_some sound payload named
  · intro party type switchId attrs circumstances fleet client exchange refused
    have noSwitch : client.session = none ∨ type.isIdAddressed = false ∨
        type ≠ .switch ∧ switchId.type? ≠ some .switch := by
      obtain idle | unaddressed | ⟨other, rfl | wrong⟩ := refused
      · exact .inl idle
      · exact .inr (.inl unaddressed)
      · exact .inr (.inr ⟨other, by decide⟩)
      · exact .inr (.inr ⟨other, wrong⟩)
    refine ⟨?_, ?_⟩
    · obtain ⟨fault, fails⟩ := Client.draw_refused exchange noSwitch
      refine ⟨fault, ?_⟩
      rw [Client.create_eq, fails]
    · rw [play, step]
      split
      · exact draw_refused noSwitch
      · rfl

/--
Two clients draw ids of ports, of which one is lost with its request, and one of
them is shut down and started again.
-/
def overlapping : List Turn :=
  [.start 0 (.ofProfile ∅) false .calm, .start 1 (.ofProfile ∅) false .calm,
    .call 0 (.create .switch .null []) .calm, .send 0 .calm, .hear 0,
    .call 0 (.create .port (.ofSwitchIndex 0) []) .calm,
    .call 1 (.create .port (.ofSwitchIndex 0) []) .calm, .send 1 .calm, .hear 1,
    .send 0 ⟨[], [(.publish, .command)], []⟩, .shutdown 0,
    .start 0 (.ofProfile ∅) false .calm, .call 0 (.create .switch .null []) .calm,
    .send 0 .calm, .hear 0, .call 0 (.create .vlan (.ofSwitchIndex 0) []) .calm, .send 0 .calm]

theorem ids_of_overlapping :
    (fresh.playAll overlapping).requests.filterMap CreateRequest.objectId? =
        [.compose 0 .port 2, .compose 0 .vlan 3] ∧
      ((fresh.playAll overlapping).requests.filterMap CreateRequest.objectId?).Nodup ∧
      (fresh.playAll overlapping).play
          (.call 1 (.create .vlan (.compose 0 .port 2) []) .calm) =
        fresh.playAll overlapping := by
  have few : (fresh.playAll overlapping).increments < UInt64.size := by decide +kernel
  obtain ⟨distinct, _, _, refused, _⟩ := ids_in_requests_are_unique overlapping few
  have noSwitch : ObjectId.type? (.compose 0 .port 2) ≠ some .switch := by decide +kernel
  refine ⟨by decide +kernel, distinct, ?_⟩
  exact (refused 1 .vlan (.compose 0 .port 2) [] .calm
    (.inr (.inr ⟨by decide, .inr noSwitch⟩))).2

end Fleet

end Remote

end SwitchAbstraction
