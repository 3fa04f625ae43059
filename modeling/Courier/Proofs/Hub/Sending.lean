import Courier.Proofs.Hub.Fanout
import Courier.Proofs.Hub.Names
import Courier.Proofs.Message.Copy

/-!
# Sending

A producer's send goes through when the producer is open and has one destination to send to, the
settings are in range, the body has a copy, and the broker is in reach and knows the destination.
Then the header of the message is stamped and a delivery of a copy starts. Otherwise nothing has
happened.
-/

namespace Courier

set_option autoImplicit false

/-- The settings a send goes by: those of the producer unless others are asked for. -/
inductive Quality.Effective (own : Quality) : Option QualityRequest → Quality → Prop
  | own : Effective own none own
  | asked {r : QualityRequest} {q : Quality} (mode : q.deliveryMode = r.deliveryMode)
      (priority : (q.priority.toNat : Int) = r.priority) (atMost : r.priority ≤ 9)
      (timeToLive : q.timeToLive = r.timeToLive) (nonneg : 0 ≤ r.timeToLive.toInt) :
      Effective own (some r) q

/-- The header after a send at the time `now`. -/
structure Header.Stamped (header stamped : Header) (token : String) (now : Int64)
    (target : Destination) (q : Quality) : Prop where
  messageId : stamped.messageId = some ("ID:" ++ token)
  timestamp : stamped.timestamp = now
  destination : stamped.destination = some target
  deliveryMode : stamped.deliveryMode = q.deliveryMode
  priority : stamped.priority = q.priority
  redelivered : stamped.redelivered = false
  unlimited : q.timeToLive = 0 → stamped.expiration = 0
  limited : q.timeToLive ≠ 0 → stamped.expiration.toInt =
    max minLong (min maxLong (now.toInt + q.timeToLive.toInt))
  correlationId : stamped.correlationId = header.correlationId
  type : stamped.type = header.type
  replyTo : stamped.replyTo = header.replyTo

theorem toInt_saturatingAdd (a b : Int64) :
    (saturatingAdd a b).toInt = max minLong (min maxLong (a.toInt + b.toInt)) := by
  have upper : minLong ≤ maxLong := by decide
  have least : -2 ^ 63 = minLong := by decide
  have most : (2 ^ 63 : Int) = maxLong + 1 := by decide
  apply Int64.toInt_ofInt_of_le
  · rw [least]
    exact Int.le_max_left _ _
  · rw [most]
    omega

theorem checkPriority_ok {n : Int} {priority : UInt8} (checked : checkPriority n = .ok priority) :
    (priority.toNat : Int) = n ∧ n ≤ 9 := by
  unfold checkPriority at checked
  split at checked
  · rename_i inRange
    simp only [Bool.and_eq_true, decide_eq_true_eq] at inRange
    cases checked
    have small : n.toNat < UInt8.size := by
      have size : UInt8.size = 256 := rfl
      omega
    rw [UInt8.toNat_ofNat_of_lt' small]
    omega
  · cases checked

theorem checkPriority_of_le {priority : UInt8} (atMost : priority.toNat ≤ 9) :
    checkPriority priority.toNat = .ok priority := by
  have inRange : (0 ≤ (priority.toNat : Int) && (priority.toNat : Int) ≤ 9) = true := by
    simp only [Bool.and_eq_true, decide_eq_true_eq]
    omega
  rw [checkPriority, if_pos inRange, Int.toNat_natCast, UInt8.ofNat_toNat]

theorem checkTimeToLive_ok {ttl ttl' : Int64} :
    checkTimeToLive ttl = .ok ttl' ↔ ttl' = ttl ∧ 0 ≤ ttl.toInt := by
  unfold checkTimeToLive
  split
  · rename_i negative
    constructor
    · intro failed
      cases failed
    · rintro ⟨-, nonneg⟩
      omega
  · rename_i nonneg
    constructor
    · intro done
      cases done
      exact ⟨rfl, Int.not_lt.mp nonneg⟩
    · rintro ⟨rfl, -⟩
      rfl

theorem QualityRequest.check_ok {r : QualityRequest} {q : Quality} (own : Quality) :
    r.check = .ok q ↔ Quality.Effective own (some r) q := by
  constructor
  · intro checked
    obtain ⟨priority, inRange, checked⟩ := ok_of_bind checked
    obtain ⟨ttl, lasting, checked⟩ := ok_of_bind checked
    obtain ⟨same, atMost⟩ := checkPriority_ok inRange
    obtain ⟨rfl, nonneg⟩ := checkTimeToLive_ok.mp lasting
    cases checked
    exact .asked rfl same atMost rfl nonneg
  · intro effective
    cases effective with
    | asked mode priority atMost timeToLive nonneg =>
      have inRange : checkPriority r.priority = .ok q.priority := by
        rw [← priority]
        apply checkPriority_of_le
        omega
      have lasting := checkTimeToLive_ok.mpr ⟨timeToLive, nonneg⟩
      rw [check, inRange]
      show (checkTimeToLive r.timeToLive >>= _) = _
      rw [lasting]
      show Except.ok _ = Except.ok _
      rw [← mode]

def Quality.choose (own : Quality) : Option QualityRequest → Except Error Quality
  | some r => r.check
  | none => .ok own

theorem Quality.choose_ok {own q : Quality} {request : Option QualityRequest} :
    own.choose request = .ok q ↔ own.Effective request q := by
  cases request with
  | some r => exact QualityRequest.check_ok own
  | none =>
    constructor
    · intro done
      cases done
      exact .own
    · intro effective
      cases effective
      rfl

theorem Header.setMessageId_of_mark (header : Header) (token : String) :
    header.setMessageId (some ("ID:" ++ token)) =
      .ok { header with messageId := some ("ID:" ++ token) } := by
  have marked : idMark.isPrefixOf ("ID:" ++ token).toList = true := by
    rw [String.toList_append]
    rfl
  rw [setMessageId, if_pos marked]

theorem Header.exists_stamp (header : Header) (token : String) (now : Int64)
    (target : Destination) {q : Quality} (atMost : q.priority.toNat ≤ 9) :
    ∃ stamped, header.stamp token now target q = .ok stamped ∧
      header.Stamped stamped token now target q := by
  refine ⟨{ header with
    messageId := some ("ID:" ++ token)
    timestamp := now
    expiration := expirationOf now q.timeToLive
    destination := some target
    deliveryMode := q.deliveryMode
    priority := q.priority
    redelivered := false }, ?_, ?_⟩
  · rw [stamp, setMessageId_of_mark]
    show (setPriority _ _ >>= _) = _
    rw [setPriority, checkPriority_of_le atMost]
    rfl
  · refine ⟨rfl, rfl, rfl, rfl, rfl, rfl, ?_, ?_, rfl, rfl, rfl⟩
    · intro none
      exact if_pos none
    · intro some
      rw [← toInt_saturatingAdd]
      exact congrArg Int64.toInt (if_neg some)

theorem Header.le_of_stamp {header stamped : Header} {token : String} {now : Int64}
    {target : Destination} {q : Quality} (done : header.stamp token now target q = .ok stamped) :
    q.priority.toNat ≤ 9 := by
  obtain ⟨marked, -, done⟩ := ok_of_bind done
  obtain ⟨ranked, set, -⟩ := ok_of_bind done
  obtain ⟨priority, checked, -⟩ := ok_of_bind set
  have atMost := (checkPriority_ok checked).2
  omega

namespace Hub

variable {L : Type} {h h' : Hub L} {p : ProducerId} {goal : Option Destination} {m m' : Message}
  {request : Option QualityRequest} {now : Int64} {target : Destination} {q : Quality}
  {b : BrokerId}

def given (h : Hub L) : List String := (List.range h.minted).map uniqueName

theorem mint_fresh (h : Hub L) : uniqueName h.minted ∉ h.given := by
  intro mem
  obtain ⟨n, earlier, same⟩ := List.mem_map.mp mem
  rw [uniqueName_injective same, List.mem_range] at earlier
  omega

theorem given_mint (h : Hub L) : h.mint.2.given = h.given ++ [uniqueName h.minted] := by
  have next : h.mint.2.given = (List.range (h.minted + 1)).map uniqueName := rfl
  rw [next, List.range_succ, List.map_append]
  rfl

/-- Sends a message, and tells how that ended and what the sender's message is afterwards. -/
def sendInPlace (h : Hub L) (p : ProducerId) (goal : Option Destination) (m : Message)
    (request : Option QualityRequest) (now : Int64) : Except Error Unit × Message × Hub L :=
  match h.send p goal m request now with
  | .ok (m', h') => (.ok (), m', h')
  | .error e => (.error e, m, h)

/-- All that a send to `target` with the settings `q` on the broker `b` needs. -/
structure Sendable (h : Hub L) (p : ProducerId) (goal : Option Destination) (m : Message)
    (request : Option QualityRequest) (target : Destination) (q : Quality) (b : BrokerId) :
    Prop where
  opened : (h.producer p).closed = false
  session : (h.session (h.producer p).session).isOpen = true
  towards : (h.producer p).destination = some target ∧ goal = none ∨
    (h.producer p).destination = none ∧ goal = some target
  quality : (h.producer p).quality.Effective request q
  priority : q.priority.toNat ≤ 9
  fits : ¬ m.body.Unencodable
  reached : h.linked (h.sessionLink (h.producer p).session) = .ok b
  known : (h.broker b).interned target = true

theorem ensureProducerOpen_ok : h.ensureProducerOpen p = .ok () ↔
    (h.producer p).closed = false ∧ (h.session (h.producer p).session).isOpen = true := by
  unfold ensureProducerOpen ensureSessionOpen
  cases (h.producer p).closed <;> cases (h.session (h.producer p).session).isOpen <;> simp

theorem sendTarget_ok {bound : Option Destination} : sendTarget bound goal = .ok target ↔
    bound = some target ∧ goal = none ∨ bound = none ∧ goal = some target := by
  cases bound <;> cases goal <;> simp [sendTarget]

/-- The part of a send that comes after the choice of destination and settings. -/
def sendAs (h : Hub L) (p : ProducerId) (m : Message) (now : Int64) (target : Destination)
    (q : Quality) : Except Error (Message × Hub L) := do
  let header ← m.header.stamp (uniqueName h.minted) now target q
  let frozen ← m.deliveryCopy
  let (_, h) ← h.mint.2.publishVia (h.sessionLink (h.producer p).session) target
    { frozen with header } (some p)
  return ({ m with header }, h)

theorem send_eq (h : Hub L) (p : ProducerId) (goal : Option Destination) (m : Message)
    (request : Option QualityRequest) (now : Int64) :
    h.send p goal m request now = (do
      h.ensureProducerOpen p
      let target ← sendTarget (h.producer p).destination goal
      let q ← (h.producer p).quality.choose request
      h.sendAs p m now target q) := by
  cases request <;> rfl

theorem sendable_of_ok (done : h.send p goal m request now = .ok (m', h')) :
    ∃ target q b, h.Sendable p goal m request target q b := by
  rw [send_eq] at done
  obtain ⟨_, checked, done⟩ := ok_of_bind done
  obtain ⟨target, towards, done⟩ := ok_of_bind done
  obtain ⟨q, chosen, done⟩ := ok_of_bind done
  obtain ⟨header, stamped, done⟩ := ok_of_bind done
  obtain ⟨frozen, copied, done⟩ := ok_of_bind done
  obtain ⟨_, published, -⟩ := ok_of_bind done
  obtain ⟨b, reached, published⟩ := ok_of_bind published
  obtain ⟨endpoints, snapshot, -⟩ := ok_of_bind published
  obtain ⟨opened, session⟩ := ensureProducerOpen_ok.mp checked
  exact ⟨target, q, b, {
    opened, session, reached
    towards := sendTarget_ok.mp towards
    quality := Quality.choose_ok.mp chosen
    priority := Header.le_of_stamp stamped
    fits := (Message.deliveryCopy_ok copied).1
    known := (Broker.endpoints_ok snapshot).1 }⟩

theorem send_of_sendable (sendable : h.Sendable p goal m request target q b) (now : Int64) :
    h.send p goal m request now = h.sendAs p m now target q := by
  rw [send_eq, ensureProducerOpen_ok.mpr ⟨sendable.opened, sendable.session⟩,
    sendTarget_ok.mpr sendable.towards, Quality.choose_ok.mpr sendable.quality]
  generalize h.sendAs p m now = rest
  rfl

/-- A send that lacks nothing starts the delivery of a copy with the new header. -/
theorem exists_send (sendable : h.Sendable p goal m request target q b) (now : Int64) :
    ∃ header copy, m.header.Stamped header (uniqueName h.minted) now target q ∧
      Message.CopyOf { m with header } copy ∧
      h.send p goal m request now = .ok ({ m with header }, h.mint.2.starting copy
        (((h.broker b).registrations target).map (·.endpoint)) (some p)) := by
  obtain ⟨header, stamped, spec⟩ :=
    m.header.exists_stamp (uniqueName h.minted) now target sendable.priority
  obtain ⟨frozen, copied, faithful⟩ := Message.exists_deliveryCopy sendable.fits
  refine ⟨header, { frozen with header }, spec,
    ⟨rfl, faithful.values, faithful.readOnly, faithful.body⟩, ?_⟩
  have reached : h.mint.2.linked (h.sessionLink (h.producer p).session) = .ok b := sendable.reached
  have known : (h.mint.2.broker b).interned target = true := sendable.known
  have published := publishVia_of_linked reached known { frozen with header } (some p)
  rw [send_of_sendable sendable, sendAs, stamped]
  show (m.deliveryCopy >>= _) = _
  rw [copied]
  show (publishVia _ _ _ _ _ >>= _) = _
  rw [published]
  rfl

/-- A send that lacks something fails, and then the message and the hub are as they were. One that
lacks nothing goes through. The message then has a new header and is otherwise as it was; a copy
with the same header is on its way, and brokers have not changed. Left to itself that delivery ends,
and however it is carried to its end, it has handed the copy once to each endpoint that was
registered on the target when the send began: it notifies the application's own listeners and, if
the hub before the send can come about, serves the consumers. -/
theorem send_all_or_nothing (h : Hub L) (p : ProducerId) (goal : Option Destination) (m : Message)
    (request : Option QualityRequest) (now : Int64) :
    ((¬ ∃ target q b, h.Sendable p goal m request target q b) →
      ∃ e, h.sendInPlace p goal m request now = (.error e, m, h) ∧
        h.perform (.send p goal m request now) = (.error e, h)) ∧
    ∀ target q b, h.Sendable p goal m request target q b →
      ∃ m' h' token copy, h.sendInPlace p goal m request now = (.ok (), m', h') ∧
        h.perform (.send p goal m request now) = (.ok (), h') ∧
        m' = { m with header := m'.header } ∧
        token ∉ h.given ∧ h'.given = h.given ++ [token] ∧
        m.header.Stamped m'.header token now target q ∧
        Message.CopyOf m' copy ∧ h'.brokers = h.brokers ∧
        h'.Completes h.deliveries.length
          (List.replicate (((h.broker b).registrations target).length + 1) (.event .turn)) ∧
        ∀ moves, h'.Completes h.deliveries.length moves →
          h'.calls h.deliveries.length moves =
              ((h.broker b).registrations target).map (fun r => (r.endpoint, copy)) ∧
            (h'.play moves).deliveries = h.deliveries ∧
            ∀ before after, moves = before ++ .event .turn :: after →
              (h'.play before).Notifies ∧ (h.Reachable → (h'.play before).ServesNext) := by
  constructor
  · intro lacking
    cases outcome : h.send p goal m request now with
    | error e =>
      refine ⟨e, ?_, ?_⟩
      · rw [sendInPlace, outcome]
      · rw [perform, outcome, adopt]
    | ok sent => exact absurd (sendable_of_ok outcome) lacking
  · intro target q b sendable
    obtain ⟨header, copy, stamped, copied, sent⟩ := exists_send sendable now
    generalize listed : ((h.broker b).registrations target).map (·.endpoint) = endpoints at sent
    refine ⟨{ m with header }, h.mint.2.starting copy endpoints (some p), uniqueName h.minted, copy,
      ?_, ?_, rfl, mint_fresh h, given_mint h, stamped, copied, rfl, ?_, ?_⟩
    · rw [sendInPlace, sent]
    · rw [perform, sent, adopt]
    · have alone := completes_of_starting h.mint.2 copy endpoints (some p)
      rwa [← listed, List.length_map, listed] at alone
    · intro moves completes
      obtain ⟨called, left⟩ := calls_of_starting (h := h.mint.2) completes
      refine ⟨called.trans ?_, left, ?_⟩
      · rw [← listed, List.map_map]
        rfl
      · intro before after _
        refine ⟨notifies _, ?_⟩
        intro reachable
        exact reachable.servesNext (send_changes sent) before

deriving instance DecidableEq for Endpoint

def sampleInbox : Destination := { name := "q", kind := .queue }

/-- A session with two consumers on a queue, of which the second listens, and an unbound producer.
A listener of the application is on the queue as well. -/
def sampleOffice : Hub Nat :=
  played [.event (.request .addRegistry), .event (.request .addDirectory),
    .event (.request (.registerProvider 0 0)),
    .event (.request (.connect { registry := 0, url := "vm://main" } none)),
    .event (.request (.createSession 0 false .autoAcknowledge)),
    .event (.request (.createDestination 0 "q" .queue)),
    .event (.request (.createConsumer 0 (some sampleInbox))),
    .event (.request (.createConsumer 0 (some sampleInbox))),
    .event (.request (.setListener 1 (some 7))), .ask 0 (.register sampleInbox "own" "me" 8),
    .event (.request (.createProducer 0 none))]

def sampleRequest : QualityRequest := ⟨.nonPersistent, 9, 9223372036854775807⟩

def sampleSent : Hub Nat :=
  (sampleOffice.sendInPlace 0 (some sampleInbox) (.ofText (some "hello"))
    (some sampleRequest) 5).2.2

/-- While it is being told, the second consumer takes the application's listener off the queue. -/
def sampleDispatch : List (Move Nat) :=
  [.event .turn, .event .turn, .ask 0 (.unregister sampleInbox "own"), .event .turn, .event .turn]

/-- All three get the message, which lives as long as can be told. The first consumer has it in its
mailbox, and the listener of the second one hears it. -/
theorem send_all_or_nothing_lasting :
    sampleOffice.Sendable 0 (some sampleInbox) (.ofText (some "hello")) (some sampleRequest)
      sampleInbox ⟨.nonPersistent, 9, 9223372036854775807⟩ 0 ∧
    ∃ m' copy, sampleOffice.sendInPlace 0 (some sampleInbox) (.ofText (some "hello"))
        (some sampleRequest) 5 = (.ok (), m', sampleSent) ∧
      m'.header.expiration.toInt = maxLong ∧ Message.CopyOf m' copy ∧
      sampleSent.Completes 0 sampleDispatch ∧
      sampleSent.calls 0 sampleDispatch = [(.consumer 0 sampleInbox, copy),
        (.consumer 1 sampleInbox, copy), (.listener 8, copy)] ∧
      sampleOffice.Reachable ∧
      (∃ x, sampleSent.advance = some (.stored 0, x) ∧
        (x.consumer 0).queue sampleInbox = [copy]) ∧
      ∃ x, (sampleSent.step (.event .turn)).advance = some (.notified 7 copy, x) := by
  obtain ⟨opened, session, towards, reached, known, quiet, listed⟩ :
      (sampleOffice.producer 0).closed = false ∧
      (sampleOffice.session (sampleOffice.producer 0).session).isOpen = true ∧
      ((sampleOffice.producer 0).destination = some sampleInbox ∧ some sampleInbox = none ∨
        (sampleOffice.producer 0).destination = none ∧ some sampleInbox = some sampleInbox) ∧
      (sampleOffice.findBroker
          (sampleOffice.sessionLink (sampleOffice.producer 0).session).directory
          (sampleOffice.sessionLink (sampleOffice.producer 0).session).brokerName = some 0 ∧
        0 = (sampleOffice.sessionLink (sampleOffice.producer 0).session).broker) ∧
      (sampleOffice.broker 0).interned sampleInbox = true ∧
      sampleOffice.deliveries.length = 0 ∧
      ((sampleOffice.broker 0).registrations sampleInbox).map (·.endpoint) =
        [.consumer 0 sampleInbox, .consumer 1 sampleInbox, .listener 8] := by
    decide +kernel
  have sendable : sampleOffice.Sendable 0 (some sampleInbox) (.ofText (some "hello"))
      (some sampleRequest) sampleInbox ⟨.nonPersistent, 9, 9223372036854775807⟩ 0 := {
    opened, session, towards, known
    reached := linked_ok.mpr reached
    quality := .asked rfl rfl (by decide) rfl (by decide)
    priority := by decide
    fits := id }
  have reachable : sampleOffice.Reachable := ⟨_, rfl⟩
  obtain ⟨m', h', token, copy, sent, -, -, -, -, stamped, copied, -, -, carried⟩ :=
    (send_all_or_nothing sampleOffice 0 (some sampleInbox) (.ofText (some "hello"))
      (some sampleRequest) 5).2 _ _ _ sendable
  obtain rfl : sampleSent = h' := congrArg (·.2.2) sent
  obtain ⟨completes, here, waits, deaf, empty, here', waits', listens⟩ :
      sampleSent.Completes 0 sampleDispatch ∧
      sampleSent.deliveries.length = 1 ∧ sampleSent.nextCall.isSome = true ∧
      ((sampleSent.consumer 0).closed = false ∧ (sampleSent.consumer 0).listener = none) ∧
      ((sampleSent.consumer 0).queue sampleInbox).length = 0 ∧
      (sampleSent.step (.event .turn)).deliveries.length = 1 ∧
      (sampleSent.step (.event .turn)).nextCall.isSome = true ∧
      ((sampleSent.step (.event .turn)).consumer 1).closed = false ∧
      ((sampleSent.step (.event .turn)).consumer 1).listener = some 7 := by
    decide +kernel
  have paired := congrArg (List.map (·, copy)) listed
  rw [List.map_map] at paired
  rw [quiet] at carried
  obtain ⟨calls, -, turns⟩ := carried _ completes
  have calls := calls.trans paired
  obtain ⟨first, later⟩ := nextCall_of_calls here waits calls
  obtain ⟨second, -⟩ := nextCall_of_calls here' waits' later
  refine ⟨sendable, m', copy, sent, ?_, copied, completes, calls, reachable, ?_, ?_⟩
  · rw [stamped.limited (by decide)]
    decide
  · have serves := (turns [] _ rfl).2 reachable _ _ _ first
    obtain ⟨x, stored, -, queues⟩ := serves.stored deaf.1 deaf.2
    refine ⟨x, stored, ?_⟩
    have queue : (x.consumer 0).queue sampleInbox =
        (sampleSent.consumer 0).queue sampleInbox ++ [copy] :=
      (queues sampleInbox).trans (if_pos rfl)
    rw [queue, List.eq_nil_of_length_eq_zero empty, List.nil_append]
  · have serves := (turns [.event .turn] _ rfl).2 reachable _ _ _ second
    obtain ⟨x, told, -⟩ := serves.told 7 listens.1 listens.2
    exact ⟨x, told⟩

end Hub

end Courier
