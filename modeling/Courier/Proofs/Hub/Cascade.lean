import Courier.Proofs.Hub.Holdings
import Courier.Proofs.Hub.NotedClosing

/-!
# Closing cascades

Closing a connection closes its sessions, and closing a session closes its producers and consumers,
also when a listener does so in the middle of a delivery. What has closed stays closed, refuses all
that is asked of it, and can be closed once more without any effect.
-/

namespace Courier

set_option autoImplicit false

/-- The part that a request has to find open. -/
def Request.needs? {L : Type} : Request L → Option Part
  | .start c | .stop c | .setClientId c _ | .createSession c _ _ => some (.connection c)
  | .closeSession s | .createDestination s _ _ | .createTemporary s _ | .deleteTemporary s _
  | .createProducer s _ | .createConsumer s _ => some (.session s)
  | .setDeliveryMode p _ | .setPriority p _ | .setTimeToLive p _ | .configure p _
  | .setDisableMessageId p _ | .setDisableTimestamp p _ | .send p _ _ _ _ => some (.producer p)
  | .setListener k _ | .receive k | .receiveFrom k _ => some (.consumer k)
  | _ => none

/-- The part that a request closes, if it may be closed already. -/
def Request.closes? {L : Type} : Request L → Option Part
  | .closeConnection c => some (.connection c)
  | .closeProducer p => some (.producer p)
  | .closeConsumer k => some (.consumer k)
  | _ => none

/-- What can be asked without changing anything. -/
inductive Query
  | clientId (c : ConnectionId)
  | metadata (c : ConnectionId)
  | createMessage (s : SessionId) (kind : MessageKind)
  | createTextMessage (s : SessionId) (text : Option String)
  | transaction (s : SessionId) (step : TransactionStep)

def Query.needs : Query → Part
  | .clientId c | .metadata c => .connection c
  | .createMessage s _ | .createTextMessage s _ | .transaction s _ => .session s

namespace Hub

variable {L : Type} {h h' : Hub L}

/-- How a query ends. -/
def inquire (h : Hub L) : Query → Except Error Unit
  | .clientId c => (h.clientId c).map fun _ => ()
  | .metadata c => (h.metadata c).map fun _ => ()
  | .createMessage s kind => (h.createMessage s kind).map fun _ => ()
  | .createTextMessage s text => (h.createTextMessage s text).map fun _ => ()
  | .transaction s step => h.transaction s step

/-- Nothing is open in a session that is shut. -/
theorem Produced.shut (produced : Produced h) {p : ProducerId}
    (shut : h.Shut (.session (h.producer p).session)) : h.Shut (.producer p) := by
  cases opened : (h.producer p).closed with
  | true => exact opened
  | false => exact absurd ((produced p opened).symm.trans shut) (by simp)

theorem Sealed.shut (sealed : Sealed h) {k : ConsumerId}
    (shut : h.Shut (.session (h.consumer k).session)) : h.Shut (.consumer k) := by
  cases opened : (h.consumer k).closed with
  | true => exact opened
  | false => exact absurd ((sealed k opened).symm.trans shut) (by simp)

/-! What is closed refuses. -/

theorem ensureConnectionOpen_of_shut {c : ConnectionId} (shut : h.Shut (.connection c)) :
    h.ensureConnectionOpen c = .error .connectionClosed := if_pos shut

theorem ensureSessionOpen_of_shut {s : SessionId} (shut : h.Shut (.session s)) :
    h.ensureSessionOpen s = .error .sessionClosed := by
  have shut : (h.session s).isOpen = false := shut
  rw [ensureSessionOpen, shut]
  rfl

theorem ensureProducerOpen_of_shut {p : ProducerId} (shut : h.Shut (.producer p)) :
    h.ensureProducerOpen p = .error .producerClosed := if_pos shut

theorem ensureConsumerOpen_of_shut {k : ConsumerId} (shut : h.Shut (.consumer k)) :
    h.ensureConsumerOpen k = .error .consumerClosed := if_pos shut

/-- An operation that fails its first check changes nothing. -/
theorem adopt_refused {α β : Type} {check : Except Error α} {e : Error}
    (failed : check = .error e) (f : α → Except Error (β × Hub L)) :
    h.adopt (check >>= f) = (.error e, h) := by
  rw [failed]
  rfl

theorem adoptHub_refused {α : Type} {check : Except Error α} {e : Error} (failed : check = .error e)
    (f : α → Except Error (Hub L)) : h.adoptHub (check >>= f) = (.error e, h) := by
  rw [failed]
  rfl

theorem map_refused {α : Type} {check : Except Error Unit} {e : Error} (failed : check = .error e)
    (f : Unit → Except Error α) : ((check >>= f).map fun _ => ()) = .error e := by
  rw [failed]
  rfl

theorem perform_refused {r : Request L} {part : Part} (needs : r.needs? = some part)
    (shut : h.Shut part) : ∃ e, h.perform r = (.error e, h) ∧ e.kind = .illegalState := by
  cases r with
  | start | stop | setClientId =>
    cases needs
    exact ⟨_, adoptHub_refused (ensureConnectionOpen_of_shut shut) _, rfl⟩
  | createSession =>
    cases needs
    exact ⟨_, adopt_refused (ensureConnectionOpen_of_shut shut) _, rfl⟩
  | closeSession s =>
    cases needs
    have shut : (h.session s).isOpen = false := shut
    refine ⟨.sessionAlreadyClosed, ?_, rfl⟩
    rw [perform, closeSession, shut]
    rfl
  | deleteTemporary =>
    cases needs
    exact ⟨_, adoptHub_refused (ensureSessionOpen_of_shut shut) _, rfl⟩
  | createDestination | createTemporary | createProducer | createConsumer =>
    cases needs
    exact ⟨_, adopt_refused (ensureSessionOpen_of_shut shut) _, rfl⟩
  | setDeliveryMode | setPriority | setTimeToLive | configure | setDisableMessageId
  | setDisableTimestamp =>
    cases needs
    exact ⟨_, adoptHub_refused (ensureProducerOpen_of_shut shut) _, rfl⟩
  | send =>
    cases needs
    exact ⟨_, adopt_refused (ensureProducerOpen_of_shut shut) _, rfl⟩
  | setListener =>
    cases needs
    exact ⟨_, adoptHub_refused (ensureConsumerOpen_of_shut shut) _, rfl⟩
  | receive | receiveFrom =>
    cases needs
    exact ⟨_, adopt_refused (ensureConsumerOpen_of_shut shut) _, rfl⟩
  | _ => cases needs

theorem inquire_refused {q : Query} (shut : h.Shut q.needs) :
    ∃ e, h.inquire q = .error e ∧ e.kind = .illegalState := by
  cases q with
  | clientId | metadata => exact ⟨_, map_refused (ensureConnectionOpen_of_shut shut) _, rfl⟩
  | createMessage | createTextMessage =>
    exact ⟨_, map_refused (ensureSessionOpen_of_shut shut) _, rfl⟩
  | transaction s step =>
    refine ⟨.sessionClosed, ?_, rfl⟩
    rw [inquire, transaction, ensureSessionOpen_of_shut shut]
    rfl

/-- Closing a producer once more changes nothing. -/
theorem closeProducer_of_shut {p : ProducerId} (shut : h.Shut (.producer p)) :
    h.closeProducer p = h := by
  have shut : (h.producer p).closed = true := shut
  have same : { h.producer p with closed := true } = h.producer p := by rw [← shut]
  rw [closeProducer, same]
  exact congrArg (fun producers => { h with producers }) (set_getD_self ..)

theorem perform_reclose {r : Request L} {part : Part} (closes : r.closes? = some part)
    (shut : h.Shut part) : h.perform r = (.ok (), h) := by
  cases r with
  | closeConnection =>
    cases closes
    exact closeConnection_of_closed shut
  | closeProducer =>
    cases closes
    exact congrArg _ (closeProducer_of_shut shut)
  | closeConsumer =>
    cases closes
    exact congrArg _ (closeConsumer_of_closed shut)
  | _ => cases closes

/-- Whatever needs the part open fails and changes nothing, and closing it changes nothing. -/
structure Refuses (h : Hub L) (part : Part) : Prop where
  requests : ∀ r : Request L, r.needs? = some part →
    ∃ e, h.perform r = (.error e, h) ∧ e.kind = .illegalState
  queries : ∀ q : Query, q.needs = part → ∃ e, h.inquire q = .error e ∧ e.kind = .illegalState
  closing : ∀ r : Request L, r.closes? = some part → h.perform r = (.ok (), h)

theorem Shut.refuses {part : Part} (shut : h.Shut part) : h.Refuses part where
  requests _ needs := perform_refused needs shut
  queries _ needs := inquire_refused (needs ▸ shut)
  closing _ closes := perform_reclose closes shut

/-- At any point of a run, deliveries under way or not, a closed connection has no client id and no
open session, and a closed session has no open producer or consumer; it comes to the same that only
what has been noted and can be reached is closed. Whatever is closed then stays so, whatever comes,
and refuses. -/
theorem closing_cascades (events : List (Event L)) :
    (∀ c, (reached events).Shut (.connection c) →
      ((reached events).connection c).clientId = none ∧
      ∀ s, ((reached events).session s).connection = c → (reached events).Shut (.session s)) ∧
    (∀ s, (reached events).Shut (.session s) →
      (∀ p, ((reached events).producer p).session = s → (reached events).Shut (.producer p)) ∧
      ∀ k, ((reached events).consumer k).session = s → (reached events).Shut (.consumer k)) ∧
    (reached events).ClosesByNotes (noted events) ∧
    ∀ part, (reached events).Made part → (reached events).Shut part → ∀ later,
      ((reached events).play later).Shut part ∧ ((reached events).play later).Refuses part := by
  have holdings := holdings_reached events
  have sealed := (sound_reached events).sealed
  have produced := produced_reached events
  refine ⟨?_, ?_, closesByNotes_reached events, ?_⟩
  · intro c closed
    refine ⟨holdings.forgotten closed, ?_⟩
    rintro s rfl
    exact Bool.eq_false_iff.mpr fun opened => holdings.attended opened closed
  · intro s shut
    refine ⟨?_, ?_⟩
    · rintro p rfl
      exact produced.shut shut
    · rintro k rfl
      exact sealed.shut shut
  · intro part made shut later
    have still := (Endures.play (reached events) later).shut made shut
    exact ⟨still, still.refuses⟩

def sampleHangupQueue : Destination := { name := "q", kind := .queue }

/-- A listener closes the connection, with the second consumer still to be served. -/
def sampleHangup : List (Event Nat) :=
  [.request .addRegistry, .request .addDirectory, .request (.registerProvider 0 0),
    .request (.connect { registry := 0, url := "vm://main", clientId := some "reports" } none),
    .request (.createSession 0 false .autoAcknowledge),
    .request (.createDestination 0 "q" .queue),
    .request (.createConsumer 0 (some sampleHangupQueue)),
    .request (.createConsumer 0 (some sampleHangupQueue)),
    .request (.setListener 0 (some 0)), .request (.createProducer 0 (some sampleHangupQueue)),
    .request (.send 0 none (.ofText (some "hello")) none 0), .turn,
    .request (.closeConnection 0)]

example : (reached sampleHangup).deliveries.map (·.waiting.length) = [1] ∧
    ((reached sampleHangup).connection 0).clientId = none ∧
    ((reached sampleHangup).session 0).isOpen = false ∧
    ((reached sampleHangup).producer 0).closed = true ∧
    ((reached sampleHangup).consumer 1).closed = true := by
  decide +kernel

end Hub

end Courier
