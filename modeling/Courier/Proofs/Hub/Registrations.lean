import Courier.Proofs.Hub.Run
import Courier.Proofs.Hub.Soundness

/-!
# Registrations along a run

The run is followed from the first hub on, one event at a time. After any run a broker that can
still be found lists on each destination exactly the consumers that were attached to it and have
not closed since. Between two deliveries those are the ones that nobody closed or let go.
-/

namespace Courier.Hub

set_option autoImplicit false

variable {L : Type} {h h' : Hub L} {past : List (ConsumerId × Destination)}

namespace Sound

theorem initial : Sound ({} : Hub L) [] where
  consistent := .initial
  sealed := by intro k opened; cases opened
  tended := by intro k opened; cases opened

/-- An event that attaches nothing leaves the record as it is. -/
theorem unrecorded {e : Event L} (sound : Sound h' past) (nothing : h.attachment e = none) :
    Sound h' (past ++ (h.attachment e).toList) := by
  rwa [nothing, Option.toList_none, List.append_nil]

theorem perform (sound : Sound h past) (r : Request L) :
    Sound (h.perform r).2 (past ++ (h.attachment (.request r)).toList) := by
  cases r with
  | addRegistry => exact .unrecorded (sound.idle (registries_idle _)) rfl
  | addDirectory => exact .unrecorded (sound.idle ⟨.addDirectory h, .of_eq rfl rfl fun _ => id⟩) rfl
  | registerProvider r d => exact .unrecorded (sound.idle (registries_idle _)) rfl
  | openBroker d name => exact .unrecorded (sound.getOrCreate d name) rfl
  | removeBroker d name =>
    have steady : Steady h (h.removeBroker d name).2 := .of_eq rfl rfl fun _ => id
    exact .unrecorded (sound.steady (sound.consistent.removeBroker d name) steady) rfl
  | connect f username => exact .unrecorded (sound.connectAs f username) rfl
  | start c =>
    exact .unrecorded (adoptHub_of sound fun _ done => sound.idle (startConnection_idle done)) rfl
  | stop c =>
    exact .unrecorded (adoptHub_of sound fun _ done => sound.idle (stopConnection_idle done)) rfl
  | setClientId c id =>
    exact .unrecorded (adoptHub_of sound fun _ done => sound.setClientId done) rfl
  | closeConnection c => exact .unrecorded (sound.closeConnection c) rfl
  | dropConnection c => exact .unrecorded (sound.idle (setConnection_idle rfl)) rfl
  | createSession c transacted mode =>
    exact .unrecorded (adopt_of sound fun _ _ done => sound.createSession done) rfl
  | createSessionFrom c settings =>
    exact .unrecorded (adopt_of sound fun _ _ done => sound.createSessionFrom done) rfl
  | closeSession s =>
    exact .unrecorded (adoptHub_of sound fun _ done => sound.closeSession done) rfl
  | dropSession s => exact .unrecorded (sound.idle (dropSession_idle h s)) rfl
  | createDestination s name kind =>
    exact .unrecorded (adopt_of sound fun _ _ done => sound.createDestination done) rfl
  | createTemporary s kind =>
    exact .unrecorded (adopt_of sound fun _ _ done => sound.createTemporary done) rfl
  | deleteTemporary s d =>
    exact .unrecorded (adoptHub_of sound fun _ done => sound.deleteTemporary done) rfl
  | createProducer s destination =>
    exact .unrecorded (adopt_of sound fun _ _ done => sound.idle (createProducer_idle done)) rfl
  | setDeliveryMode p mode =>
    exact .unrecorded (adoptHub_of sound fun _ done => sound.idle (adjustProducer_idle done)) rfl
  | setPriority p priority =>
    exact .unrecorded (adoptHub_of sound fun _ done => sound.idle (adjustProducer_idle done)) rfl
  | setTimeToLive p ttl =>
    exact .unrecorded (adoptHub_of sound fun _ done => sound.idle (adjustProducer_idle done)) rfl
  | configure p q =>
    exact .unrecorded (adoptHub_of sound fun _ done => sound.idle (adjustProducer_idle done)) rfl
  | setDisableMessageId p disable =>
    exact .unrecorded (adoptHub_of sound fun _ done => sound.idle (adjustProducer_idle done)) rfl
  | setDisableTimestamp p disable =>
    exact .unrecorded (adoptHub_of sound fun _ done => sound.idle (adjustProducer_idle done)) rfl
  | closeProducer p => exact .unrecorded (sound.idle (producers_idle _)) rfl
  | dropProducer p => exact .unrecorded (sound.idle (producers_idle _)) rfl
  | send p given m q now =>
    exact .unrecorded (adopt_of sound fun _ _ done => sound.idle (send_idle done)) rfl
  | createConsumer s destination =>
    cases outcome : h.createConsumer s destination with
    | error e =>
      rw [perform_createConsumer_of_error outcome]
      exact .unrecorded sound (attachment_createConsumer_of_error outcome)
    | ok made =>
      rw [attachment_createConsumer_of_ok outcome, Hub.perform, outcome]
      exact sound.createConsumer outcome
  | setListener k listener =>
    exact .unrecorded (adoptHub_of sound fun _ done => sound.idle (setListener_idle done)) rfl
  | receive k =>
    exact .unrecorded (adopt_of sound fun _ _ done => sound.idle (receive_idle done)) rfl
  | receiveFrom k d =>
    cases outcome : h.receiveFrom k d with
    | error e =>
      rw [perform_receiveFrom_of_error outcome]
      exact .unrecorded sound (attachment_receiveFrom_of_error outcome)
    | ok received =>
      rw [attachment_receiveFrom_of_ok outcome, Hub.perform, outcome]
      exact sound.receiveFrom outcome
  | closeConsumer k => exact .unrecorded (sound.closeConsumer k) rfl
  | dropConsumer k => exact .unrecorded (sound.dropConsumer k) rfl

theorem after (sound : Sound h past) (e : Event L) :
    Sound (h.after e) (past ++ (h.attachment e).toList) := by
  cases e with
  | request r => exact sound.perform r
  | turn =>
    rw [Hub.after]
    split
    · exact .unrecorded (sound.advance ‹_›) rfl
    · exact .unrecorded sound rfl

theorem follow (sound : Sound h past) (events : List (Event L)) :
    Sound (h.follow events) (past ++ h.attachments events) := by
  induction events generalizing h past with
  | nil => rwa [follow_nil, attachments, List.append_nil]
  | cons e events ih =>
    rw [follow_cons, attachments, ← List.append_assoc]
    exact ih (sound.after e)

/-- While nothing is under way, a consumer that nobody holds is closed. -/
theorem held_of_open (sound : Sound h past) (quiet : h.deliveries = []) {k : ConsumerId}
    (opened : (h.consumer k).closed = false) : (h.consumer k).held = true := by
  have live := sound.tended k opened
  rw [consumerLive, quiet] at live
  simpa using live

end Sound

theorem sound_reached (events : List (Event L)) : Sound (reached events) (recorded events) :=
  Sound.initial.follow events

/-- At any point of a run, deliveries under way or not, a broker that can be found lists the
attachments of the consumers still open. -/
theorem consumerIds_eq_roster (events : List (Event L)) {dir : DirectoryId} {name : String}
    {b : BrokerId} (standing : (reached events).findBroker dir name = some b) (d : Destination) :
    ((reached events).broker b).consumerIds d = (reached events).roster (recorded events) b d :=
  (sound_reached events).consistent.ledger.registered standing d

/-- The ids of the consumers that were attached to `d` of the broker `b`, in the order of their
first attachment, without those that were closed or let go since. -/
def subscribers (h : Hub L) (past : List (ConsumerId × Destination)) (b : BrokerId)
    (d : Destination) : List String :=
  let here := past.eraseDups.filter fun a => a.2 = d ∧ (h.linkOf a.1).broker = b
  let kept := here.filter fun a => (h.consumer a.1).closed = false ∧ (h.consumer a.1).held = true
  kept.map fun a => (h.consumer a.1).id

/-- While nothing is under way the roster has the subscribers. -/
theorem Sound.roster_eq_subscribers (sound : Sound h past) (quiet : h.deliveries = [])
    (b : BrokerId) (d : Destination) : h.roster past b d = h.subscribers past b d := by
  rw [roster, subscribers, List.filter_filter]
  congr 1
  apply List.filter_congr
  intro a _
  cases opened : (h.consumer a.1).closed with
  | true => simp [enrolled, opened]
  | false => simp [enrolled, opened, sound.held_of_open quiet opened]

/-- After every run, while nothing is under way, a broker that can be found lists on each
destination the subscribers, and nobody twice. A consumer that cannot be created, or cannot receive
from a destination, leaves all lists as they are. -/
theorem consumerIds_eq_subscribers (events : List (Event L)) {dir : DirectoryId} {name : String}
    {b : BrokerId} (standing : (reached events).findBroker dir name = some b) (d : Destination) :
    ((reached events).deliveries = [] →
      ((reached events).broker b).consumerIds d =
          (reached events).subscribers (recorded events) b d ∧
        (((reached events).broker b).consumerIds d).Nodup) ∧
    (∀ s destination e, (reached events).createConsumer s destination = .error e →
      ((reached (events ++ [.request (.createConsumer s destination)])).broker b).consumerIds d =
        ((reached events).broker b).consumerIds d) ∧
    ∀ k source e, (reached events).receiveFrom k source = .error e →
      ((reached (events ++ [.request (.receiveFrom k source)])).broker b).consumerIds d =
        ((reached events).broker b).consumerIds d := by
  have sound := sound_reached events
  have listed := consumerIds_eq_roster events standing d
  refine ⟨?_, ?_, ?_⟩
  · intro quiet
    rw [listed]
    exact ⟨sound.roster_eq_subscribers quiet b d,
      nodup_roster sound.consistent.named sound.consistent.ledger⟩
  · intro s destination e failed
    rw [reached_append_singleton, after, perform_createConsumer_of_error failed]
  · intro k source e failed
    rw [reached_append_singleton, after, perform_receiveFrom_of_error failed]

def sampleQueue : Destination := { name := "q", kind := .queue }

/-- Three consumers of a queue, one of them bound to it by receiving. While a message is being
delivered, the listener of the first lets go of its own consumer. -/
def sampleRun : List (Event Unit) :=
  [.request .addRegistry, .request .addDirectory, .request (.registerProvider 0 0),
    .request (.connect { registry := 0, url := "vm://main" } none),
    .request (.createSession 0 false .autoAcknowledge),
    .request (.createDestination 0 "q" .queue),
    .request (.createConsumer 0 (some sampleQueue)),
    .request (.createConsumer 0 none),
    .request (.createConsumer 0 (some sampleQueue)),
    .request (.receiveFrom 1 sampleQueue),
    .request (.receiveFrom 1 sampleQueue),
    .request (.setListener 0 (some ())),
    .request (.createProducer 0 (some sampleQueue)),
    .request (.send 0 none (.ofText (some "hello")) none 0),
    .turn, .request (.dropConsumer 0), .turn, .turn, .turn]

theorem consumerIds_eq_subscribers_sample :
    (reached sampleRun).findBroker 0 "main" = some 0 ∧
      ((reached sampleRun).broker 0).consumerIds sampleQueue =
        ["consumer-" ++ uniqueName 4, "consumer-" ++ uniqueName 3] ∧
      (((reached sampleRun).broker 0).consumerIds sampleQueue).Nodup := by
  have standing : (reached sampleRun).findBroker 0 "main" = some 0 := by decide +kernel
  have quiet : (reached sampleRun).deliveries = [] := by decide +kernel
  obtain ⟨listed, distinct⟩ := (consumerIds_eq_subscribers sampleRun standing sampleQueue).1 quiet
  exact ⟨standing, listed.trans (by decide +kernel), distinct⟩

end Courier.Hub
