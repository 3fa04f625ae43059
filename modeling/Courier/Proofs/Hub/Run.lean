import Courier.Hub.Factory

/-!
# Runs

A run is any sequence of requests of the application and turns of the innermost delivery. What a
listener does is a stretch of requests between two turns, so the runs in which the application
only acts when it has the turn are among these.
-/

namespace Courier

set_option autoImplicit false

/-- What an application can ask of the hub. Requests that only look are left out. -/
inductive Request (L : Type)
  | addRegistry
  | addDirectory
  | registerProvider (r : RegistryId) (d : DirectoryId)
  | openBroker (d : DirectoryId) (name : String)
  | removeBroker (d : DirectoryId) (name : String)
  | connect (f : Factory) (username : Option String)
  | start (c : ConnectionId)
  | stop (c : ConnectionId)
  | setClientId (c : ConnectionId) (id : String)
  | closeConnection (c : ConnectionId)
  | dropConnection (c : ConnectionId)
  | createSession (c : ConnectionId) (transacted : Bool) (mode : AcknowledgeMode)
  | createSessionFrom (c : ConnectionId) (settings : SessionSettings)
  | closeSession (s : SessionId)
  | dropSession (s : SessionId)
  | createDestination (s : SessionId) (name : String) (kind : DestinationKind)
  | createTemporary (s : SessionId) (kind : DestinationKind)
  | deleteTemporary (s : SessionId) (d : Destination)
  | createProducer (s : SessionId) (destination : Option Destination)
  | setDeliveryMode (p : ProducerId) (mode : DeliveryMode)
  | setPriority (p : ProducerId) (priority : Int)
  | setTimeToLive (p : ProducerId) (ttl : Int64)
  | configure (p : ProducerId) (q : QualityRequest)
  | setDisableMessageId (p : ProducerId) (disable : Bool)
  | setDisableTimestamp (p : ProducerId) (disable : Bool)
  | closeProducer (p : ProducerId)
  | dropProducer (p : ProducerId)
  | send (p : ProducerId) (given : Option Destination) (m : Message)
      (q : Option QualityRequest) (now : Int64)
  | createConsumer (s : SessionId) (destination : Option Destination)
  | setListener (k : ConsumerId) (listener : Option L)
  | receive (k : ConsumerId)
  | receiveFrom (k : ConsumerId) (d : Destination)
  | closeConsumer (k : ConsumerId)
  | dropConsumer (k : ConsumerId)

namespace Hub

variable {L : Type}

/-- The hub after an operation, which is the old one when the operation failed. -/
def adopt {α : Type} (h : Hub L) : Except Error (α × Hub L) → Except Error Unit × Hub L
  | .ok (_, h') => (.ok (), h')
  | .error e => (.error e, h)

/-- `adopt` for operations that only change the hub. -/
def adoptHub (h : Hub L) : Except Error (Hub L) → Except Error Unit × Hub L
  | .ok h' => (.ok (), h')
  | .error e => (.error e, h)

/-- How a request ends, and the hub after it. -/
def perform (h : Hub L) : Request L → Except Error Unit × Hub L
  | .addRegistry => (.ok (), h.addRegistry.2)
  | .addDirectory => (.ok (), h.addDirectory.2)
  | .registerProvider r d => (.ok (), h.registerProvider r d)
  | .openBroker d name => (.ok (), (h.getOrCreate d name).2)
  | .removeBroker d name => (.ok (), (h.removeBroker d name).2)
  | .connect f username => ((f.connectAs h username).1.map fun _ => (), (f.connectAs h username).2)
  | .start c => h.adoptHub (h.startConnection c)
  | .stop c => h.adoptHub (h.stopConnection c)
  | .setClientId c id => h.adoptHub (h.setClientId c id)
  | .closeConnection c => h.closeConnection c
  | .dropConnection c => (.ok (), h.dropConnection c)
  | .createSession c transacted mode => h.adopt (h.createSession c transacted mode)
  | .createSessionFrom c settings => h.adopt (h.createSessionFrom c settings)
  | .closeSession s => h.adoptHub (h.closeSession s)
  | .dropSession s => (.ok (), h.dropSession s)
  | .createDestination s name kind => h.adopt (h.sessionDestination s name kind)
  | .createTemporary s kind => h.adopt (h.sessionTemporary s kind)
  | .deleteTemporary s d => h.adoptHub (h.sessionDeleteTemporary s d)
  | .createProducer s destination => h.adopt (h.createProducer s destination)
  | .setDeliveryMode p mode => h.adoptHub (h.setDeliveryMode p mode)
  | .setPriority p priority => h.adoptHub (h.setPriority p priority)
  | .setTimeToLive p ttl => h.adoptHub (h.setTimeToLive p ttl)
  | .configure p q => h.adoptHub (h.configure p q)
  | .setDisableMessageId p disable => h.adoptHub (h.setDisableMessageId p disable)
  | .setDisableTimestamp p disable => h.adoptHub (h.setDisableTimestamp p disable)
  | .closeProducer p => (.ok (), h.closeProducer p)
  | .dropProducer p => (.ok (), h.dropProducer p)
  | .send p given m q now => h.adopt (h.send p given m q now)
  | .createConsumer s destination => h.adopt (h.createConsumer s destination)
  | .setListener k listener => h.adoptHub (h.setListener k listener)
  | .receive k => h.adopt (h.receive k)
  | .receiveFrom k d => h.adopt (h.receiveFrom k d)
  | .closeConsumer k => (.ok (), h.closeConsumer k)
  | .dropConsumer k => (.ok (), h.dropConsumer k)

end Hub

/-- One event of a run. A turn when nothing is under way changes nothing. -/
inductive Event (L : Type)
  | request (r : Request L)
  | turn

namespace Hub

variable {L : Type}

def after (h : Hub L) : Event L → Hub L
  | .request r => (h.perform r).2
  | .turn => match h.advance with
    | some (_, h') => h'
    | none => h

def follow (h : Hub L) (events : List (Event L)) : Hub L := events.foldl after h

/-- The consumer that an event attaches, and to what: a bound consumer that was made, or one that
has received from a destination. -/
def attachment (h : Hub L) : Event L → Option (ConsumerId × Destination)
  | .request (.createConsumer s (some d)) =>
    match h.createConsumer s (some d) with
    | .ok (k, _) => some (k, d)
    | .error _ => none
  | .request (.receiveFrom k d) =>
    match h.receiveFrom k d with
    | .ok _ => some (k, d)
    | .error _ => none
  | _ => none

/-- All that a run attaches, in order, with repetitions. -/
def attachments (h : Hub L) : List (Event L) → List (ConsumerId × Destination)
  | [] => []
  | e :: events => (h.attachment e).toList ++ (h.after e).attachments events

/-- The hub after a run from the first one. -/
def reached (events : List (Event L)) : Hub L := ({} : Hub L).follow events

/-- All that such a run attaches. -/
def recorded (events : List (Event L)) : List (ConsumerId × Destination) :=
  ({} : Hub L).attachments events

@[simp] theorem follow_nil (h : Hub L) : h.follow [] = h := rfl

@[simp] theorem follow_cons (h : Hub L) (e : Event L) (events : List (Event L)) :
    h.follow (e :: events) = (h.after e).follow events := rfl

theorem reached_append_singleton (events : List (Event L)) (e : Event L) :
    reached (events ++ [e]) = (reached events).after e := List.foldl_append

section Outcome
variable {P : Hub L → Prop} {h : Hub L}

/-- What holds of the old hub and of every successful outcome holds afterwards. -/
theorem adopt_of {α : Type} {r : Except Error (α × Hub L)} (same : P h)
    (changed : ∀ a h', r = .ok (a, h') → P h') : P (h.adopt r).2 := by
  cases r with
  | error e => exact same
  | ok a => exact changed a.1 a.2 rfl

theorem adoptHub_of {r : Except Error (Hub L)} (same : P h) (changed : ∀ h', r = .ok h' → P h') :
    P (h.adoptHub r).2 := by
  cases r with
  | error e => exact same
  | ok h' => exact changed h' rfl

end Outcome

section Attaching
variable {h h' : Hub L} {s : SessionId} {destination : Option Destination} {k : ConsumerId}
  {d : Destination} {m : Option Message} {e : Error}

theorem attachment_createConsumer_of_ok (done : h.createConsumer s destination = .ok (k, h')) :
    h.attachment (.request (.createConsumer s destination)) = destination.map (k, ·) := by
  cases destination with
  | none => rfl
  | some d =>
    unfold attachment
    simp only [done, Option.map_some]

theorem attachment_createConsumer_of_error (failed : h.createConsumer s destination = .error e) :
    h.attachment (.request (.createConsumer s destination)) = none := by
  cases destination with
  | none => rfl
  | some d =>
    unfold attachment
    simp only [failed]

theorem attachment_receiveFrom_of_ok (done : h.receiveFrom k d = .ok (m, h')) :
    h.attachment (.request (.receiveFrom k d)) = some (k, d) := by
  unfold attachment
  simp only [done]

theorem attachment_receiveFrom_of_error (failed : h.receiveFrom k d = .error e) :
    h.attachment (.request (.receiveFrom k d)) = none := by
  unfold attachment
  simp only [failed]

theorem perform_createConsumer_of_error (failed : h.createConsumer s destination = .error e) :
    h.perform (.createConsumer s destination) = (.error e, h) := by
  show h.adopt (h.createConsumer s destination) = _
  rw [failed, adopt]

theorem perform_receiveFrom_of_error (failed : h.receiveFrom k d = .error e) :
    h.perform (.receiveFrom k d) = (.error e, h) := by
  show h.adopt (h.receiveFrom k d) = _
  rw [failed, adopt]

end Attaching

end Hub

end Courier
