import Courier.Broker
import Courier.Message

/-!
# The hub

All brokers, connections, sessions, producers and consumers of a process, as one value. Each kind
of thing is numbered in the order of creation. The application reacts to messages through
listeners, which the hub only names; `L` is the type of those names.

A number that was never given out stands for something closed.
-/

namespace Courier

set_option autoImplicit false

abbrev BrokerId := Nat
abbrev DirectoryId := Nat
abbrev RegistryId := Nat
abbrev ConnectionId := Nat
abbrev SessionId := Nat
abbrev ProducerId := Nat
abbrev ConsumerId := Nat

/-- Where a registration sends its messages: to a listener of the application, or to a consumer,
which is told the destination. -/
inductive Endpoint (L : Type)
  | listener (l : L)
  | consumer (k : ConsumerId) (source : Destination)

/-- How messages are sent: the defaults of a producer. -/
structure Quality where
  deliveryMode : DeliveryMode := .persistent
  priority : UInt8 := 4
  timeToLive : Int64 := 0
  deriving DecidableEq

/-- How a message is asked to be sent, before any check. -/
structure QualityRequest where
  deliveryMode : DeliveryMode
  priority : Int
  timeToLive : Int64

def checkTimeToLive (ttl : Int64) : Except Error Int64 :=
  if ttl.toInt < 0 then .error (.negativeTimeToLive ttl.toInt) else .ok ttl

def QualityRequest.check (q : QualityRequest) : Except Error Quality := do
  let priority ← checkPriority q.priority
  let timeToLive ← checkTimeToLive q.timeToLive
  return ⟨q.deliveryMode, priority, timeToLive⟩

/-- The tie between a connection and its broker. The broker is found by name and then has to be
the one the connection was opened against. -/
structure Link where
  directory : DirectoryId
  brokerName : String
  broker : BrokerId
  owner : String
  username : Option String
  deriving DecidableEq

inductive ConnectionState
  | unstarted | started | stopped | closed
  deriving DecidableEq, Repr

/-- `held` tells, here and below, whether the application still has a handle. -/
structure Connection where
  link : Link
  defaults : Quality
  state : ConnectionState := .unstarted
  clientId : Option String := none
  held : Bool := true

inductive AcknowledgeMode
  | sessionTransacted | autoAcknowledge | clientAcknowledge | dupsOkAcknowledge
  deriving DecidableEq, Repr

namespace AcknowledgeMode

def code : AcknowledgeMode → Int
  | sessionTransacted => 0
  | autoAcknowledge => 1
  | clientAcknowledge => 2
  | dupsOkAcknowledge => 3

def ofCode (code : Int) : Except Error AcknowledgeMode :=
  if code = 0 then .ok sessionTransacted
  else if code = 1 then .ok autoAcknowledge
  else if code = 2 then .ok clientAcknowledge
  else if code = 3 then .ok dupsOkAcknowledge
  else .error (.illegalAcknowledgeMode code)

def name : AcknowledgeMode → String
  | sessionTransacted => "session_transacted"
  | autoAcknowledge => "auto_acknowledge"
  | clientAcknowledge => "client_acknowledge"
  | dupsOkAcknowledge => "dups_ok_acknowledge"

def ofName (name : String) : Except Error AcknowledgeMode :=
  match foldName name with
  | "session_transacted" | "transacted" => .ok sessionTransacted
  | "auto_acknowledge" | "auto" => .ok autoAcknowledge
  | "client_acknowledge" | "client" => .ok clientAcknowledge
  | "dups_ok_acknowledge" | "dups_ok" => .ok dupsOkAcknowledge
  | other => .error (.unknownAcknowledgeMode other)

end AcknowledgeMode

structure Session where
  id : String
  connection : ConnectionId
  transacted : Bool
  mode : AcknowledgeMode
  isOpen : Bool := true
  held : Bool := true

structure Producer where
  session : SessionId
  destination : Option Destination
  quality : Quality
  disableMessageId : Bool := false
  disableTimestamp : Bool := false
  closed : Bool := false
  held : Bool := true

/-- Messages that meet no listener wait in the mailbox, one queue for each destination. -/
structure Consumer (L : Type) where
  id : String
  session : SessionId
  destination : Option Destination
  attached : List Destination := []
  listener : Option L := none
  mailbox : Table Destination (List Message) := ∅
  closed : Bool := false
  held : Bool := true

/-- A message under way: the endpoints still to be served, the consumer whose listener is at
work, and the producer that sends. Both stay reachable meanwhile. -/
structure Delivery (L : Type) where
  message : Message
  waiting : List (Endpoint L)
  serving : Option ConsumerId := none
  sender : Option ProducerId := none

/-- `deliveries` has the innermost one first; `minted` counts the unique names given out. -/
structure Hub (L : Type) where
  brokers : List (Broker (Endpoint L)) := []
  directories : List (Table String BrokerId) := []
  registries : List (Table String DirectoryId) := []
  connections : List Connection := []
  sessions : List Session := []
  producers : List Producer := []
  consumers : List (Consumer L) := []
  deliveries : List (Delivery L) := []
  minted : Nat := 0

/-- The text of the `n`-th unique name. -/
def uniqueName (n : Nat) : String :=
  let digits := Nat.toDigits 16 n
  "00000000-0000-4000-8000-" ++
    String.ofList (List.replicate (12 - digits.length) '0' ++ digits)

namespace Hub

variable {L : Type}

def broker (h : Hub L) (b : BrokerId) : Broker (Endpoint L) := h.brokers.getD b { name := "" }

def directory (h : Hub L) (d : DirectoryId) : Table String BrokerId := h.directories.getD d ∅

def registry (h : Hub L) (r : RegistryId) : Table String DirectoryId := h.registries.getD r ∅

def connection (h : Hub L) (c : ConnectionId) : Connection :=
  h.connections.getD c { link := ⟨0, "", 0, "", none⟩, defaults := {}, state := .closed, held := false }

def session (h : Hub L) (s : SessionId) : Session :=
  h.sessions.getD s
    { id := "", connection := 0, transacted := false, mode := .autoAcknowledge, isOpen := false,
      held := false }

def producer (h : Hub L) (p : ProducerId) : Producer :=
  h.producers.getD p
    { session := 0, destination := none, quality := {}, closed := true, held := false }

def consumer (h : Hub L) (k : ConsumerId) : Consumer L :=
  h.consumers.getD k { id := "", session := 0, destination := none, closed := true, held := false }

def setBroker (h : Hub L) (b : BrokerId) (x : Broker (Endpoint L)) : Hub L :=
  { h with brokers := h.brokers.set b x }

def setConnection (h : Hub L) (c : ConnectionId) (x : Connection) : Hub L :=
  { h with connections := h.connections.set c x }

def setSession (h : Hub L) (s : SessionId) (x : Session) : Hub L :=
  { h with sessions := h.sessions.set s x }

def setProducer (h : Hub L) (p : ProducerId) (x : Producer) : Hub L :=
  { h with producers := h.producers.set p x }

def setConsumer (h : Hub L) (k : ConsumerId) (x : Consumer L) : Hub L :=
  { h with consumers := h.consumers.set k x }

/-- A name never given out before. -/
def mint (h : Hub L) : String × Hub L := (uniqueName h.minted, { h with minted := h.minted + 1 })

/-! Reachability: a handle keeps a thing alive, a delivery those at work, and every producer and
consumer its session, and every session its connection. -/

def consumerLive (h : Hub L) (k : ConsumerId) : Bool :=
  (h.consumer k).held || h.deliveries.any (·.serving == some k)

def producerLive (h : Hub L) (p : ProducerId) : Bool :=
  (h.producer p).held || h.deliveries.any (·.sender == some p)

def sessionLive (h : Hub L) (s : SessionId) : Bool :=
  (h.session s).held ||
    (List.range h.producers.length).any (fun p => (h.producer p).session == s && h.producerLive p) ||
    (List.range h.consumers.length).any (fun k => (h.consumer k).session == s && h.consumerLive k)

def connectionLive (h : Hub L) (c : ConnectionId) : Bool :=
  (h.connection c).held ||
    (List.range h.sessions.length).any (fun s => (h.session s).connection == c && h.sessionLive s)

end Hub

end Courier
