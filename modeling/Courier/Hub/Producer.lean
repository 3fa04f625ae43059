import Courier.Hub.Consumer

/-!
# Producers

A producer sends to the destination it is bound to or, when it has none, to one given with each
message. Sending stamps the header of a frozen copy; the sender's message gets the same header,
and nothing happens to it when the send fails.
-/

namespace Courier

set_option autoImplicit false

variable {L : Type}

def minLong : Int := -9223372036854775808

def maxLong : Int := 9223372036854775807

/-- The sum, kept within 64 bits. -/
def saturatingAdd (a b : Int64) : Int64 :=
  Int64.ofInt (max minLong (min maxLong (a.toInt + b.toInt)))

/-- No time to live means no expiration. -/
def expirationOf (now ttl : Int64) : Int64 := if ttl = 0 then 0 else saturatingAdd now ttl

/-- The header a message is sent with. -/
def Header.stamp (header : Header) (token : String) (now : Int64) (target : Destination)
    (q : Quality) : Except Error Header := do
  let header ← header.setMessageId (some ("ID:" ++ token))
  let header := { header with
    timestamp := now
    expiration := expirationOf now q.timeToLive
    destination := some target
    deliveryMode := q.deliveryMode }
  let header ← header.setPriority q.priority.toNat
  return { header with redelivered := false }

namespace Hub

def ensureProducerOpen (h : Hub L) (p : ProducerId) : Except Error Unit :=
  if (h.producer p).closed then .error .producerClosed
  else h.ensureSessionOpen (h.producer p).session

def createProducer (h : Hub L) (s : SessionId) (destination : Option Destination) :
    Except Error (ProducerId × Hub L) := do
  h.ensureSessionOpen s
  let quality := (h.connection (h.session s).connection).defaults
  let p : Producer := { session := s, destination, quality }
  return (h.producers.length, { h with producers := h.producers ++ [p] })

/-- Changes an open producer. -/
def adjustProducer (h : Hub L) (p : ProducerId) (f : Producer → Except Error Producer) :
    Except Error (Hub L) := do
  h.ensureProducerOpen p
  return h.setProducer p (← f (h.producer p))

def setDeliveryMode (h : Hub L) (p : ProducerId) (mode : DeliveryMode) : Except Error (Hub L) :=
  h.adjustProducer p fun x => .ok { x with quality := { x.quality with deliveryMode := mode } }

def setPriority (h : Hub L) (p : ProducerId) (priority : Int) : Except Error (Hub L) :=
  h.adjustProducer p fun x => do
    return { x with quality := { x.quality with priority := ← checkPriority priority } }

def setTimeToLive (h : Hub L) (p : ProducerId) (ttl : Int64) : Except Error (Hub L) :=
  h.adjustProducer p fun x => do
    return { x with quality := { x.quality with timeToLive := ← checkTimeToLive ttl } }

/-- Sets all three at once, or none. -/
def configure (h : Hub L) (p : ProducerId) (q : QualityRequest) : Except Error (Hub L) :=
  h.adjustProducer p fun x => do return { x with quality := ← q.check }

/-- Kept for the record only: every message gets an id. -/
def setDisableMessageId (h : Hub L) (p : ProducerId) (disable : Bool) : Except Error (Hub L) :=
  h.adjustProducer p fun x => .ok { x with disableMessageId := disable }

/-- Kept for the record only: every message gets a timestamp. -/
def setDisableTimestamp (h : Hub L) (p : ProducerId) (disable : Bool) : Except Error (Hub L) :=
  h.adjustProducer p fun x => .ok { x with disableTimestamp := disable }

def closeProducer (h : Hub L) (p : ProducerId) : Hub L :=
  h.setProducer p { h.producer p with closed := true }

def dropProducer (h : Hub L) (p : ProducerId) : Hub L :=
  h.setProducer p { h.producer p with held := false }

/-- Where a send goes, given the bound destination and the one passed along. -/
def sendTarget : Option Destination → Option Destination → Except Error Destination
  | some bound, some given => .error (.boundProducer bound given)
  | none, none => .error .unboundProducer
  | some d, none | none, some d => .ok d

/-- Sends a message: its delivery starts, and the message comes back with the header stamped. -/
def send (h : Hub L) (p : ProducerId) (given : Option Destination) (m : Message)
    (request : Option QualityRequest) (now : Int64) : Except Error (Message × Hub L) := do
  h.ensureProducerOpen p
  let x := h.producer p
  let target ← sendTarget x.destination given
  let q ← match request with
    | some r => r.check
    | none => pure x.quality
  let (token, h) := h.mint
  let header ← m.header.stamp token now target q
  let frozen ← m.deliveryCopy
  let (_, h) ← h.publishVia (h.sessionLink x.session) target { frozen with header } (some p)
  return ({ m with header }, h)

end Hub

end Courier
