import Courier.Hub.Delivery

/-!
# Consumers

A bound consumer is registered on its destination when it is made. An unbound one registers on a
destination when it first receives from it.
-/

namespace Courier

set_option autoImplicit false

variable {L : Type}

/-- Messages waiting, over all destinations. -/
def Consumer.pending (c : Consumer L) : Nat := c.mailbox.values.flatten.length

namespace Hub

/-- The link of the connection that a session belongs to. -/
def sessionLink (h : Hub L) (s : SessionId) : Link :=
  (h.connection (h.session s).connection).link

def ensureSessionOpen (h : Hub L) (s : SessionId) : Except Error Unit :=
  if (h.session s).isOpen then .ok () else .error .sessionClosed

def ensureConsumerOpen (h : Hub L) (k : ConsumerId) : Except Error Unit :=
  if (h.consumer k).closed then .error .consumerClosed
  else h.ensureSessionOpen (h.consumer k).session

/-- Registers a consumer on a destination, unless it is registered there already. -/
def attach (h : Hub L) (k : ConsumerId) (d : Destination) : Except Error (Hub L) := do
  let c := h.consumer k
  if c.attached.contains d then return h
  let h ← h.register (h.sessionLink c.session) d c.id (.consumer k d)
  return h.setConsumer k { c with attached := c.attached ++ [d] }

def createConsumer (h : Hub L) (s : SessionId) (destination : Option Destination) :
    Except Error (ConsumerId × Hub L) := do
  h.ensureSessionOpen s
  let (token, h) := h.mint
  let k := h.consumers.length
  let c : Consumer L := { id := "consumer-" ++ token, session := s, destination }
  let h := { h with consumers := h.consumers ++ [c] }
  match destination with
  | none => return (k, h)
  | some d => return (k, ← h.attach k d)

/-- Installs or removes the listener. Messages already waiting go on waiting. -/
def setListener (h : Hub L) (k : ConsumerId) (listener : Option L) : Except Error (Hub L) := do
  h.ensureConsumerOpen k
  return h.setConsumer k { h.consumer k with listener }

/-- Takes the oldest message that waits from a destination. -/
def pop (h : Hub L) (k : ConsumerId) (d : Destination) : Option Message × Hub L :=
  let c := h.consumer k
  match c.queue d with
  | [] => (none, h)
  | m :: rest => (some m, h.setConsumer k { c with mailbox := c.mailbox.insert d rest })

/-- The next message of a bound consumer, if one waits. -/
def receive (h : Hub L) (k : ConsumerId) : Except Error (Option Message × Hub L) := do
  h.ensureConsumerOpen k
  match (h.consumer k).destination with
  | none => throw .unboundConsumer
  | some d => return h.pop k d

/-- The next message that an unbound consumer has from `d`. -/
def receiveFrom (h : Hub L) (k : ConsumerId) (d : Destination) :
    Except Error (Option Message × Hub L) := do
  h.ensureConsumerOpen k
  match (h.consumer k).destination with
  | some bound => throw (.boundConsumer bound)
  | none =>
    let h ← h.attach k d
    return h.pop k d

end Hub

end Courier
