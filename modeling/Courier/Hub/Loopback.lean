import Courier.Hub.Factory

/-!
# Loopback

What becomes of a message on its way.
-/

namespace Courier.Hub

set_option autoImplicit false

variable {L : Type}

/-- Sends a message over a connection of its own, which is closed again: the message with the
header it was sent with, and the copy that arrived. -/
def loopback (h : Hub L) (queue : String) (m : Message) (now : Int64) :
    Except Error ((Message × Option Message) × Hub L) := do
  let (r, h) := h.addDefaultRegistry
  let (opened, h) := (Factory.fresh r).connect h
  let c ← opened
  let (s, h) ← h.createSession c false .autoAcknowledge
  let (d, h) ← h.sessionDestination s queue .queue
  let (p, h) ← h.createProducer s (some d)
  let (k, h) ← h.createConsumer s (some d)
  let (m, h) ← h.send p none m none now
  let (received, h) ← h.settle.2.receive k
  let h := (((h.closeConnection c).2.dropConsumer k).dropProducer p).dropSession s
  return ((m, received), h.dropConnection c)

end Courier.Hub
