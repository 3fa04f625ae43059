import Courier.Hub.Directory

/-!
# Deliveries

Sending a message starts a delivery to the endpoints registered at that moment. `advance` carries
the innermost delivery one step further. When a listener has its turn the step names it and the
application acts on the hub before it advances again; what it does, sending included, changes
nothing about the deliveries already under way.
-/

namespace Courier

set_option autoImplicit false

variable {L : Type}

/-- The messages from a destination that wait in the mailbox, oldest first. -/
def Consumer.queue (c : Consumer L) (source : Destination) : List Message :=
  (c.mailbox.get? source).getD []

def Consumer.store (c : Consumer L) (source : Destination) (m : Message) : Consumer L :=
  { c with mailbox := c.mailbox.insert source (c.queue source ++ [m]) }

namespace Hub

/-- Unregisters a consumer everywhere and empties it. A broker that is gone does not matter. -/
def closeConsumer (h : Hub L) (k : ConsumerId) : Hub L :=
  let c := h.consumer k
  if c.closed then h
  else
    let l := (h.connection (h.session c.session).connection).link
    let h := c.attached.foldl (fun h d =>
      match h.unregister l d c.id with
      | .ok h => h
      | .error _ => h) h
    h.setConsumer k { c with closed := true, attached := [], listener := none, mailbox := ∅ }

/-- Closes a consumer that can no longer be reached. -/
def reap (h : Hub L) (k : ConsumerId) : Hub L :=
  if h.consumerLive k then h else h.closeConsumer k

/-- The application gives up its handle on a consumer. -/
def dropConsumer (h : Hub L) (k : ConsumerId) : Hub L :=
  (h.setConsumer k { h.consumer k with held := false }).reap k

/-- Starts a delivery on a broker. -/
def publish (h : Hub L) (b : BrokerId) (d : Destination) (m : Message)
    (sender : Option ProducerId := none) : Except Error (Nat × Hub L) := do
  let endpoints ← (h.broker b).endpoints d
  let delivery : Delivery L := { message := m, waiting := endpoints, sender }
  return (endpoints.length, { h with deliveries := delivery :: h.deliveries })

/-- Starts a delivery on the broker at the end of a link. -/
def publishVia (h : Hub L) (l : Link) (d : Destination) (m : Message)
    (sender : Option ProducerId := none) : Except Error (Nat × Hub L) := do
  let b ← h.linked l
  h.publish b d m sender

/-- What one step of a delivery did. -/
inductive Turn (L : Type)
  | notified (l : L) (m : Message)
  | stored (k : ConsumerId)
  | skipped
  | finished

/-- Serves one endpoint. A consumer that is closed or gone gets nothing; otherwise its listener is
notified, or the message waits in its mailbox. -/
def serve (h : Hub L) (d : Delivery L) (outer : List (Delivery L)) : Endpoint L → Turn L × Hub L
  | .listener l => (.notified l d.message, { h with deliveries := d :: outer })
  | .consumer k source =>
    let c := h.consumer k
    let h := { h with deliveries := d :: outer }
    if c.closed then (.skipped, h)
    else match c.listener with
      | some l =>
        (.notified l d.message, { h with deliveries := { d with serving := some k } :: outer })
      | none => (.stored k, h.setConsumer k (c.store source d.message))

/-- One step of the innermost delivery; `none` when nothing is under way. -/
def advance (h : Hub L) : Option (Turn L × Hub L) :=
  match h.deliveries with
  | [] => none
  | d :: outer =>
    let served := d.serving
    let d := { d with serving := none }
    let h := { h with deliveries := d :: outer }
    let h := match served with
      | some k => h.reap k
      | none => h
    match d.waiting with
    | [] => some (.finished, { h with deliveries := outer })
    | e :: waiting => some (h.serve { d with waiting } outer e)

/-- How many steps finish the innermost delivery, unless a listener sends. -/
def stepsLeft (h : Hub L) : Nat :=
  match h.deliveries with
  | [] => 0
  | d :: _ => d.waiting.length + 1

/-- Takes up to `n` steps, and collects who was notified of what. -/
def advanceBy : Nat → Hub L → List (L × Message) × Hub L
  | 0, h => ([], h)
  | n + 1, h =>
    match h.advance with
    | none => ([], h)
    | some (turn, h) =>
      let (heard, h) := advanceBy n h
      match turn with
      | .notified l m => ((l, m) :: heard, h)
      | _ => (heard, h)

/-- Finishes the innermost delivery, for listeners that leave the hub alone. -/
def settle (h : Hub L) : List (L × Message) × Hub L := h.advanceBy h.stepsLeft

end Hub

end Courier
