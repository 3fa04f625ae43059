import Courier.Error
import Courier.Table
import Courier.Text.Lowercase

/-!
# Brokers

A broker knows the destinations made through it, the consumers registered on each, in the order
of their registration, and the client ids in use. An operation that fails changes nothing.
-/

namespace Courier

set_option autoImplicit false

/-- A registered consumer and the place where its messages go. -/
structure Registration (ε : Type) where
  id : String
  endpoint : ε

/-- What a broker holds for a destination. A temporary one has an owner. -/
structure Site (ε : Type) where
  owner : Option String
  consumers : List (Registration ε)

def Site.ids {ε : Type} (s : Site ε) : List String := s.consumers.map (·.id)

structure Broker (ε : Type) where
  name : String
  destinations : Table Destination (Site ε) := ∅
  names : Table (DestinationKind × String) Destination := ∅
  clientIds : Table String String := ∅

namespace Broker

variable {ε : Type}

def interned (b : Broker ε) (d : Destination) : Bool := b.destinations.contains d

/-- The site of a destination. -/
def site (b : Broker ε) (d : Destination) : Except Error (Site ε) :=
  match b.destinations.get? d with
  | some s => .ok s
  | none => .error (.notInterned d b.name)

def consumerIds (b : Broker ε) (d : Destination) : List String :=
  ((b.destinations.get? d).map Site.ids).getD []

/-- Names match without regard to case, and the first spelling is kept. -/
def createDestination (b : Broker ε) (name : String) (kind : DestinationKind) :
    Except Error (Destination × Broker ε) :=
  if name.isEmpty then .error .emptyDestinationName
  else
    let key := (kind, Text.lowercase name)
    match b.names.get? key with
    | some d => .ok (d, b)
    | none =>
      let d : Destination := { name, kind }
      .ok (d, { b with
        destinations := b.destinations.insert d ⟨none, []⟩
        names := b.names.insert key d })

/-- `token` makes the name unique. -/
def createTemporary (b : Broker ε) (token : String) (kind : DestinationKind) (owner : String) :
    Destination × Broker ε :=
  let d : Destination := { name := "temp-" ++ token, kind, temporary := true }
  (d, { b with destinations := b.destinations.insert d ⟨some owner, []⟩ })

def deleteTemporary (b : Broker ε) (d : Destination) (owner : String) :
    Except Error (Broker ε) :=
  if !d.temporary then .error (.notTemporary d)
  else match b.destinations.get? d with
    | none => .error (.noSuchDestination d)
    | some s =>
      if s.owner ≠ some owner then .error (.foreignDestination d)
      else if !s.consumers.isEmpty then .error (.hasConsumers d s.consumers.length)
      else .ok { b with destinations := b.destinations.erase d }

/-- A temporary destination takes consumers of its owner only, and each id once. -/
def register (b : Broker ε) (d : Destination) (id owner : String) (endpoint : ε) :
    Except Error (Broker ε) := do
  let s ← b.site d
  if s.owner.any (· ≠ owner) then throw (.foreignConsumer d)
  if s.ids.contains id then throw (.alreadyRegistered id d)
  return { b with destinations :=
    b.destinations.insert d { s with consumers := s.consumers ++ [⟨id, endpoint⟩] } }

/-- An id that is not registered is left at that. -/
def unregister (b : Broker ε) (d : Destination) (id : String) : Except Error (Broker ε) := do
  let s ← b.site d
  return { b with destinations :=
    b.destinations.insert d { s with consumers := s.consumers.filter (·.id ≠ id) } }

/-- The endpoints a message sent now goes to. Queues fan out like topics. -/
def endpoints (b : Broker ε) (d : Destination) : Except Error (List ε) :=
  (b.site d).map fun s => s.consumers.map (·.endpoint)

/-- An owner may claim an id it already holds. -/
def claim (b : Broker ε) (id owner : String) : Except Error (Broker ε) :=
  if id.isEmpty then .error .emptyClientId
  else match b.clientIds.get? id with
    | some holder => if holder = owner then .ok b else .error (.clientIdInUse id)
    | none => .ok { b with clientIds := b.clientIds.insert id owner }

def release (b : Broker ε) (id owner : String) : Broker ε :=
  if b.clientIds.get? id = some owner then { b with clientIds := b.clientIds.erase id } else b

/-- Drops the temporary destinations of a connection, with their consumers, and its client ids. -/
def releaseConnection (b : Broker ε) (owner : String) : Broker ε :=
  { b with
    destinations := b.destinations.filter fun _ s => s.owner ≠ some owner
    clientIds := b.clientIds.filter fun _ holder => holder ≠ owner }

end Broker

end Courier
