import Courier.Hub.Producer

/-!
# Sessions and connections

Closing a session closes its producers and consumers, closing a connection closes its sessions
and gives up what it holds on the broker.
-/

namespace Courier.Hub

set_option autoImplicit false

variable {L : Type}

/-- Closes a session with all that was made from it; a closed one is left alone. -/
def shutdownSession (h : Hub L) (s : SessionId) : Hub L :=
  if (h.session s).isOpen then
    let h := h.setSession s { h.session s with isOpen := false }
    let h := { h with producers := h.producers.map fun p =>
      if p.session = s then { p with closed := true } else p }
    (List.range h.consumers.length).foldl (fun h k =>
      if (h.consumer k).session = s then h.closeConsumer k else h) h
  else h

def closeSession (h : Hub L) (s : SessionId) : Except Error (Hub L) :=
  if (h.session s).isOpen then .ok (h.shutdownSession s) else .error .sessionAlreadyClosed

def dropSession (h : Hub L) (s : SessionId) : Hub L :=
  h.setSession s { h.session s with held := false }

/-- An empty message of the given kind; making one takes an open session. -/
def createMessage (h : Hub L) (s : SessionId) (kind : MessageKind) : Except Error Message := do
  h.ensureSessionOpen s
  return .fresh kind

def createTextMessage (h : Hub L) (s : SessionId) (text : Option String) :
    Except Error Message := do
  h.ensureSessionOpen s
  return .ofText text

def sessionDestination (h : Hub L) (s : SessionId) (name : String) (kind : DestinationKind) :
    Except Error (Destination × Hub L) := do
  h.ensureSessionOpen s
  h.createDestination (h.sessionLink s) name kind

def sessionTemporary (h : Hub L) (s : SessionId) (kind : DestinationKind) :
    Except Error (Destination × Hub L) := do
  h.ensureSessionOpen s
  h.createTemporary (h.sessionLink s) kind

def sessionDeleteTemporary (h : Hub L) (s : SessionId) (d : Destination) :
    Except Error (Hub L) := do
  h.ensureSessionOpen s
  h.deleteTemporary (h.sessionLink s) d

/-- Transactions are not supported, and only a transacted session says so. -/
def transaction (h : Hub L) (s : SessionId) (step : TransactionStep) : Except Error Unit := do
  h.ensureSessionOpen s
  if (h.session s).transacted then throw (.noTransactions step)
  throw (.notTransacted step)

def ensureConnectionOpen (h : Hub L) (c : ConnectionId) : Except Error Unit :=
  if (h.connection c).state = .closed then .error .connectionClosed else .ok ()

def startConnection (h : Hub L) (c : ConnectionId) : Except Error (Hub L) := do
  h.ensureConnectionOpen c
  return h.setConnection c { h.connection c with state := .started }

def stopConnection (h : Hub L) (c : ConnectionId) : Except Error (Hub L) := do
  h.ensureConnectionOpen c
  return h.setConnection c { h.connection c with state := .stopped }

def clientId (h : Hub L) (c : ConnectionId) : Except Error (Option String) := do
  h.ensureConnectionOpen c
  return (h.connection c).clientId

/-- Assigns the client id, once and for all; the broker must have it free. -/
def setClientId (h : Hub L) (c : ConnectionId) (id : String) : Except Error (Hub L) := do
  h.ensureConnectionOpen c
  let x := h.connection c
  match x.clientId with
  | some existing => throw (.clientIdAlreadySet existing)
  | none =>
    if id.isEmpty then throw .emptyClientId
    let h ← h.claim x.link id
    return h.setConnection c { x with clientId := some id }

/-- The mode a session gets: a transacted one always has its own. -/
def effectiveMode (transacted : Bool) (mode : AcknowledgeMode) : Except Error AcknowledgeMode :=
  if transacted then .ok .sessionTransacted
  else if mode = .sessionTransacted then .error .transactedModeAlone
  else .ok mode

def createSession (h : Hub L) (c : ConnectionId) (transacted : Bool) (mode : AcknowledgeMode) :
    Except Error (SessionId × Hub L) := do
  h.ensureConnectionOpen c
  let mode ← effectiveMode transacted mode
  let _ ← h.linked (h.connection c).link
  let (id, h) := h.mint
  return (h.sessions.length,
    { h with sessions := h.sessions ++ [{ id, connection := c, transacted, mode }] })

/-- The sessions of a connection that are open and can still be reached. -/
def sessionCount (h : Hub L) (c : ConnectionId) : Nat :=
  ((List.range h.sessions.length).filter fun s =>
    (h.session s).connection == c && (h.session s).isOpen && h.sessionLive s).length

/-- Closes a connection with its sessions. When the broker is gone the connection is closed all
the same, and that is reported. -/
def closeConnection (h : Hub L) (c : ConnectionId) : Except Error Unit × Hub L :=
  let x := h.connection c
  if x.state = .closed then (.ok (), h)
  else
    let h := h.setConnection c { x with state := .closed }
    let h := (List.range h.sessions.length).foldl (fun h s =>
      if (h.session s).connection = c then h.shutdownSession s else h) h
    let h := h.setConnection c { h.connection c with clientId := none }
    match h.closeLink x.link with
    | .ok h => (.ok (), h)
    | .error e => (.error e, h)

def dropConnection (h : Hub L) (c : ConnectionId) : Hub L :=
  h.setConnection c { h.connection c with held := false }

/-- Opens a connection. One that cannot get its client id is closed again at once. -/
def openConnection (h : Hub L) (d : DirectoryId) (url : Url) (username clientId : Option String)
    (defaults : Quality) : Except Error ConnectionId × Hub L :=
  match h.openLink d url username with
  | .error e => (.error e, h)
  | .ok (link, h) =>
    let c := h.connections.length
    let h := { h with connections := h.connections ++ [{ link, defaults }] }
    match clientId with
    | none => (.ok c, h)
    | some id =>
      match h.setClientId c id with
      | .ok h => (.ok c, h)
      | .error e => (.error e, (h.closeConnection c).2.dropConnection c)

end Courier.Hub
