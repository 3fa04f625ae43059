import Courier.Hub.Session
import Courier.Settings.Basic

/-!
# Connection factories

A factory knows the URL that its connections go to, and the credentials, the client id and the
producer defaults that they start with.
-/

namespace Courier

set_option autoImplicit false

variable {L : Type}

structure Factory where
  registry : RegistryId
  url : String
  clientId : Option String := none
  username : Option String := none
  password : Option String := none
  defaults : Quality := {}

namespace Factory

/-- A factory for the default URL. -/
def fresh (registry : RegistryId) : Factory := { registry, url := Hub.defaultUrl }

/-- A URL is taken once a provider for it has been found. -/
def setUrl (f : Factory) (h : Hub L) (url : String) : Except Error Factory := do
  let _ ← h.resolve f.registry url
  return { f with url }

def withUrl (h : Hub L) (registry : RegistryId) (url : String) : Except Error Factory :=
  (fresh registry).setUrl h url

def ofSettings (h : Hub L) (registry : RegistryId) (s : Settings) : Except Error Factory := do
  let f ← withUrl h registry s.connection.url
  let deliveryMode ← DeliveryMode.ofName s.producer.deliveryMode
  let priority ← checkPriority s.producer.priority.toInt
  let timeToLive ← checkTimeToLive s.producer.timeToLive
  return { f with
    clientId := s.connection.clientId
    username := s.connection.username
    password := s.connection.password
    defaults := { deliveryMode, priority, timeToLive } }

/-- Opens a connection for a user. The password is not looked at. -/
def connectAs (f : Factory) (h : Hub L) (username : Option String) :
    Except Error ConnectionId × Hub L :=
  match h.resolve f.registry f.url with
  | .error e => (.error e, h)
  | .ok (_, d, url) => h.openConnection d url username f.clientId f.defaults

def connect (f : Factory) (h : Hub L) : Except Error ConnectionId × Hub L :=
  f.connectAs h f.username

end Factory

/-- A session with the mode and the flag of the settings. -/
def Hub.createSessionFrom (h : Hub L) (c : ConnectionId) (s : SessionSettings) :
    Except Error (SessionId × Hub L) := do
  let mode ← AcknowledgeMode.ofName s.acknowledgeMode
  h.createSession c s.transacted mode

/-- Facts about the interface and the provider. -/
structure Metadata where
  version : String := "1.1"
  majorVersion : Nat := 1
  minorVersion : Nat := 1
  providerName : String := "minijms"
  providerVersion : String := "0.1.0"
  providerMajorVersion : Nat := 0
  providerMinorVersion : Nat := 1
  extensionProperties : List String := []

def Hub.metadata (h : Hub L) (c : ConnectionId) : Except Error Metadata := do
  h.ensureConnectionOpen c
  return {}

end Courier
