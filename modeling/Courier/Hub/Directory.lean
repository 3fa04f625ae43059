import Courier.Hub.Basic

/-!
# Directories and registries

A directory maps names to brokers. A registry maps URL schemes to directories: a URL of a
registered scheme names a broker in that scheme's directory by its host.
-/

namespace Courier.Hub

set_option autoImplicit false

variable {L : Type}

def addBroker (h : Hub L) (name : String) : BrokerId × Hub L :=
  (h.brokers.length, { h with brokers := h.brokers ++ [{ name }] })

def addDirectory (h : Hub L) : DirectoryId × Hub L :=
  (h.directories.length, { h with directories := h.directories ++ [∅] })

def addRegistry (h : Hub L) : RegistryId × Hub L :=
  (h.registries.length, { h with registries := h.registries ++ [∅] })

def setDirectory (h : Hub L) (d : DirectoryId) (t : Table String BrokerId) : Hub L :=
  { h with directories := h.directories.set d t }

/-- The broker of that name, made on first use. -/
def getOrCreate (h : Hub L) (d : DirectoryId) (name : String) : BrokerId × Hub L :=
  match (h.directory d).get? name with
  | some b => (b, h)
  | none =>
    let (b, h) := h.addBroker name
    (b, h.setDirectory d ((h.directory d).insert name b))

def findBroker (h : Hub L) (d : DirectoryId) (name : String) : Option BrokerId :=
  (h.directory d).get? name

/-- The broker of that name, provided it is still the one expected. -/
def lookup (h : Hub L) (d : DirectoryId) (name : String) (expected : BrokerId) :
    Except Error BrokerId :=
  match h.findBroker d name with
  | some b => if b = expected then .ok b else .error (.brokerReplaced name)
  | none => .error (.brokerGone name)

/-- Forgets a broker. Those who still know it can go on using it. -/
def removeBroker (h : Hub L) (d : DirectoryId) (name : String) : Option BrokerId × Hub L :=
  (h.findBroker d name, h.setDirectory d ((h.directory d).erase name))

def brokerNames (h : Hub L) (d : DirectoryId) : List String :=
  (h.directory d).sortedKeys

/-- The scheme under which directories are registered. -/
def vmScheme : String := "vm"

def defaultUrl : String := "vm://default"

def registerProvider (h : Hub L) (r : RegistryId) (d : DirectoryId) : Hub L :=
  { h with registries := h.registries.set r ((h.registry r).insert vmScheme d) }

/-- A registry with a directory of its own. -/
def addDefaultRegistry (h : Hub L) : RegistryId × Hub L :=
  let (r, h) := h.addRegistry
  let (d, h) := h.addDirectory
  (r, h.registerProvider r d)

/-- The provider of a scheme, whose letters may have either case. -/
def provider? (h : Hub L) (r : RegistryId) (scheme : String) : Option (String × DirectoryId) :=
  let scheme := Text.asciiLower scheme
  ((h.registry r).get? scheme).map (scheme, ·)

def schemes (h : Hub L) (r : RegistryId) : List String :=
  (h.registry r).sortedKeys

/-- The provider that a URL selects, and the URL. -/
def resolve (h : Hub L) (r : RegistryId) (text : String) :
    Except Error (String × DirectoryId × Url) := do
  let scheme := text.toList.takeWhile (· ≠ ':')
  let rest := text.toList.dropWhile (· ≠ ':')
  if rest.isEmpty then throw (.noScheme text)
  let scheme := String.ofList scheme
  match h.provider? r scheme with
  | none => throw (.noProvider scheme)
  | some (name, d) =>
    match Url.ofScheme name (String.ofList (rest.drop 1)) with
    | .ok url => return (name, d, url)
    | .error fault => throw (.malformedUrl text fault)

/-- Links a new connection to the broker that the URL names. Credentials are taken as they are. -/
def openLink (h : Hub L) (d : DirectoryId) (url : Url) (username : Option String) :
    Except Error (Link × Hub L) :=
  match url.host? with
  | none => .error (.noBrokerName url)
  | some name =>
    let (b, h) := h.getOrCreate d name
    let (owner, h) := h.mint
    .ok (⟨d, name, b, owner, username⟩, h)

/-- The broker a link leads to. -/
def linked (h : Hub L) (l : Link) : Except Error BrokerId := h.lookup l.directory l.brokerName l.broker

/-- Changes a broker. -/
def onBroker (h : Hub L) (b : BrokerId)
    (f : Broker (Endpoint L) → Except Error (Broker (Endpoint L))) : Except Error (Hub L) :=
  (f (h.broker b)).map (h.setBroker b)

/-- Changes the broker at the end of a link. -/
def onLink (h : Hub L) (l : Link)
    (f : Broker (Endpoint L) → Except Error (Broker (Endpoint L))) : Except Error (Hub L) := do
  h.onBroker (← h.linked l) f

def createDestinationOn (h : Hub L) (b : BrokerId) (name : String) (kind : DestinationKind) :
    Except Error (Destination × Hub L) := do
  let (d, x) ← (h.broker b).createDestination name kind
  return (d, h.setBroker b x)

def createDestination (h : Hub L) (l : Link) (name : String) (kind : DestinationKind) :
    Except Error (Destination × Hub L) := do
  h.createDestinationOn (← h.linked l) name kind

def createTemporaryOn (h : Hub L) (b : BrokerId) (kind : DestinationKind) (owner : String) :
    Destination × Hub L :=
  let (token, h) := h.mint
  let (d, x) := (h.broker b).createTemporary token kind owner
  (d, h.setBroker b x)

def createTemporary (h : Hub L) (l : Link) (kind : DestinationKind) :
    Except Error (Destination × Hub L) := do
  return h.createTemporaryOn (← h.linked l) kind l.owner

def deleteTemporary (h : Hub L) (l : Link) (d : Destination) : Except Error (Hub L) :=
  h.onLink l (·.deleteTemporary d l.owner)

def register (h : Hub L) (l : Link) (d : Destination) (id : String) (e : Endpoint L) :
    Except Error (Hub L) :=
  h.onLink l (·.register d id l.owner e)

def unregister (h : Hub L) (l : Link) (d : Destination) (id : String) : Except Error (Hub L) :=
  h.onLink l (·.unregister d id)

def claim (h : Hub L) (l : Link) (id : String) : Except Error (Hub L) :=
  h.onLink l (·.claim id l.owner)

def release (h : Hub L) (l : Link) (id : String) : Except Error (Hub L) :=
  h.onLink l fun b => .ok (b.release id l.owner)

/-- Gives up what the link's connection holds on its broker. -/
def closeLink (h : Hub L) (l : Link) : Except Error (Hub L) :=
  h.onLink l fun b => .ok (b.releaseConnection l.owner)

end Courier.Hub
