import Courier.Proofs.Hub.Names
import Courier.Proofs.Hub.State

/-!
# Wiring and names

Two invariants of the hub that the others rest on. The wiring: everything refers to things that
have been made, and a broker that can be found is found in one place only, the one its links
name. The names: the texts the hub gave out still tell connections, consumers and temporary
destinations apart.
-/

namespace Courier.Hub

set_option autoImplicit false

variable {L : Type}

/-- The link through which a consumer registers. -/
def linkOf (h : Hub L) (k : ConsumerId) : Link := h.sessionLink (h.consumer k).session

structure Wired (h : Hub L) : Prop where
  session_lt : ∀ {k}, k < h.consumers.length → (h.consumer k).session < h.sessions.length
  connection_lt : ∀ {s}, s < h.sessions.length → (h.session s).connection < h.connections.length
  broker_lt : ∀ {c}, c < h.connections.length → (h.connection c).link.broker < h.brokers.length
  found_lt : ∀ {dir name b}, h.findBroker dir name = some b → b < h.brokers.length
  found_once : ∀ {dir name dir' name' b}, h.findBroker dir name = some b →
    h.findBroker dir' name' = some b → dir' = dir ∧ name' = name
  link_found : ∀ {c dir name}, c < h.connections.length →
    h.findBroker dir name = some (h.connection c).link.broker →
    (h.connection c).link.directory = dir ∧ (h.connection c).link.brokerName = name

structure Named (h : Hub L) : Prop where
  owner : ∀ {c}, c < h.connections.length →
    ∃ n < h.minted, (h.connection c).link.owner = uniqueName n
  owner_inj : ∀ {c c'}, c < h.connections.length → c' < h.connections.length →
    (h.connection c).link.owner = (h.connection c').link.owner → c = c'
  id : ∀ {k}, k < h.consumers.length →
    ∃ n < h.minted, (h.consumer k).id = "consumer-" ++ uniqueName n
  id_inj : ∀ {k k'}, k < h.consumers.length → k' < h.consumers.length →
    (h.consumer k).id = (h.consumer k').id → k = k'
  temporary : ∀ {b d}, (h.broker b).interned d = true → d.temporary = true →
    ∃ n < h.minted, d.name = "temp-" ++ uniqueName n
  spelled : ∀ {b d}, (h.broker b).interned d = true → d.temporary = false →
    (h.broker b).names.contains (d.kind, Text.lowercase d.name) = true

namespace Wired
variable {h : Hub L}

/-- Every link to a broker that can be found leads to it. -/
theorem linked (wired : Wired h) {c : ConnectionId} {dir : DirectoryId} {name : String}
    (made : c < h.connections.length)
    (found : h.findBroker dir name = some (h.connection c).link.broker) :
    h.linked (h.connection c).link = .ok (h.connection c).link.broker := by
  obtain ⟨rfl, rfl⟩ := wired.link_found made found
  exact linked_ok.mpr ⟨found, rfl⟩

theorem connection_of_consumer_lt (wired : Wired h) {k : ConsumerId}
    (made : k < h.consumers.length) :
    (h.session (h.consumer k).session).connection < h.connections.length :=
  wired.connection_lt (wired.session_lt made)

theorem linked_of_consumer (wired : Wired h) {k : ConsumerId} {dir : DirectoryId} {name : String}
    {b : BrokerId} (made : k < h.consumers.length) (found : h.findBroker dir name = some b)
    (at_b : (h.linkOf k).broker = b) : h.linked (h.linkOf k) = .ok b := by
  subst at_b
  exact wired.linked (wired.connection_of_consumer_lt made) found

end Wired

/-- Nothing was made or renamed, and no broker came or went. -/
structure Still (h h' : Hub L) : Prop where
  brokers : h'.brokers.length = h.brokers.length
  connections : h'.connections.length = h.connections.length
  sessions : h'.sessions.length = h.sessions.length
  consumers : h'.consumers.length = h.consumers.length
  found : ∀ dir name, h'.findBroker dir name = h.findBroker dir name
  link : ∀ c, (h'.connection c).link = (h.connection c).link
  connection : ∀ s, (h'.session s).connection = (h.session s).connection
  session : ∀ k, (h'.consumer k).session = (h.consumer k).session
  id : ∀ k, (h'.consumer k).id = (h.consumer k).id
  minted : h.minted ≤ h'.minted

namespace Still
variable {h h' h'' : Hub L}

theorem of_eq (brokers : h'.brokers.length = h.brokers.length)
    (directories : h'.directories = h.directories) (connections : h'.connections = h.connections)
    (sessions : h'.sessions = h.sessions) (consumers : h'.consumers = h.consumers)
    (minted : h.minted ≤ h'.minted) : Still h h' where
  brokers := brokers
  connections := congrArg List.length connections
  sessions := congrArg List.length sessions
  consumers := congrArg List.length consumers
  found dir name := by simp only [findBroker, directory, directories]
  link c := by simp only [Hub.connection, connections]
  connection s := by simp only [Hub.session, sessions]
  session k := by simp only [Hub.consumer, consumers]
  id k := by simp only [Hub.consumer, consumers]
  minted := minted

theorem refl (h : Hub L) : Still h h := of_eq rfl rfl rfl rfl rfl (Nat.le_refl _)

theorem setBroker (h : Hub L) (b : BrokerId) (x : Broker (Endpoint L)) :
    Still h (h.setBroker b x) :=
  of_eq List.length_set rfl rfl rfl rfl (Nat.le_refl _)

theorem setConnection {c : ConnectionId} {x : Connection}
    (link : x.link = (h.connection c).link) : Still h (h.setConnection c x) :=
  { refl h with
    connections := List.length_set
    link := view_getD_set Connection.link link }

theorem setSession {s : SessionId} {x : Session}
    (connection : x.connection = (h.session s).connection) : Still h (h.setSession s x) :=
  { refl h with
    sessions := List.length_set
    connection := view_getD_set Session.connection connection }

theorem setConsumer {k : ConsumerId} {x : Consumer L} (id : x.id = (h.consumer k).id)
    (session : x.session = (h.consumer k).session) : Still h (h.setConsumer k x) :=
  { refl h with
    consumers := List.length_set
    session := view_getD_set Consumer.session session
    id := view_getD_set Consumer.id id }

theorem trans (first : Still h h') (second : Still h' h'') : Still h h'' where
  brokers := second.brokers.trans first.brokers
  connections := second.connections.trans first.connections
  sessions := second.sessions.trans first.sessions
  consumers := second.consumers.trans first.consumers
  found dir name := (second.found dir name).trans (first.found dir name)
  link c := (second.link c).trans (first.link c)
  connection s := (second.connection s).trans (first.connection s)
  session k := (second.session k).trans (first.session k)
  id k := (second.id k).trans (first.id k)
  minted := Nat.le_trans first.minted second.minted

theorem linkOf (still : Still h h') (k : ConsumerId) : h'.linkOf k = h.linkOf k := by
  rw [Hub.linkOf, sessionLink, still.session, still.connection, still.link]
  rfl

theorem linked (still : Still h h') (l : Link) : h'.linked l = h.linked l := by
  rw [Hub.linked, lookup, still.found]
  rfl

theorem wired (still : Still h h') (wired : Wired h) : Wired h' where
  session_lt {k} made := by
    rw [still.consumers] at made
    rw [still.session, still.sessions]
    exact wired.session_lt made
  connection_lt {s} made := by
    rw [still.sessions] at made
    rw [still.connection, still.connections]
    exact wired.connection_lt made
  broker_lt {c} made := by
    rw [still.connections] at made
    rw [still.link, still.brokers]
    exact wired.broker_lt made
  found_lt {dir name b} found := by
    rw [still.found] at found
    rw [still.brokers]
    exact wired.found_lt found
  found_once {dir name dir' name' b} found found' := by
    rw [still.found] at found found'
    exact wired.found_once found found'
  link_found {c dir name} made found := by
    rw [still.connections] at made
    rw [still.found, still.link] at found
    rw [still.link]
    exact wired.link_found made found

/-- Names stay told apart as long as no destination comes and no spelling goes. -/
theorem named (still : Still h h') (named : Named h)
    (interned : ∀ b d, (h'.broker b).interned d = true → (h.broker b).interned d = true)
    (names : ∀ b, (h'.broker b).names = (h.broker b).names) : Named h' where
  owner {c} made := by
    rw [still.connections] at made
    obtain ⟨n, lt, eq⟩ := named.owner made
    exact ⟨n, Nat.lt_of_lt_of_le lt still.minted, by rw [still.link, eq]⟩
  owner_inj {c c'} made made' same := by
    rw [still.connections] at made made'
    rw [still.link, still.link] at same
    exact named.owner_inj made made' same
  id {k} made := by
    rw [still.consumers] at made
    obtain ⟨n, lt, eq⟩ := named.id made
    exact ⟨n, Nat.lt_of_lt_of_le lt still.minted, by rw [still.id, eq]⟩
  id_inj {k k'} made made' same := by
    rw [still.consumers] at made made'
    rw [still.id, still.id] at same
    exact named.id_inj made made' same
  temporary {b d} here temporary := by
    obtain ⟨n, lt, eq⟩ := named.temporary (interned b d here) temporary
    exact ⟨n, Nat.lt_of_lt_of_le lt still.minted, eq⟩
  spelled {b d} here lasting := by
    rw [names]
    exact named.spelled (interned b d here) lasting

end Still

end Courier.Hub
