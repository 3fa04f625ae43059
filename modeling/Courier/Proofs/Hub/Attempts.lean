import Courier.Proofs.Hub.ClientIds
import Courier.Proofs.Hub.Granted

/-!
# Failed attempts to connect

An attempt that gets as far as a broker makes a connection, and if that cannot have its client id it
is closed again, which takes from the broker whatever is under the id of the connection. As nothing
is under a new id, brokers are left as they were, except that one may have been made.
-/

namespace Courier

set_option autoImplicit false

namespace Broker
variable {ε : Type} {b : Broker ε} {id owner : String}

/-- The broker holds nothing for that owner. -/
structure Unknown (b : Broker ε) (owner : String) : Prop where
  site : ∀ e ∈ b.destinations.entries, e.2.owner ≠ some owner
  clientId : ∀ e ∈ b.clientIds.entries, e.2 ≠ owner

theorem unknown_fresh (name owner : String) : Unknown ({ name } : Broker ε) owner where
  site _ mem := by cases mem
  clientId _ mem := by cases mem

namespace Unknown

theorem releaseConnection (unknown : b.Unknown owner) : b.releaseConnection owner = b := by
  have sites : b.destinations.filter (fun _ s => s.owner ≠ some owner) = b.destinations :=
    Table.filter_eq_self fun e mem => decide_eq_true (unknown.site e mem)
  have ids : b.clientIds.filter (fun _ holder => holder ≠ owner) = b.clientIds :=
    Table.filter_eq_self fun e mem => decide_eq_true (unknown.clientId e mem)
  rw [Broker.releaseConnection, sites, ids]

/-- Whoever holds the id, it is somebody else. -/
theorem claim_error_iff (unknown : b.Unknown owner) (given : id ≠ "") {e : Error} :
    b.claim id owner = .error e ↔
      e = .clientIdInUse id ∧ ∃ holder, b.clientIds.get? id = some holder := by
  cases held : b.clientIds.get? id with
  | none => simp [claim_of_free given held]
  | some holder =>
    have other := unknown.clientId _ (Table.get?_eq_some_iff.mp held)
    simp [claim_of_held given held other, eq_comm]

end Unknown

end Broker

/-- Why a new connection to the broker of that name cannot have a client id. The last of these needs
a directory that was never made. -/
inductive Hub.Denied {L : Type} (h : Hub L) (d : DirectoryId) (name : String) :
    String → Error → Prop
  | empty : Denied h d name "" .emptyClientId
  | taken {id holder : String} {b : BrokerId} (given : id ≠ "")
      (found : h.findBroker d name = some b)
      (held : (h.broker b).clientIds.get? id = some holder) :
      Denied h d name id (.clientIdInUse id)
  | unlisted {id : String} (given : id ≠ "") (missing : h.directories.length ≤ d) :
      Denied h d name id (.brokerGone name)

namespace Hub.Denied
variable {L : Type} {h : Hub L} {d : DirectoryId} {name id : String} {e : Error}

theorem empty_iff : h.Denied d name "" e ↔ e = .emptyClientId := by
  constructor
  · intro denied
    cases denied with
    | empty => rfl
    | taken given => exact absurd rfl given
    | unlisted given => exact absurd rfl given
  · rintro rfl
    exact .empty

theorem unlisted_iff (given : id ≠ "") (missing : h.directories.length ≤ d) :
    h.Denied d name id e ↔ e = .brokerGone name := by
  constructor
  · intro denied
    cases denied with
    | empty => exact absurd rfl given
    | taken _ found => exact absurd (directory_lt_of_found found) (Nat.not_lt.mpr missing)
    | unlisted => rfl
  · rintro rfl
    exact .unlisted given missing

theorem taken_iff (given : id ≠ "") (inside : d < h.directories.length) :
    h.Denied d name id e ↔ e = .clientIdInUse id ∧
      ∃ b holder, h.findBroker d name = some b ∧ (h.broker b).clientIds.get? id = some holder := by
  constructor
  · intro denied
    cases denied with
    | empty => exact absurd rfl given
    | taken _ found held => exact ⟨rfl, _, _, found, held⟩
    | unlisted _ missing => exact absurd inside (Nat.not_lt.mpr missing)
  · rintro ⟨rfl, b, holder, found, held⟩
    exact .taken given found held

end Hub.Denied

/-- What keeps a factory from making a connection: its URL, or its client id. -/
inductive Factory.Obstacle {L : Type} (f : Factory) (h : Hub L) : Error → Prop
  | unresolved {e : Error} (failed : h.resolve f.registry f.url = .error e) : Obstacle f h e
  | nameless {scheme : String} {d : DirectoryId} {url : Url}
      (resolved : h.resolve f.registry f.url = .ok (scheme, d, url)) (unnamed : url.host? = none) :
      Obstacle f h (.noBrokerName url)
  | clientId {scheme name id : String} {d : DirectoryId} {url : Url} {e : Error}
      (resolved : h.resolve f.registry f.url = .ok (scheme, d, url))
      (named : url.host? = some name) (asked : f.clientId = some id)
      (denied : h.Denied d name id e) : Obstacle f h e

namespace Hub

variable {L : Type} {h h' : Hub L} {c : ConnectionId}

/-- Nothing belongs yet to the connection that is made next: no session has its number, and no
broker knows its id. -/
structure Unclaimed (h : Hub L) : Prop where
  session : ∀ s < h.sessions.length, (h.session s).connection ≠ h.connections.length
  unknown : ∀ b < h.brokers.length, (h.broker b).Unknown (uniqueName h.minted)

/-- Brokers are as they were, apart from an empty one that may have been made, and so are the
connections, apart from one that is closed. -/
structure Spares (h h' : Hub L) : Prop extends Enlists h h' where
  others : h'.brokers = h.brokers ∨ ∃ name, h'.brokers = h.brokers ++ [{ name := name }]
  connections : h'.connections = h.connections ∨
    ∃ x, x.state = .closed ∧ x.held = false ∧ h'.connections = h.connections ++ [x]

/-- Sessions belong to connections that have been made, so what counts is that the id is new. -/
theorem Wired.unclaimed (wired : Wired h)
    (unknown : ∀ b < h.brokers.length, (h.broker b).Unknown (uniqueName h.minted)) :
    Unclaimed h where
  session _ made := Nat.ne_of_lt (wired.connection_lt made)
  unknown := unknown

namespace Spares

theorem refl (h : Hub L) : Spares h h where
  toEnlists := .refl h
  others := .inl rfl
  connections := .inl rfl

theorem broker (spares : Spares h h') {b : BrokerId} (made : b < h.brokers.length) :
    h'.broker b = h.broker b := by
  rcases spares.others with same | ⟨name, same⟩
  · rw [Hub.broker, same, Hub.broker]
  · rw [Hub.broker, same, getD_append_singleton, if_neg (Nat.ne_of_lt made), Hub.broker]

end Spares

theorem broker_lt_of_holder {b : BrokerId} {id holder : String}
    (held : (h.broker b).clientIds.get? id = some holder) : b < h.brokers.length := by
  by_contra beyond
  rw [broker_of_le (Nat.le_of_not_lt beyond)] at held
  cases held

/-! A connection without sessions, of which its broker knows nothing, closes without a trace on any
broker. -/

theorem foldl_shutIn_of_alone (alone : ∀ s < h.sessions.length, (h.session s).connection ≠ c) :
    (List.range h.sessions.length).foldl (shutIn c) h = h := by
  refine List.foldlRecOn (motive := fun h' => h' = h) _ _ rfl ?_
  rintro _ rfl s mem
  exact if_neg (alone s (List.mem_range.mp mem))

theorem emptied_of_alone (made : c < h.connections.length)
    (alone : ∀ s < h.sessions.length, (h.session s).connection ≠ c) :
    h.emptied c =
      h.setConnection c { h.connection c with state := .closed, clientId := none } := by
  generalize marked : h.setConnection c { h.connection c with state := .closed } = h₁
  have alone₁ : ∀ s < h₁.sessions.length, (h₁.session s).connection ≠ c := by
    rw [← marked]
    exact alone
  have noted : h₁.connection c = { h.connection c with state := .closed } := by
    rw [← marked, connection_setConnection_of_lt made, if_pos rfl]
  have folded : h.emptied c = h₁.setConnection c { h₁.connection c with clientId := none } := by
    rw [emptied, marked, foldl_shutIn_of_alone alone₁]
  rw [folded, noted, ← marked]
  simp only [setConnection, List.set_set]

theorem closeConnection_of_alone (opened : (h.connection c).state ≠ .closed)
    (alone : ∀ s < h.sessions.length, (h.session s).connection ≠ c)
    (unknown : ∀ b, (h.broker b).Unknown (h.connection c).link.owner) :
    (h.closeConnection c).2 =
      h.setConnection c { h.connection c with state := .closed, clientId := none } := by
  have emptying := emptied_of_alone (connection_lt_of_open opened) alone
  rcases closeConnection_of_open opened with ⟨h', released, same⟩ | ⟨e, -, same⟩
  · obtain ⟨b, x, -, left, rfl⟩ := onLink_ok released
    have kept : (h.emptied c).broker b = h.broker b := by
      rw [emptying]
      rfl
    rw [kept, (unknown b).releaseConnection] at left
    cases left
    rw [same, ← kept, setBroker_self, emptying]
  · rw [same, emptying]

/-! The connection of an attempt. -/

section Attempt
variable (h) (d : DirectoryId) (name : String) (username : Option String) (defaults : Quality)

/-- The connection that an attempt makes first. -/
def newcomer : Connection where
  link := ⟨d, name, (h.getOrCreate d name).1, uniqueName h.minted, username⟩
  defaults := defaults

/-- The hub after an attempt that got as far as a broker. -/
def turnedAway : Hub L :=
  { h.joined d name username defaults with
    connections := h.connections ++
      [{ h.newcomer d name username defaults with state := .closed, held := false }] }

theorem joined_connections : (h.joined d name username defaults).connections =
    h.connections ++ [h.newcomer d name username defaults] := by
  obtain ⟨brokers, directories, same⟩ := getOrCreate_rest h d name
  simp only [joined, newcomer, same]

theorem connection_joined : (h.joined d name username defaults).connection h.connections.length =
    h.newcomer d name username defaults := by
  rw [connection, joined_connections]
  exact getD_append_singleton_self ..

variable {h d}

theorem broker_joined_of_found {b : BrokerId} (found : h.findBroker d name = some b)
    (b' : BrokerId) : (h.joined d name username defaults).broker b' = h.broker b' := by
  show (h.getOrCreate d name).2.broker b' = _
  rw [getOrCreate_of_found found]

theorem broker_joined_of_missing (missing : h.findBroker d name = none) (b : BrokerId) :
    (h.joined d name username defaults).broker b =
      if b = (h.getOrCreate d name).1 then { name } else h.broker b := by
  have listed : (h.directory d).get? name = none := missing
  show (h.getOrCreate d name).2.broker b = _
  simp only [getOrCreate, listed]
  exact broker_addBroker ..

/-- A broker that a new connection joins has been there or is empty. -/
theorem broker_joined_cases (b : BrokerId) :
    (h.joined d name username defaults).broker b = h.broker b ∨
      (h.joined d name username defaults).broker b = { name } := by
  cases found : h.findBroker d name with
  | some => exact .inl (broker_joined_of_found name username defaults found b)
  | none =>
    rw [broker_joined_of_missing name username defaults found]
    split
    · exact .inr rfl
    · exact .inl rfl

theorem Unclaimed.unknown_all (unclaimed : Unclaimed h) (b : BrokerId) :
    (h.broker b).Unknown (uniqueName h.minted) := by
  by_cases made : b < h.brokers.length
  · exact unclaimed.unknown b made
  · rw [broker_of_le (Nat.le_of_not_lt made)]
    exact Broker.unknown_fresh _ _

theorem Unclaimed.unknown_joined (unclaimed : Unclaimed h) (b : BrokerId) :
    ((h.joined d name username defaults).broker b).Unknown (uniqueName h.minted) := by
  rcases broker_joined_cases (h := h) (d := d) name username defaults b with same | same
  · rw [same]
    exact unclaimed.unknown_all b
  · rw [same]
    exact Broker.unknown_fresh _ _

theorem closeConnection_joined (unclaimed : Unclaimed h) :
    ((h.joined d name username defaults).closeConnection h.connections.length).2.dropConnection
      h.connections.length = h.turnedAway d name username defaults := by
  generalize joins : h.joined d name username defaults = j
  have last : j.connection h.connections.length = h.newcomer d name username defaults := by
    rw [← joins, connection_joined]
  have alone : ∀ s < j.sessions.length, (j.session s).connection ≠ h.connections.length := by
    obtain ⟨brokers, directories, minted, x, -, rest⟩ := joined_rest h d name username defaults
    rw [← joins, rest]
    exact unclaimed.session
  have unknown : ∀ b, (j.broker b).Unknown (j.connection h.connections.length).link.owner := by
    intro b
    rw [last, ← joins]
    exact unclaimed.unknown_joined name username defaults b
  have closes := closeConnection_of_alone (by simp [last, newcomer]) alone unknown
  have reopened : (j.setConnection h.connections.length
      { h.newcomer d name username defaults with state := .closed }).connection
        h.connections.length = { h.newcomer d name username defaults with state := .closed } := by
    rw [← joins, connection, setConnection, joined_connections, set_append_singleton]
    exact getD_append_singleton_self ..
  rw [closes, last]
  show Hub.dropConnection (j.setConnection _ { h.newcomer d name username defaults with
    state := .closed }) _ = _
  rw [dropConnection, reopened, turnedAway, ← joins]
  simp only [setConnection, joined_connections, set_append_singleton]

/-- Who has the client id on the broker that is joined had it there before. -/
theorem holder_joined_iff {id : String} :
    (∃ holder, ((h.joined d name username defaults).broker (h.getOrCreate d name).1).clientIds.get?
      id = some holder) ↔
    ∃ b holder, h.findBroker d name = some b ∧ (h.broker b).clientIds.get? id = some holder := by
  cases found : h.findBroker d name with
  | some b =>
    rw [broker_joined_of_found name username defaults found, getOrCreate_of_found found]
    simp
  | none =>
    rw [broker_joined_of_missing name username defaults found, if_pos rfl]
    constructor
    · rintro ⟨holder, held⟩
      cases held
    · rintro ⟨b, holder, absurd, -⟩
      cases absurd

theorem setClientId_of_lost {c : ConnectionId} {id : String} {e : Error}
    (opened : (h.connection c).state ≠ .closed) (unset : (h.connection c).clientId = none)
    (lost : h.linked (h.connection c).link = .error e) (given : id ≠ "") :
    h.setClientId c id = .error e := by
  have nonempty : ¬ id.isEmpty = true := by simpa using given
  have refused : h.claim (h.connection c).link id = .error e := by
    rw [claim, onLink, lost]
    rfl
  rw [setClientId, ensureConnectionOpen_of_open opened]
  simp only [unset, if_neg nonempty, refused]
  rfl

/-- In a directory that was never made nothing is found, not even after it has been looked for. -/
theorem linked_joined_of_missing (missing : h.directories.length ≤ d) :
    (h.joined d name username defaults).linked (h.newcomer d name username defaults).link =
      .error (.brokerGone name) := by
  have unfound : (h.joined d name username defaults).findBroker d name = none := by
    have count : (h.getOrCreate d name).2.directories.length = h.directories.length := by
      unfold getOrCreate
      split
      · rfl
      · exact List.length_set
    rw [Option.eq_none_iff_forall_ne_some]
    intro b found
    exact Nat.not_lt_of_le missing (count ▸ directory_lt_of_found found)
  simp only [linked, lookup, newcomer, unfound]

theorem linked_joined (inside : d < h.directories.length) :
    (h.joined d name username defaults).linked (h.newcomer d name username defaults).link =
      .ok (h.getOrCreate d name).1 :=
  linked_ok.mpr ⟨findBroker_getOrCreate inside name, rfl⟩

theorem setClientId_joined_error_iff (unclaimed : Unclaimed h) {id : String} {e : Error} :
    (h.joined d name username defaults).setClientId h.connections.length id = .error e ↔
      h.Denied d name id e := by
  have last := connection_joined h d name username defaults
  have opened : ((h.joined d name username defaults).connection h.connections.length).state ≠
      .closed := by simp [last, newcomer]
  have unset : ((h.joined d name username defaults).connection h.connections.length).clientId =
      none := by rw [last, newcomer]
  by_cases empty : id = ""
  · rw [empty, setClientId_of_empty (clientId_ok.mpr ⟨opened, unset⟩), Denied.empty_iff,
      Except.error.injEq, eq_comm]
  by_cases missing : h.directories.length ≤ d
  · have lost := linked_joined_of_missing name username defaults missing
    rw [← last] at lost
    rw [setClientId_of_lost opened unset lost empty, Denied.unlisted_iff empty missing,
      Except.error.injEq, eq_comm]
  · have inside := Nat.lt_of_not_le missing
    have reached := linked_joined name username defaults inside
    rw [← last] at reached
    have unknown :=
      unclaimed.unknown_joined (d := d) name username defaults (h.getOrCreate d name).1
    have owner : ((h.joined d name username defaults).connection h.connections.length).link.owner =
        uniqueName h.minted := by rw [last, newcomer]
    rw [setClientId_of_open opened unset reached, owner, map_eq_error_iff,
      unknown.claim_error_iff empty, holder_joined_iff, Denied.taken_iff empty inside]

/-! Opening a connection. -/

variable {name username defaults}
variable {url : Url} {clientId : Option String} {id : String} {e : Error}

theorem openConnection_of_unnamed (unnamed : url.host? = none) :
    h.openConnection d url username clientId defaults = (.error (.noBrokerName url), h) := by
  simp only [openConnection, openLink, unnamed]

section Named
variable (named : url.host? = some name)
include named

theorem openConnection_of_unasked :
    h.openConnection d url username none defaults =
      (.ok h.connections.length, h.joined d name username defaults) := by
  obtain ⟨brokers, directories, same⟩ := getOrCreate_rest h d name
  simp only [openConnection, openLink, named, joined, mint, same]

theorem openConnection_of_granted
    (granted : (h.joined d name username defaults).setClientId h.connections.length id = .ok h') :
    h.openConnection d url username (some id) defaults = (.ok h.connections.length, h') := by
  obtain ⟨brokers, directories, same⟩ := getOrCreate_rest h d name
  simp only [joined, mint, same] at granted
  simp only [openConnection, openLink, named, mint, same, granted]

theorem openConnection_of_refused (unclaimed : Unclaimed h) (refused :
    (h.joined d name username defaults).setClientId h.connections.length id = .error e) :
    h.openConnection d url username (some id) defaults =
      (.error e, h.turnedAway d name username defaults) := by
  obtain ⟨brokers, directories, same⟩ := getOrCreate_rest h d name
  rw [← closeConnection_joined name username defaults unclaimed]
  simp only [joined, mint, same] at refused ⊢
  simp only [openConnection, openLink, named, mint, same, refused]

end Named

theorem turnedAway_spares (h : Hub L) (d : DirectoryId) (name : String) (username : Option String)
    (defaults : Quality) : Spares h (h.turnedAway d name username defaults) where
  toEnlists := { Enlists.getOrCreate h d name with }
  others := by
    show (h.getOrCreate d name).2.brokers = _ ∨ ∃ name', (h.getOrCreate d name).2.brokers = _
    unfold getOrCreate
    split
    · exact .inl rfl
    · exact .inr ⟨name, rfl⟩
  connections := .inr ⟨_, rfl, rfl, rfl⟩

/-- An attempt fails for want of a broker, with no effect, or for want of a client id. -/
theorem openConnection_error (unclaimed : Unclaimed h)
    (failed : (h.openConnection d url username clientId defaults).1 = .error e) :
    (url.host? = none ∧ e = .noBrokerName url ∧
      (h.openConnection d url username clientId defaults).2 = h) ∨
    ∃ name id, url.host? = some name ∧ clientId = some id ∧
      (h.joined d name username defaults).setClientId h.connections.length id = .error e ∧
      (h.openConnection d url username clientId defaults).2 =
        h.turnedAway d name username defaults := by
  cases host : url.host? with
  | none =>
    rw [openConnection_of_unnamed host] at failed ⊢
    exact .inl ⟨rfl, (Except.error.inj failed).symm, rfl⟩
  | some name =>
    cases clientId with
    | none =>
      rw [openConnection_of_unasked host] at failed
      cases failed
    | some id =>
      cases outcome : (h.joined d name username defaults).setClientId h.connections.length id with
      | ok h' =>
        rw [openConnection_of_granted host outcome] at failed
        cases failed
      | error e' =>
        have refused := openConnection_of_refused host unclaimed outcome
        rw [refused] at failed ⊢
        cases failed
        exact .inr ⟨name, id, rfl, rfl, outcome, rfl⟩

end Attempt

section Factories
variable {f : Factory} {username : Option String} {e : Error}

theorem connectAs_of_provided {scheme : String} {d : DirectoryId} {url : Url}
    (resolved : h.resolve f.registry f.url = .ok (scheme, d, url)) (username : Option String) :
    f.connectAs h username = h.openConnection d url username f.clientId f.defaults := by
  simp only [Factory.connectAs, resolved]

/-- Client ids are no matter of URLs. -/
theorem resolve_ne_clientIdInUse {r : RegistryId} {text id : String} :
    h.resolve r text ≠ .error (.clientIdInUse id) := by
  intro failed
  unfold resolve at failed
  dsimp only at failed
  split at failed
  · cases failed
  · split at failed
    · cases failed
    · split at failed
      · cases failed
      · cases failed

theorem connectAs_spares (unclaimed : Unclaimed h)
    (failed : (f.connectAs h username).1 = .error e) : Spares h (f.connectAs h username).2 := by
  cases resolved : h.resolve f.registry f.url with
  | error e' =>
    simp only [Factory.connectAs, resolved]
    exact .refl h
  | ok provided =>
    rw [connectAs_of_provided resolved] at failed ⊢
    rcases openConnection_error unclaimed failed with ⟨-, -, same⟩ | ⟨name, id, -, -, -, same⟩
    · rw [same]
      exact .refl h
    · rw [same]
      exact turnedAway_spares ..

theorem connectAs_error_iff (unclaimed : Unclaimed h) :
    (f.connectAs h username).1 = .error e ↔ f.Obstacle h e := by
  constructor
  · intro failed
    cases resolved : h.resolve f.registry f.url with
    | error e' =>
      simp only [Factory.connectAs, resolved] at failed
      cases failed
      exact .unresolved resolved
    | ok provided =>
      rw [connectAs_of_provided resolved] at failed
      rcases openConnection_error unclaimed failed with
        ⟨unnamed, rfl, -⟩ | ⟨name, id, named, asked, refused, -⟩
      · exact .nameless resolved unnamed
      · rw [setClientId_joined_error_iff _ _ _ unclaimed] at refused
        exact .clientId resolved named asked refused
  · intro obstacle
    cases obstacle with
    | unresolved failed => simp only [Factory.connectAs, failed]
    | nameless resolved unnamed =>
      rw [connectAs_of_provided resolved, openConnection_of_unnamed unnamed]
    | clientId resolved named asked denied =>
      have refused := (setClientId_joined_error_iff _ username f.defaults unclaimed).mpr denied
      rw [connectAs_of_provided resolved, asked, openConnection_of_refused named unclaimed refused]

/-- An attempt to connect fails just if something about the URL or the client id is in its way. Then
every broker that was there is what it was, holds what it held and is found where it was found; at
most one has been made, which holds nothing. Whoever has the client id that was asked for keeps
it. -/
theorem failed_attempt_spares_brokers (unclaimed : Unclaimed h)
    {attempt : Except Error ConnectionId × Hub L}
    (made : attempt = f.connect h ∨ ∃ username, attempt = f.connectAs h username) :
    (∀ e, attempt.1 = .error e ↔ f.Obstacle h e) ∧
    ∀ e, attempt.1 = .error e → Spares h attempt.2 ∧
      (∀ b < h.brokers.length, attempt.2.broker b = h.broker b) ∧
      ∀ id, e = .clientIdInUse id → ∃ dir name b holder, h.findBroker dir name = some b ∧
        (h.broker b).clientIds.get? id = some holder ∧
        (attempt.2.broker b).clientIds.get? id = some holder := by
  obtain ⟨username, rfl⟩ : ∃ username, attempt = f.connectAs h username := by
    rcases made with rfl | named
    · exact ⟨f.username, rfl⟩
    · exact named
  refine ⟨fun e => connectAs_error_iff unclaimed, ?_⟩
  intro e failed
  have spares := connectAs_spares unclaimed failed
  refine ⟨spares, fun b => spares.broker, ?_⟩
  rintro id rfl
  cases (connectAs_error_iff unclaimed).mp failed with
  | unresolved failed => exact absurd failed resolve_ne_clientIdInUse
  | clientId resolved named asked denied =>
    cases denied with
    | taken given found held =>
      refine ⟨_, _, _, _, found, held, ?_⟩
      rwa [spares.broker (broker_lt_of_holder held)]

end Factories

/-- A connection has the client id, and a consumer on a temporary destination of its own. -/
def sampleRival : List (Event Nat) :=
  [.request .addRegistry, .request .addDirectory, .request (.registerProvider 0 0),
    .request (.connect sampleReports none), .request (.createSession 0 false .autoAcknowledge),
    .request (.createTemporary 0 .queue), .request (.createConsumer 0 (some sampleLeftover))]

/-- A second connection cannot have that id, and the first one keeps it with all the rest. -/
theorem failed_attempt_spares_brokers_rival :
    (reached sampleRival).Unclaimed ∧
    (sampleReports.connect (reached sampleRival)).1 = .error (.clientIdInUse "reports") ∧
    (sampleReports.connect (reached sampleRival)).2.broker 0 = (reached sampleRival).broker 0 ∧
    (((reached sampleRival).broker 0).registrations sampleLeftover).length = 1 ∧
    ((reached sampleRival).broker 0).clientIds.get? "reports" =
      some ((reached sampleRival).connection 0).link.owner := by
  have one : (reached sampleRival).brokers.length = 1 := by decide +kernel
  have unclaimed : (reached sampleRival).Unclaimed := by
    refine (sound_reached sampleRival).consistent.wired.unclaimed ?_
    intro b made
    obtain rfl : b = 0 := by omega
    exact ⟨by decide +kernel, by decide +kernel⟩
  have failed : (sampleReports.connect (reached sampleRival)).1 =
      .error (.clientIdInUse "reports") := by decide +kernel
  have spared := (failed_attempt_spares_brokers unclaimed
    (.inl (rfl : sampleReports.connect (reached sampleRival) = _))).2 _ failed
  exact ⟨unclaimed, failed, spared.2.1 0 (by omega), by decide +kernel, by decide +kernel⟩

end Hub

end Courier
