import Courier.CommandLine
import Courier.Proofs.Broker.Interning
import Courier.Proofs.Hub.Granted
import Courier.Proofs.Hub.Names

/-!
# Joining a chat

Who joins a chat opens a connection, a session, a producer and a listening consumer. All that can
go wrong is found out by the first who joins, except that a client id is granted only once: with
one in the settings nobody else gets in.
-/

namespace Courier.Chat

set_option autoImplicit false

/-- What somebody who joins does once connected. -/
def settleIn (h : ChatHub) (c : ConnectionId) (settings : SessionSettings) (topic name : String) :
    Except Error (Participant × ChatHub) := do
  let (s, h) ← h.createSessionFrom c settings
  let (d, h) ← h.sessionDestination s topic .topic
  let (p, h) ← h.createProducer s (some d)
  let (k, h) ← h.createConsumer s (some d)
  let h ← h.setListener k (some name)
  let h ← h.startConnection c
  return (⟨name, c, s, p, k⟩, h)

/-- Whoever is connected to a broker that knows, or takes up, the topic finds nothing amiss. -/
theorem settleIn_of_linked (name : String) {h : ChatHub} {c : ConnectionId}
    {settings : SessionSettings} {topic : String} {b : BrokerId} {x : Broker (Endpoint String)}
    {asked mode : AcknowledgeMode} {d : Destination}
    {consumers : List (Registration (Endpoint String))}
    (opened : (h.connection c).state ≠ .closed)
    (linked : h.linked (h.connection c).link = .ok b) (inside : b < h.brokers.length)
    (known : AcknowledgeMode.ofName settings.acknowledgeMode = .ok asked)
    (effective : Hub.effectiveMode settings.transacted asked = .ok mode)
    (made : (h.broker b).createDestination topic .topic = .ok (d, x))
    (site : x.destinations.get? d = some ⟨none, consumers⟩)
    (fresh : "consumer-" ++ uniqueName (h.minted + 1) ∉ consumers.map (·.id)) :
    settleIn h c settings topic name = .ok (⟨name, c, h.sessions.length, h.producers.length,
      h.consumers.length⟩, { h with
        brokers := h.brokers.set b { x with
          destinations := x.destinations.insert d ⟨none, consumers ++
            [⟨"consumer-" ++ uniqueName (h.minted + 1), .consumer h.consumers.length d⟩]⟩ }
        connections := h.connections.set c { h.connection c with state := .started }
        sessions := h.sessions ++ [{
          id := uniqueName h.minted
          connection := c
          transacted := settings.transacted
          mode }]
        producers := h.producers ++ [{
          session := h.sessions.length
          destination := some d
          quality := (h.connection c).defaults }]
        consumers := h.consumers ++ [{
          id := "consumer-" ++ uniqueName (h.minted + 1)
          session := h.sessions.length
          destination := some d
          attached := [d]
          listener := some name }]
        minted := h.minted + 2 }) := by
  -- each hub on the way goes by a name, and only what the next request asks about it is stated
  obtain ⟨h₁, session, destination⟩ :=
    Hub.exists_session_with_destination opened linked known effective made
  generalize same₂ : ({ h.setBroker b x with
    sessions := h.sessions ++ [_], minted := h.minted + 1 } : ChatHub) = h₂ at destination
  have session₂ : h₂.session h.sessions.length =
      { id := uniqueName h.minted, connection := c, transacted := settings.transacted, mode } := by
    rw [← same₂]
    exact getD_append_singleton_self ..
  have connection₂ : h₂.connection c = h.connection c := by
    rw [← same₂]
    rfl
  have producer := Hub.createProducer_of_open (h := h₂) (s := h.sessions.length)
    (by rw [session₂]) (some d)
  rw [session₂, connection₂] at producer
  generalize same₃ : ({ h₂ with producers := h₂.producers ++ [_] } : ChatHub) = h₃ at producer
  have session₃ : h₃.session h.sessions.length = h₂.session h.sessions.length := by
    rw [← same₃]
    rfl
  have connection₃ : h₃.connection c = h.connection c := by
    rw [← same₃]
    exact connection₂
  have broker₃ : h₃.broker b = x := by
    rw [← same₃, ← same₂]
    exact Hub.broker_setBroker_self inside x
  have linked₃ : h₃.linked (h₃.sessionLink h.sessions.length) = .ok b := by
    rw [Hub.sessionLink, session₃, session₂, connection₃, ← same₃, ← same₂]
    exact linked
  have minted₃ : h₃.minted = h.minted + 1 := by
    rw [← same₃, ← same₂]
  obtain ⟨h₄, consumer, listener⟩ := Hub.exists_listening_consumer (by rw [session₃, session₂])
    linked₃ (broker₃ ▸ site) (by rwa [minted₃]) (some name)
  rw [broker₃] at listener
  generalize same₅ : ({ h₃.setBroker b _ with
    consumers := h₃.consumers ++ [_], minted := h₃.minted + 1 } : ChatHub) = h₅ at listener
  have connection₅ : h₅.connection c = h.connection c := by
    rw [← same₅]
    exact connection₃
  have started := Hub.startConnection_of_open (h := h₅) (c := c) (by rwa [connection₅])
  rw [settleIn, session]
  show (h₁.sessionDestination _ _ _ >>= _) = _
  rw [destination]
  show (h₂.createProducer _ _ >>= _) = _
  rw [producer]
  show (h₃.createConsumer _ _ >>= _) = _
  rw [consumer]
  show (h₄.setListener _ _ >>= _) = _
  rw [listener]
  show (h₅.startConnection _ >>= _) = _
  rw [started, connection₅, ← same₅, ← same₃, ← same₂]
  simp only [Hub.setBroker, Hub.setConnection, List.set_set]
  rfl

theorem join_eq (h : ChatHub) (f : Factory) (settings : SessionSettings) (topic name : String) :
    join h f settings topic name =
      ((f.connectAs h (some name)).1 >>= fun c =>
        settleIn (f.connectAs h (some name)).2 c settings topic name) := rfl

/-- Joining goes well when the broker admits the connection and knows, or takes up, the topic. -/
theorem join_of_admitted (name : String) {h h₁ : ChatHub} {f : Factory}
    {settings : SessionSettings} {topic scheme host : String} {dir : DirectoryId} {url : Url}
    {b : BrokerId} {x y : Broker (Endpoint String)} {asked mode : AcknowledgeMode} {d : Destination}
    {consumers : List (Registration (Endpoint String))}
    (resolved : h.resolve f.registry f.url = .ok (scheme, dir, url)) (named : url.host? = some host)
    (found : h.getOrCreate dir host = (b, h₁)) (reached : h₁.findBroker dir host = some b)
    (inside : b < h₁.brokers.length)
    (admits : (h₁.broker b).takeIn f.clientId (uniqueName h₁.minted) = .ok x)
    (known : AcknowledgeMode.ofName settings.acknowledgeMode = .ok asked)
    (effective : Hub.effectiveMode settings.transacted asked = .ok mode)
    (made : x.createDestination topic .topic = .ok (d, y))
    (site : y.destinations.get? d = some ⟨none, consumers⟩)
    (fresh : "consumer-" ++ uniqueName (h₁.minted + 2) ∉ consumers.map (·.id)) :
    join h f settings topic name = .ok (⟨name, h₁.connections.length, h₁.sessions.length,
      h₁.producers.length, h₁.consumers.length⟩, { h₁ with
        brokers := h₁.brokers.set b { y with
          destinations := y.destinations.insert d ⟨none, consumers ++
            [⟨"consumer-" ++ uniqueName (h₁.minted + 2), .consumer h₁.consumers.length d⟩]⟩ }
        connections := h₁.connections ++ [{
          link := ⟨dir, host, b, uniqueName h₁.minted, some name⟩
          defaults := f.defaults
          state := .started
          clientId := f.clientId }]
        sessions := h₁.sessions ++ [{
          id := uniqueName (h₁.minted + 1)
          connection := h₁.connections.length
          transacted := settings.transacted
          mode }]
        producers := h₁.producers ++ [{
          session := h₁.sessions.length
          destination := some d
          quality := f.defaults }]
        consumers := h₁.consumers ++ [{
          id := "consumer-" ++ uniqueName (h₁.minted + 2)
          session := h₁.sessions.length
          destination := some d
          attached := [d]
          listener := some name }]
        minted := h₁.minted + 3 }) := by
  have connected := (Hub.connectAs_of_resolved (some name) resolved named found
    reached).1 x admits
  generalize same : h₁.admitted f dir host b x (some name) = h₂ at connected
  have connection : h₂.connection h₁.connections.length = {
      link := ⟨dir, host, b, uniqueName h₁.minted, some name⟩
      defaults := f.defaults
      clientId := f.clientId } := by
    rw [← same]
    exact getD_append_singleton_self ..
  have linked : h₂.linked ⟨dir, host, b, uniqueName h₁.minted, some name⟩ = .ok b := by
    rw [← same]
    exact Hub.linked_ok.mpr ⟨reached, rfl⟩
  have broker : h₂.broker b = x := by
    rw [← same]
    exact Hub.broker_setBroker_self inside x
  have settled := settleIn_of_linked name (h := h₂) (c := h₁.connections.length)
    (by simp [connection]) (by rw [connection]; exact linked)
    (by rw [← same, Hub.admitted, Hub.setBroker, List.length_set]; exact inside) known effective
    (broker ▸ made) site (by rw [← same]; exact fresh)
  rw [join_eq, connected]
  show settleIn h₂ _ _ _ _ = _
  rw [settled, connection, ← same]
  simp only [Hub.admitted, Hub.setBroker, List.set_set, set_append_singleton]

/-! ## Who is there -/

/-- A hub with a provider and nothing else. -/
def fresh : ChatHub := ({} : ChatHub).addDefaultRegistry.2

/-- What the settings of a chat come to: its broker and its topic, and how connections, sessions and
producers are made. -/
structure Venue where
  host : String
  topic : String
  clientId : Option String
  transacted : Bool
  mode : AcknowledgeMode
  defaults : Quality

/-- Number `i` of those who joined has number `i` of everything. -/
def seat (i : Nat) (name : String) : Participant := ⟨name, i, i, i, i⟩

namespace Venue
variable (v : Venue)

def destination : Destination := { name := v.topic, kind := .topic }

def consumerName (i : Nat) : String := "consumer-" ++ uniqueName (3 * i + 2)

/-- The ids in use once somebody is there: the first has taken it. -/
def clientIds : Table String String :=
  match v.clientId with
  | none => ∅
  | some id => (∅ : Table String String).insert id (uniqueName 0)

def registrations (names : List String) : List (Registration (Endpoint String)) :=
  names.mapIdx fun i _ => ⟨consumerName i, .consumer i v.destination⟩

def broker (names : List String) : Broker (Endpoint String) where
  name := v.host
  destinations := (∅ : Table Destination (Site (Endpoint String))).insert v.destination
    ⟨none, v.registrations names⟩
  names := (∅ : Table (DestinationKind × String) Destination).insert
    (.topic, Text.lowercase v.topic) v.destination
  clientIds := v.clientIds

def connection (i : Nat) (name : String) : Connection where
  link := ⟨0, v.host, 0, uniqueName (3 * i), some name⟩
  defaults := v.defaults
  state := .started
  clientId := v.clientId

def session (i : Nat) : Session where
  id := uniqueName (3 * i + 1)
  connection := i
  transacted := v.transacted
  mode := v.mode

def producer (i : Nat) : Producer where
  session := i
  destination := some v.destination
  quality := v.defaults

def consumer (i : Nat) (name : String) : Consumer String where
  id := consumerName i
  session := i
  destination := some v.destination
  attached := [v.destination]
  listener := some name

/-- The hub in which these have joined, in this order, and as many messages were sent. -/
def hub (names : List String) (sent : Nat) : ChatHub where
  brokers := [v.broker names]
  directories := [(∅ : Table String BrokerId).insert v.host 0]
  registries := fresh.registries
  connections := names.mapIdx v.connection
  sessions := names.mapIdx fun i _ => v.session i
  producers := names.mapIdx fun i _ => v.producer i
  consumers := names.mapIdx v.consumer
  minted := 3 * names.length + sent

/-- A factory and session settings lead there, with nothing amiss. -/
structure Suits (f : Factory) (settings : SessionSettings) : Prop where
  resolves : ∃ scheme url, fresh.resolve f.registry f.url = .ok (scheme, 0, url) ∧
    url.host? = some v.host
  clientId : f.clientId = v.clientId
  claimable : v.clientId ≠ some ""
  mode : ∃ asked, AcknowledgeMode.ofName settings.acknowledgeMode = .ok asked ∧
    Hub.effectiveMode settings.transacted asked = .ok v.mode
  transacted : settings.transacted = v.transacted
  defaults : f.defaults = v.defaults
  topic : v.topic ≠ ""

end Venue

section Joins
variable {v : Venue} {f : Factory} {settings : SessionSettings}

theorem Venue.Suits.admits (suits : v.Suits f settings) :
    ({ name := v.host } : Broker (Endpoint String)).takeIn f.clientId (uniqueName 0) =
      .ok { name := v.host, clientIds := v.clientIds } := by
  rw [suits.clientId, Venue.clientIds]
  cases asked : v.clientId with
  | none => rfl
  | some id =>
    have given : id ≠ "" := fun empty => suits.claimable (by rw [asked, empty])
    exact Broker.claim_of_free (b := { name := v.host }) given rfl

theorem join_first (suits : v.Suits f settings) (name : String) :
    join fresh f settings v.topic name = .ok (seat 0 name, v.hub [name] 0) := by
  obtain ⟨scheme, url, resolved, named⟩ := suits.resolves
  obtain ⟨asked, known, effective⟩ := suits.mode
  have found : fresh.getOrCreate 0 v.host = (0, ({ fresh with
    brokers := [{ name := v.host }]
    directories := [(∅ : Table String BrokerId).insert v.host 0] } : ChatHub)) := rfl
  have joined := join_of_admitted name resolved named found
    (Hub.findBroker_getOrCreate (h := fresh) Nat.one_pos v.host) Nat.one_pos suits.admits known
    effective (Broker.createDestination_of_unknown suits.topic rfl) (Table.get?_insert_self ..)
    List.not_mem_nil
  rw [joined, suits.clientId, suits.transacted, suits.defaults]
  simp only [Venue.hub, Venue.broker, Venue.registrations, Table.insert_insert_self]
  rfl

theorem findBroker_hub (v : Venue) (names : List String) (sent : Nat) :
    (v.hub names sent).findBroker 0 v.host = some 0 :=
  Table.get?_insert_self (∅ : Table String BrokerId) v.host 0

theorem registrations_hub (v : Venue) (names : List String) (sent : Nat) :
    ((v.hub names sent).broker 0).registrations v.destination = v.registrations names := by
  have site : (v.broker names).destinations.get? v.destination =
    some ⟨none, v.registrations names⟩ := Table.get?_insert_self ..
  exact Broker.registrations_of_some site

theorem connection_hub (v : Venue) {names : List String} (sent : Nat) {i : Nat}
    (present : i < names.length) :
    (v.hub names sent).connection i = v.connection i names[i] := by
  simp [Hub.connection, Venue.hub, present]

theorem session_hub (v : Venue) {names : List String} (sent : Nat) {i : Nat}
    (present : i < names.length) : (v.hub names sent).session i = v.session i := by
  simp [Hub.session, Venue.hub, present]

theorem consumer_hub (v : Venue) {names : List String} (sent : Nat) {i : Nat}
    (present : i < names.length) :
    (v.hub names sent).consumer i = v.consumer i names[i] := by
  simp [Hub.consumer, Venue.hub, present]

theorem consumerName_fresh (v : Venue) (names : List String) :
    Venue.consumerName names.length ∉ (v.registrations names).map (·.id) := by
  intro mem
  obtain ⟨r, mem, same⟩ := List.mem_map.mp mem
  obtain ⟨i, earlier, rfl⟩ := List.mem_mapIdx.mp mem
  have number := uniqueName_injective (String.append_right_inj _ |>.mp same)
  omega

theorem join_next (suits : v.Suits f settings) (unasked : v.clientId = none) (names : List String)
    (name : String) :
    join (v.hub names 0) f settings v.topic name =
      .ok (seat names.length name, v.hub (names ++ [name]) 0) := by
  obtain ⟨scheme, url, resolved, named⟩ := suits.resolves
  obtain ⟨asked, known, effective⟩ := suits.mode
  rw [← Hub.resolve_congr fresh (v.hub names 0) rfl] at resolved
  have admits : ((v.hub names 0).broker 0).takeIn f.clientId (uniqueName (v.hub names 0).minted) =
      .ok (v.broker names) := by
    rw [suits.clientId, unasked]
    rfl
  have joined := join_of_admitted name resolved named
    (Hub.getOrCreate_of_found (findBroker_hub v names 0)) (findBroker_hub v names 0) Nat.one_pos
    admits known effective
    (Broker.createDestination_of_known suits.topic (Table.get?_insert_self ..))
    (Table.get?_insert_self ..) (consumerName_fresh v names)
  rw [joined, suits.clientId, suits.transacted, suits.defaults]
  simp only [Venue.hub, Venue.broker, Venue.registrations, Table.insert_insert_self,
    List.mapIdx_concat, List.length_mapIdx, List.length_append, List.length_singleton]
  rfl

/-- The id that the first has taken is not granted to anybody else. -/
theorem join_refused (suits : v.Suits f settings) {id : String} (wanted : v.clientId = some id)
    {names : List String} (somebody : names ≠ []) (name : String) :
    join (v.hub names 0) f settings v.topic name = .error (.clientIdInUse id) := by
  obtain ⟨scheme, url, resolved, named⟩ := suits.resolves
  rw [← Hub.resolve_congr fresh (v.hub names 0) rfl] at resolved
  have given : id ≠ "" := fun empty => suits.claimable (by rw [wanted, empty])
  have held : (v.broker names).clientIds.get? id = some (uniqueName 0) := by
    rw [Venue.broker, Venue.clientIds, wanted]
    exact Table.get?_insert_self ..
  have later : uniqueName 0 ≠ uniqueName (v.hub names 0).minted := by
    intro same
    have first := uniqueName_injective same
    have minted : (v.hub names 0).minted = 3 * names.length + 0 := rfl
    have many := List.length_pos_iff.mpr somebody
    omega
  have refuses : ((v.hub names 0).broker 0).takeIn f.clientId (uniqueName (v.hub names 0).minted) =
      .error (.clientIdInUse id) := by
    rw [suits.clientId, wanted]
    exact Broker.claim_of_held given held later
  have refused := (Hub.connectAs_of_resolved (some name) resolved named
    (Hub.getOrCreate_of_found (findBroker_hub v names 0)) (findBroker_hub v names 0)).2 _ refuses
  rw [join_eq, refused]
  rfl

end Joins

/-! ## What the first finds out -/

theorem directory_of_resolved {r : RegistryId} {text scheme : String} {d : DirectoryId} {url : Url}
    (resolved : fresh.resolve r text = .ok (scheme, d, url)) : d = 0 := by
  have found := Hub.resolve_ok resolved
  cases r with
  | zero =>
    have only : fresh.registry 0 = (∅ : Table String DirectoryId).insert Hub.vmScheme 0 := rfl
    rw [only, Table.get?_insert] at found
    split at found
    · exact (Option.some.inj found).symm
    · cases found
  | succ r => cases found

section Accepted
variable {f : Factory} {settings : SessionSettings} {topic name : String} {c : ConnectionId}
  {s : SessionId} {h : ChatHub} {p : Participant}

/-- Whoever has joined has a connection and a session, and the topic has a name. -/
theorem accepted_of_join {h₀ : ChatHub} (done : join h₀ f settings topic name = .ok (p, h)) :
    ∃ c s h₁, (f.connectAs h₀ (some name)).1 = .ok c ∧
      (f.connectAs h₀ (some name)).2.createSessionFrom c settings = .ok (s, h₁) ∧ topic ≠ "" := by
  rw [join_eq] at done
  obtain ⟨c, connected, done⟩ := ok_of_bind done
  obtain ⟨⟨s, h₁⟩, session, done⟩ := ok_of_bind done
  obtain ⟨⟨d, h₂⟩, destination, done⟩ := ok_of_bind done
  obtain ⟨_, -, destination⟩ := ok_of_bind destination
  obtain ⟨b, -, destination⟩ := ok_of_bind destination
  obtain ⟨⟨d, x⟩, made, -⟩ := ok_of_bind destination
  exact ⟨c, s, h₁, connected, session, (Broker.createDestination_given made).1⟩

/-- With that, nothing is amiss. -/
theorem suits_of_accepted (connected : (f.connectAs fresh (some name)).1 = .ok c)
    (session : (f.connectAs fresh (some name)).2.createSessionFrom c settings = .ok (s, h))
    (given : topic ≠ "") :
    ∃ v : Venue, v.topic = topic ∧ v.clientId = f.clientId ∧ v.Suits f settings := by
  obtain ⟨scheme, d, url, host, resolved, named⟩ := Hub.resolved_of_connectAs connected
  obtain rfl := directory_of_resolved resolved
  obtain ⟨asked, known, session⟩ := ok_of_bind session
  obtain ⟨_, -, session⟩ := ok_of_bind session
  obtain ⟨mode, effective, -⟩ := ok_of_bind session
  refine ⟨⟨host, topic, f.clientId, settings.transacted, mode, f.defaults⟩, rfl, rfl, {
    resolves := ⟨scheme, url, resolved, named⟩
    clientId := rfl
    claimable := ?_
    mode := ⟨asked, known, effective⟩
    transacted := rfl
    defaults := rfl
    topic := given }⟩
  intro empty
  have wanted : f.clientId = some "" := empty
  have refused := (Hub.connectAs_of_resolved (some name) resolved named rfl
    (Hub.findBroker_getOrCreate (h := fresh) Nat.one_pos host)).2 .emptyClientId
      (by rw [wanted]; rfl)
  rw [connected] at refused
  cases refused

end Accepted

theorem ofSettings_clientId {settings : Settings} {f : Factory}
    (accepted : Factory.ofSettings fresh 0 settings = .ok f) :
    f.clientId = settings.connection.clientId := by
  obtain ⟨_, -, accepted⟩ := ok_of_bind accepted
  obtain ⟨_, -, accepted⟩ := ok_of_bind accepted
  obtain ⟨_, -, accepted⟩ := ok_of_bind accepted
  obtain ⟨_, -, accepted⟩ := ok_of_bind accepted
  cases accepted
  rfl

theorem start_of_joins {settings : Settings} {f : Factory} {topic user : String} {p : Participant}
    {h : ChatHub} (accepted : Factory.ofSettings fresh 0 settings = .ok f)
    (joined : join fresh f settings.session topic user = .ok (p, h)) :
    start settings topic user =
      (join h f settings.session topic botName).map fun second => ⟨second.2, p, second.1⟩ := by
  have unfolded : start settings topic user = (Factory.ofSettings fresh 0 settings >>= fun f =>
    join fresh f settings.session topic user >>= fun first =>
      (join first.2 f settings.session topic botName).map fun second =>
        ⟨second.2, first.1, second.1⟩) := rfl
  rw [unfolded, accepted]
  show (join fresh _ _ _ _ >>= _) = _
  rw [joined]
  rfl

section Command
variable {settings : Settings} {arguments : ChatArguments}

theorem begin_of_start {c : Chat}
    (started : start settings arguments.topic arguments.user = .ok c) :
    (Invocation.chat arguments).begin settings = .chat c := by
  simp only [Invocation.begin, started]

theorem begin_of_start_error {e : Error}
    (failed : start settings arguments.topic arguments.user = .error e) :
    (Invocation.chat arguments).begin settings = .done [failure e] := by
  simp only [Invocation.begin, failed]

end Command

/-- Once the first has joined, a client id in the settings is all that can keep the second out.
With one the second never gets in, and the command ends before the first line of input. -/
theorem joins_without_client_id (arguments : ChatArguments) {settings : Settings} {f : Factory}
    {p : Participant} {h : ChatHub} (accepted : Factory.ofSettings fresh 0 settings = .ok f)
    (joined : join fresh f settings.session arguments.topic arguments.user = .ok (p, h)) :
    (settings.connection.clientId = none →
      ∃ q h', join h f settings.session arguments.topic botName = .ok (q, h') ∧
        (Invocation.chat arguments).begin settings = .chat ⟨h', p, q⟩) ∧
    ∀ id, settings.connection.clientId = some id →
      join h f settings.session arguments.topic botName = .error (.clientIdInUse id) ∧
      (Invocation.chat arguments).begin settings = .done [failure (.clientIdInUse id)] := by
  obtain ⟨c, s, h₁, connected, session, given⟩ := accepted_of_join joined
  obtain ⟨v, named, same, suits⟩ := suits_of_accepted connected session given
  have started := start_of_joins accepted joined
  rw [← ofSettings_clientId accepted, ← same]
  rw [← named] at joined started ⊢
  rw [join_first suits] at joined
  cases joined
  refine ⟨?_, ?_⟩
  · intro unasked
    have second := join_next suits unasked [arguments.user] botName
    rw [second, named] at started
    exact ⟨_, _, second, begin_of_start started⟩
  · intro id wanted
    have second := join_refused suits wanted (List.cons_ne_nil arguments.user []) botName
    rw [second, named] at started
    exact ⟨second, begin_of_start_error started⟩

def sampleSettings (clientId : Option String) : Settings :=
  { Settings.default with connection := { Settings.default.connection with clientId } }

/-- With or without a client id the first gets in. -/
theorem exists_first (clientId : Option String) (usable : clientId ∈ [none, some "shared"]) :
    ∃ f p h, Factory.ofSettings fresh 0 (sampleSettings clientId) = .ok f ∧
      join fresh f (sampleSettings clientId).session "chat" "a" = .ok (p, h) := by
  have goes : ∀ clientId ∈ [none, some "shared"],
      (Factory.ofSettings fresh 0 (sampleSettings clientId) >>= fun f =>
        join fresh f (sampleSettings clientId).session "chat" "a").toBool = true := by
    decide +kernel
  cases outcome : Factory.ofSettings fresh 0 (sampleSettings clientId) >>= fun f =>
      join fresh f (sampleSettings clientId).session "chat" "a" with
  | error e =>
    have good := goes clientId usable
    rw [outcome] at good
    cases good
  | ok r =>
    obtain ⟨p, h⟩ := r
    obtain ⟨f, accepted, joined⟩ := ok_of_bind outcome
    exact ⟨f, p, h, accepted, joined⟩

theorem joins_without_client_id_shared :
    (∃ f p h q h', join fresh f (sampleSettings none).session "chat" "a" = .ok (p, h) ∧
      join h f (sampleSettings none).session "chat" botName = .ok (q, h') ∧
      (Invocation.chat ⟨"chat", "a", none⟩).begin (sampleSettings none) = .chat ⟨h', p, q⟩) ∧
    ∃ f p h, join fresh f (sampleSettings (some "shared")).session "chat" "a" = .ok (p, h) ∧
      join h f (sampleSettings (some "shared")).session "chat" botName =
        .error (.clientIdInUse "shared") ∧
      (Invocation.chat ⟨"chat", "a", none⟩).begin (sampleSettings (some "shared")) = .done
        ["ERROR minijms failed: invalid client id: client id \"shared\" is already in use"] := by
  refine ⟨?_, ?_⟩
  · obtain ⟨f, p, h, accepted, joined⟩ := exists_first none (by simp)
    obtain ⟨q, h', second, begun⟩ :=
      (joins_without_client_id ⟨"chat", "a", none⟩ accepted joined).1 rfl
    exact ⟨f, p, h, q, h', joined, second, begun⟩
  · obtain ⟨f, p, h, accepted, joined⟩ := exists_first (some "shared") (by simp)
    obtain ⟨second, begun⟩ :=
      (joins_without_client_id ⟨"chat", "a", none⟩ accepted joined).2 "shared" rfl
    have line : failure (.clientIdInUse "shared") =
        "ERROR minijms failed: invalid client id: client id \"shared\" is already in use" := by
      decide +kernel
    rw [line] at begun
    exact ⟨f, p, h, joined, second, begun⟩

/-- So it is not enough that the settings are good for the first who joins. -/
theorem second_kept_out :
    ¬ ∀ (settings : Settings) (topic user : String) (f : Factory) (p : Participant) (h : ChatHub),
      Factory.ofSettings fresh 0 settings = .ok f →
      join fresh f settings.session topic user = .ok (p, h) →
      ∃ q h', join h f settings.session topic botName = .ok (q, h') := by
  intro never
  obtain ⟨f, p, h, accepted, joined⟩ := exists_first (some "shared") (by simp)
  obtain ⟨q, h', second⟩ := never _ _ _ _ _ _ accepted joined
  have fails : (Factory.ofSettings fresh 0 (sampleSettings (some "shared")) >>= fun f =>
      join fresh f (sampleSettings (some "shared")).session "chat" "a" >>= fun first =>
        join first.2 f (sampleSettings (some "shared")).session "chat" botName).toBool = false := by
    decide +kernel
  rw [accepted] at fails
  change (join fresh f _ _ _ >>= _).toBool = false at fails
  rw [joined] at fails
  change (join h f _ _ _).toBool = false at fails
  rw [second] at fails
  cases fails

end Courier.Chat
