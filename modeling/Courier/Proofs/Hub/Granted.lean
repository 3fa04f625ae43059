import Courier.Proofs.Hub.Identity

/-!
# Granted requests

A request that lacks nothing is granted. These are the hubs that the requests for connections,
sessions, producers and consumers then leave behind: what was asked for is the last of its kind.
-/

namespace Courier

set_option autoImplicit false

theorem set_append_singleton {α : Type} (l : List α) (x y : α) :
    (l ++ [x]).set l.length y = l ++ [y] := by
  rw [List.set_append_right _ _ (Nat.le_refl _), Nat.sub_self, List.set_cons_zero]

theorem getD_append_singleton_self {α : Type} (l : List α) (x fallback : α) :
    (l ++ [x]).getD l.length fallback = x :=
  (getD_append_singleton l x l.length fallback).trans (if_pos rfl)

namespace Broker
variable {ε : Type} {b : Broker ε} {d : Destination} {id owner : String}

/-- Takes in a connection with the client id it asks for, if it asks for one. -/
def takeIn (b : Broker ε) (clientId : Option String) (owner : String) : Except Error (Broker ε) :=
  match clientId with
  | none => .ok b
  | some id => b.claim id owner

theorem createDestination_of_known {name : String} {kind : DestinationKind} (given : name ≠ "")
    (known : b.names.get? (kind, Text.lowercase name) = some d) :
    b.createDestination name kind = .ok (d, b) := by
  have nonempty : ¬ name.isEmpty = true := by simpa using given
  simp only [createDestination, if_neg nonempty, known]

theorem createDestination_of_unknown {name : String} {kind : DestinationKind} (given : name ≠ "")
    (unknown : b.names.get? (kind, Text.lowercase name) = none) :
    b.createDestination name kind = .ok ({ name, kind }, { b with
      destinations := b.destinations.insert { name, kind } ⟨none, []⟩
      names := b.names.insert (kind, Text.lowercase name) { name, kind } }) := by
  have nonempty : ¬ name.isEmpty = true := by simpa using given
  simp only [createDestination, if_neg nonempty, unknown]

/-- A destination that belongs to nobody takes any consumer that is not there already. -/
theorem register_of_site {consumers : List (Registration ε)}
    (site : b.destinations.get? d = some ⟨none, consumers⟩) (fresh : id ∉ consumers.map (·.id))
    (e : ε) : b.register d id owner e = .ok { b with
      destinations := b.destinations.insert d ⟨none, consumers ++ [⟨id, e⟩]⟩ } := by
  have unknown : ¬ (⟨none, consumers⟩ : Site ε).ids.contains id = true := by
    rw [List.contains_iff_mem]
    exact fresh
  rw [register, site_ok.mpr site]
  exact if_neg unknown

end Broker

namespace Hub

variable {L : Type} {h h₁ : Hub L} {b : BrokerId}

theorem ensureConnectionOpen_of_open {c : ConnectionId}
    (opened : (h.connection c).state ≠ .closed) : h.ensureConnectionOpen c = .ok () :=
  if_neg opened

theorem ensureSessionOpen_of_open {s : SessionId} (opened : (h.session s).isOpen = true) :
    h.ensureSessionOpen s = .ok () := if_pos opened

theorem ensureConsumerOpen_of_open {k : ConsumerId} (opened : (h.consumer k).closed = false)
    (session : (h.session (h.consumer k).session).isOpen = true) :
    h.ensureConsumerOpen k = .ok () := by
  rw [ensureConsumerOpen, opened]
  exact ensureSessionOpen_of_open session

theorem setBroker_self (h : Hub L) (b : BrokerId) : h.setBroker b (h.broker b) = h := by
  rw [setBroker, broker, set_getD_self]

/-! ## Connections -/

/-- An open connection without a client id is assigned the one that its broker grants. -/
theorem setClientId_of_open {c : ConnectionId} (opened : (h.connection c).state ≠ .closed)
    (unset : (h.connection c).clientId = none) (reached : h.linked (h.connection c).link = .ok b)
    (id : String) :
    h.setClientId c id = ((h.broker b).claim id (h.connection c).link.owner).map fun x =>
      (h.setBroker b x).setConnection c { h.connection c with clientId := some id } := by
  have claimed : h.claim (h.connection c).link id = _ := onLink_of_linked reached _
  rw [setClientId, ensureConnectionOpen_of_open opened]
  simp only [unset, claimed]
  by_cases empty : id.isEmpty
  · have refused : (h.broker b).claim id (h.connection c).link.owner = .error .emptyClientId :=
      if_pos empty
    simp only [refused, if_pos empty]
    rfl
  · simp only [if_neg empty]
    cases (h.broker b).claim id (h.connection c).link.owner <;> rfl

section Connections
variable {f : Factory} {scheme name : String} {d : DirectoryId} {url : Url}

/-- The hub in which a factory has opened a connection to the broker `b`, which has become `x`. -/
def admitted (h : Hub L) (f : Factory) (d : DirectoryId) (name : String) (b : BrokerId)
    (x : Broker (Endpoint L)) (username : Option String) : Hub L :=
  { h.setBroker b x with
    connections := h.connections ++ [{
      link := ⟨d, name, b, uniqueName h.minted, username⟩
      defaults := f.defaults
      clientId := f.clientId }]
    minted := h.minted + 1 }

theorem resolve_congr (h h₁ : Hub L) (same : h₁.registries = h.registries) (r : RegistryId)
    (text : String) : h₁.resolve r text = h.resolve r text := by
  simp only [resolve, provider?, registry, same]

/-- What is resolved, a provider in the registry has resolved. -/
theorem resolve_ok {r : RegistryId} {text : String}
    (done : h.resolve r text = .ok (scheme, d, url)) : (h.registry r).get? scheme = some d := by
  unfold resolve at done
  dsimp only at done
  split at done
  · cases done
  · split at done
    · cases done
    · rename_i name dir provided
      split at done
      · cases done
        obtain ⟨dir, found, same⟩ := Option.map_eq_some_iff.mp provided
        cases same
        exact found
      · cases done

/-- A connection is opened to a broker that the URL names. -/
theorem resolved_of_connectAs {username : Option String} {c : ConnectionId}
    (done : (f.connectAs h username).1 = .ok c) :
    ∃ scheme d url name, h.resolve f.registry f.url = .ok (scheme, d, url) ∧
      url.host? = some name := by
  unfold Factory.connectAs at done
  split at done
  · cases done
  · rename_i scheme d url resolved
    unfold openConnection openLink at done
    cases named : url.host? with
    | none =>
      rw [named] at done
      cases done
    | some name => exact ⟨scheme, d, url, name, resolved, named⟩

theorem getOrCreate_of_found (found : h.findBroker d name = some b) :
    h.getOrCreate d name = (b, h) := by
  have listed : (h.directory d).get? name = some b := found
  simp only [getOrCreate, listed]

/-- A factory whose URL names a broker opens a connection if the broker takes it in. -/
theorem connectAs_of_resolved (username : Option String)
    (resolved : h.resolve f.registry f.url = .ok (scheme, d, url))
    (named : url.host? = some name) (found : h.getOrCreate d name = (b, h₁))
    (reached : h₁.findBroker d name = some b) :
    (∀ x, (h₁.broker b).takeIn f.clientId (uniqueName h₁.minted) = .ok x →
      f.connectAs h username = (.ok h₁.connections.length, h₁.admitted f d name b x username)) ∧
    ∀ e, (h₁.broker b).takeIn f.clientId (uniqueName h₁.minted) = .error e →
      (f.connectAs h username).1 = .error e := by
  have joined : h.openLink d url username =
      .ok (⟨d, name, b, uniqueName h₁.minted, username⟩, h₁.mint.2) := by
    simp only [openLink, named, found]
    rfl
  generalize same : ({ h₁ with
    connections := h₁.connections ++
      [{ link := ⟨d, name, b, uniqueName h₁.minted, username⟩, defaults := f.defaults }]
    minted := h₁.minted + 1 } : Hub L) = j
  have last : j.connection h₁.connections.length =
      { link := ⟨d, name, b, uniqueName h₁.minted, username⟩, defaults := f.defaults } := by
    rw [← same]
    exact getD_append_singleton_self ..
  cases asked : f.clientId with
  | none =>
    have opened : f.connectAs h username = (.ok h₁.connections.length, j) := by
      simp only [Factory.connectAs, resolved, openConnection, joined, asked, ← same]
      rfl
    refine ⟨?_, ?_⟩
    · intro x admits
      obtain rfl := Except.ok.inj admits
      rw [opened, admitted, setBroker_self, asked, ← same]
    · intro e refuses
      cases refuses
  | some id =>
    have linked : j.linked (j.connection h₁.connections.length).link = .ok b := by
      rw [last, ← same]
      exact linked_ok.mpr ⟨reached, rfl⟩
    have assigned := setClientId_of_open (h := j) (by simp [last]) (by rw [last]) linked id
    have broker : j.broker b = h₁.broker b := by
      rw [← same]
      rfl
    rw [last, broker] at assigned
    refine ⟨?_, ?_⟩
    · intro x admits
      have claimed : (h₁.broker b).claim id (uniqueName h₁.minted) = .ok x := admits
      rw [claimed] at assigned
      simp only [Factory.connectAs, resolved, openConnection, joined, asked, mint, same, assigned]
      rw [Except.map, admitted, asked, ← same]
      simp only [setConnection, setBroker, set_append_singleton]
    · intro e refuses
      have claimed : (h₁.broker b).claim id (uniqueName h₁.minted) = .error e := refuses
      rw [claimed] at assigned
      simp only [Factory.connectAs, resolved, openConnection, joined, asked, mint, same, assigned]
      rfl

end Connections

/-! ## Sessions and what is made from them -/

section Sessions
variable {c : ConnectionId} {s : SessionId} {d : Destination} {kind : DestinationKind}

theorem createSessionFrom_of_open (opened : (h.connection c).state ≠ .closed)
    (reached : h.linked (h.connection c).link = .ok b) {settings : SessionSettings}
    {asked mode : AcknowledgeMode}
    (known : AcknowledgeMode.ofName settings.acknowledgeMode = .ok asked)
    (effective : effectiveMode settings.transacted asked = .ok mode) :
    h.createSessionFrom c settings = .ok (h.sessions.length, { h.mint.2 with
      sessions := h.sessions ++ [{
        id := uniqueName h.minted
        connection := c
        transacted := settings.transacted
        mode }] }) := by
  rw [createSessionFrom, known]
  show h.createSession c settings.transacted asked = _
  rw [createSession, ensureConnectionOpen_of_open opened, effective]
  show (h.linked _ >>= _) = _
  rw [reached]
  rfl

theorem sessionDestination_of_open (opened : (h.session s).isOpen = true)
    (reached : h.linked (h.sessionLink s) = .ok b) {name : String} {x : Broker (Endpoint L)}
    (made : (h.broker b).createDestination name kind = .ok (d, x)) :
    h.sessionDestination s name kind = .ok (d, h.setBroker b x) := by
  rw [sessionDestination, ensureSessionOpen_of_open opened]
  show h.createDestination _ _ _ = _
  rw [createDestination, reached]
  show h.createDestinationOn _ _ _ = _
  rw [createDestinationOn, made]
  rfl

/-- A session of an open connection finds its way to the broker of that connection. -/
theorem exists_session_with_destination (opened : (h.connection c).state ≠ .closed)
    (reached : h.linked (h.connection c).link = .ok b) {settings : SessionSettings}
    {asked mode : AcknowledgeMode}
    (known : AcknowledgeMode.ofName settings.acknowledgeMode = .ok asked)
    (effective : effectiveMode settings.transacted asked = .ok mode) {name : String}
    {x : Broker (Endpoint L)} (made : (h.broker b).createDestination name kind = .ok (d, x)) :
    ∃ h₁, h.createSessionFrom c settings = .ok (h.sessions.length, h₁) ∧
      h₁.sessionDestination h.sessions.length name kind = .ok (d, { h.setBroker b x with
        sessions := h.sessions ++ [{
          id := uniqueName h.minted
          connection := c
          transacted := settings.transacted
          mode }]
        minted := h.minted + 1 }) := by
  have session := createSessionFrom_of_open opened reached known effective
  generalize same : ({ h.mint.2 with sessions := h.sessions ++ [_] } : Hub L) = h₁ at session
  have last : h₁.session h.sessions.length = {
      id := uniqueName h.minted
      connection := c
      transacted := settings.transacted
      mode } := by
    rw [← same]
    exact getD_append_singleton_self ..
  have linked : h₁.linked (h₁.sessionLink h.sessions.length) = .ok b := by
    rw [sessionLink, last, ← same]
    exact reached
  have broker : h₁.broker b = h.broker b := by
    rw [← same]
    rfl
  refine ⟨h₁, session, ?_⟩
  rw [sessionDestination_of_open (by rw [last]) linked (broker ▸ made), ← same]
  rfl

theorem createProducer_of_open (opened : (h.session s).isOpen = true)
    (destination : Option Destination) :
    h.createProducer s destination = .ok (h.producers.length, { h with
      producers := h.producers ++ [{
        session := s
        destination
        quality := (h.connection (h.session s).connection).defaults }] }) := by
  rw [createProducer, ensureSessionOpen_of_open opened]
  rfl

theorem attach_of_site {k : ConsumerId} (unattached : d ∉ (h.consumer k).attached)
    (reached : h.linked (h.sessionLink (h.consumer k).session) = .ok b)
    {consumers : List (Registration (Endpoint L))}
    (site : (h.broker b).destinations.get? d = some ⟨none, consumers⟩)
    (fresh : (h.consumer k).id ∉ consumers.map (·.id)) :
    h.attach k d = .ok ((h.setBroker b { h.broker b with
      destinations := (h.broker b).destinations.insert d ⟨none, consumers ++
        [⟨(h.consumer k).id, .consumer k d⟩]⟩ }).setConsumer k
      { h.consumer k with attached := (h.consumer k).attached ++ [d] }) := by
  have absent : ¬ (h.consumer k).attached.contains d = true := by
    rwa [List.contains_iff_mem]
  have registered : h.register (h.sessionLink (h.consumer k).session) d (h.consumer k).id
      (.consumer k d) = _ := onLink_of_linked reached _
  rw [Broker.register_of_site site fresh] at registered
  simp only [attach, if_neg absent, registered]
  rfl

/-- A bound consumer is registered under an id that is made for it. -/
theorem createConsumer_of_open (opened : (h.session s).isOpen = true)
    (reached : h.linked (h.sessionLink s) = .ok b)
    {consumers : List (Registration (Endpoint L))}
    (site : (h.broker b).destinations.get? d = some ⟨none, consumers⟩)
    (fresh : "consumer-" ++ uniqueName h.minted ∉ consumers.map (·.id)) :
    h.createConsumer s (some d) = .ok (h.consumers.length, {
      h.setBroker b { h.broker b with
        destinations := (h.broker b).destinations.insert d ⟨none, consumers ++
          [⟨"consumer-" ++ uniqueName h.minted, .consumer h.consumers.length d⟩]⟩ } with
      consumers := h.consumers ++ [{
        id := "consumer-" ++ uniqueName h.minted
        session := s
        destination := some d
        attached := [d] }]
      minted := h.minted + 1 }) := by
  generalize same : ({ h.mint.2 with consumers := h.consumers ++
    [{ id := "consumer-" ++ uniqueName h.minted, session := s, destination := some d }] } :
      Hub L) = j
  have last : j.consumer h.consumers.length =
      { id := "consumer-" ++ uniqueName h.minted, session := s, destination := some d } := by
    rw [← same]
    exact getD_append_singleton_self ..
  have broker : j.broker b = h.broker b := by
    rw [← same]
    rfl
  have linked : j.linked (j.sessionLink (j.consumer h.consumers.length).session) = .ok b := by
    rw [last, ← same]
    exact reached
  have attached := attach_of_site (by simp [last]) linked (broker ▸ site) (by rwa [last])
  rw [last, broker] at attached
  have created : h.createConsumer s (some d) =
      (j.attach h.consumers.length d >>= fun h' => .ok (h.consumers.length, h')) := by
    rw [createConsumer, ensureSessionOpen_of_open opened, ← same]
    rfl
  rw [created, attached, ← same]
  show Except.ok _ = Except.ok _
  simp only [setConsumer, setBroker, set_append_singleton, List.nil_append]
  rfl

theorem setListener_of_open {k : ConsumerId} (opened : (h.consumer k).closed = false)
    (session : (h.session (h.consumer k).session).isOpen = true) (listener : Option L) :
    h.setListener k listener = .ok (h.setConsumer k { h.consumer k with listener }) := by
  rw [setListener, ensureConsumerOpen_of_open opened session]
  rfl

/-- A bound consumer that listens. -/
theorem exists_listening_consumer (opened : (h.session s).isOpen = true)
    (reached : h.linked (h.sessionLink s) = .ok b)
    {consumers : List (Registration (Endpoint L))}
    (site : (h.broker b).destinations.get? d = some ⟨none, consumers⟩)
    (fresh : "consumer-" ++ uniqueName h.minted ∉ consumers.map (·.id)) (listener : Option L) :
    ∃ h₁, h.createConsumer s (some d) = .ok (h.consumers.length, h₁) ∧
      h₁.setListener h.consumers.length listener = .ok {
        h.setBroker b { h.broker b with
          destinations := (h.broker b).destinations.insert d ⟨none, consumers ++
            [⟨"consumer-" ++ uniqueName h.minted, .consumer h.consumers.length d⟩]⟩ } with
        consumers := h.consumers ++ [{
          id := "consumer-" ++ uniqueName h.minted
          session := s
          destination := some d
          attached := [d]
          listener }]
        minted := h.minted + 1 } := by
  have consumer := createConsumer_of_open opened reached site fresh
  generalize same : ({ h.setBroker b _ with
    consumers := h.consumers ++ [_], minted := _ } : Hub L) = h₁ at consumer
  have last : h₁.consumer h.consumers.length = {
      id := "consumer-" ++ uniqueName h.minted
      session := s
      destination := some d
      attached := [d] } := by
    rw [← same]
    exact getD_append_singleton_self ..
  have session : h₁.session s = h.session s := by
    rw [← same]
    rfl
  refine ⟨h₁, consumer, ?_⟩
  rw [setListener_of_open (by rw [last]) (by rw [last, session, opened]), last, ← same]
  simp only [setConsumer, set_append_singleton]

theorem startConnection_of_open (opened : (h.connection c).state ≠ .closed) :
    h.startConnection c =
      .ok (h.setConnection c { h.connection c with state := .started }) := by
  rw [startConnection, ensureConnectionOpen_of_open opened]
  rfl

/-- Closing a connection goes well while its link leads to its broker. -/
theorem closeConnection_of_linked (sealed : Sealed h)
    (reached : h.linked (h.connection c).link = .ok b) : (h.closeConnection c).1 = .ok () := by
  by_cases closed : (h.connection c).state = .closed
  · rw [closeConnection_of_closed closed]
  have reached' : (h.emptied c).linked (h.connection c).link = .ok b := by
    rw [(emptied_spec sealed c).1.linked]
    exact reached
  rcases closeConnection_of_open closed with ⟨h', -, same⟩ | ⟨e, failed, -⟩
  · rw [same]
  · rw [closeLink, onLink_of_linked reached'] at failed
    cases failed

/-- So it does after another was closed. -/
theorem closeConnection_of_linked_after (sealed : Sealed h)
    (reached : h.linked (h.connection c).link = .ok b) (other : ConnectionId) :
    ((h.closeConnection other).2.closeConnection c).1 = .ok () := by
  have shrinks := closeConnection_shrinks sealed other
  rw [← shrinks.linked, ← shrinks.link] at reached
  exact closeConnection_of_linked (sealed.closeConnection other) reached

end Sessions

end Hub

end Courier
