import Courier.Proofs.Hub.Serving

/-!
# Beneath the connections

Sessions, producers, consumers and deliveries come and go without touching a connection, a client id
or the owner of a temporary destination, and mostly without touching a mailbox or the settings of a
producer. What is left alone is told by frames, and each request that leaves all of it alone is shown
to do so once.
-/

namespace Courier

set_option autoImplicit false

/-- The client ids are as before, and no temporary destination is new or has another owner. -/
structure Broker.Hosts {ε : Type} (b x : Broker ε) : Prop where
  clientIds : x.clientIds = b.clientIds
  owner : ∀ {d s}, x.destinations.get? d = some s → d.temporary = true →
    ∃ s', b.destinations.get? d = some s' ∧ s'.owner = s.owner

namespace Broker.Hosts

variable {ε : Type} {b x y : Broker ε} {d : Destination} {id owner : String}

theorem refl (b : Broker ε) : b.Hosts b := ⟨rfl, fun site _ => ⟨_, site, rfl⟩⟩

theorem trans (first : b.Hosts x) (second : x.Hosts y) : b.Hosts y where
  clientIds := second.clientIds.trans first.clientIds
  owner site temporary := by
    obtain ⟨s₁, site₁, same₁⟩ := second.owner site temporary
    obtain ⟨s₂, site₂, same₂⟩ := first.owner site₁ temporary
    exact ⟨s₂, site₂, same₂.trans same₁⟩

/-- A site that has changed its consumers only. -/
theorem insert {s s' : Site ε} (found : b.destinations.get? d = some s)
    (same : s'.owner = s.owner) :
    b.Hosts { b with destinations := b.destinations.insert d s' } where
  clientIds := rfl
  owner {d' s''} site _ := by
    by_cases here : d' = d
    · subst here
      rw [Table.get?_insert_self] at site
      cases site
      exact ⟨s, found, same.symm⟩
    · rw [Table.get?_insert_of_ne _ here] at site
      exact ⟨s'', site, rfl⟩

theorem register {e : ε} (done : b.register d id owner e = .ok x) : b.Hosts x := by
  obtain ⟨s, found, -, -, rfl⟩ := register_ok done
  exact insert found rfl

theorem unregister (done : b.unregister d id = .ok x) : b.Hosts x := by
  obtain ⟨s, found, rfl⟩ := unregister_ok done
  exact insert found rfl

theorem createDestination {name : String} {kind : DestinationKind}
    (done : b.createDestination name kind = .ok (d, x)) : b.Hosts x := by
  rcases createDestination_ok done with rfl | ⟨rfl, -, rfl⟩
  · exact refl x
  · refine ⟨rfl, ?_⟩
    intro d' s site temporary
    have other : d' ≠ { name, kind } := by
      rintro rfl
      cases temporary
    rw [Table.get?_insert_of_ne _ other] at site
    exact ⟨s, site, rfl⟩

theorem deleteTemporary (done : b.deleteTemporary d owner = .ok x) : b.Hosts x := by
  obtain ⟨s, -, -, -, -, rfl⟩ := deleteTemporary_ok done
  refine ⟨rfl, ?_⟩
  intro d' s' site _
  rw [Table.get?_erase] at site
  split at site
  · cases site
  · exact ⟨s', site, rfl⟩

end Broker.Hosts

namespace Hub

variable {L : Type} {h h' h'' : Hub L}

/-- A consumer that was made and has closed. -/
def Ended (h : Hub L) (k : ConsumerId) : Prop :=
  k < h.consumers.length ∧ (h.consumer k).closed = true

theorem not_ended_of_open {k : ConsumerId} (opened : (h.consumer k).closed = false) :
    ¬ h.Ended k := by
  rintro ⟨-, closed⟩
  rw [opened] at closed
  cases closed

theorem Lasts.ended (lasts : Lasts h h') {k : ConsumerId} (ended : h.Ended k) : h'.Ended k :=
  ⟨Nat.lt_of_lt_of_le ended.1 lasts.made, lasts.closed k ended.1 ended.2⟩

/-- Mailboxes are as before, those of closed consumers apart. -/
structure Files (h h' : Hub L) : Prop where
  lasts : Lasts h h'
  mailbox : ∀ {k}, ¬ h'.Ended k → (h'.consumer k).mailbox = (h.consumer k).mailbox

/-- No connection is new, has closed or has another client id, brokers hold for connections what they
held, none is newly registered, and no session is new or has opened. -/
structure Beneath (h h' : Hub L) : Prop where
  made : h'.connections.length = h.connections.length
  link : ∀ c, (h'.connection c).link = (h.connection c).link
  defaults : ∀ c, (h'.connection c).defaults = (h.connection c).defaults
  clientId : ∀ c, (h'.connection c).clientId = (h.connection c).clientId
  closed : ∀ c, (h'.connection c).state = .closed ↔ (h.connection c).state = .closed
  found : ∀ {dir name b}, h'.findBroker dir name = some b → h.findBroker dir name = some b
  hosts : ∀ b, (h.broker b).Hosts (h'.broker b)
  session : ∀ {s}, (h'.session s).isOpen = true →
    (h.session s).isOpen = true ∧ (h'.session s).connection = (h.session s).connection

/-- Besides, mailboxes and the settings of producers are as before. -/
structure Untouched (h h' : Hub L) : Prop extends Beneath h h', Files h h' where
  quality : ∀ p, (h'.producer p).quality = (h.producer p).quality

namespace Files

theorem of_eq (consumers : h'.consumers = h.consumers) : Files h h' where
  lasts := .of_eq consumers
  mailbox _ := by simp only [consumer, consumers]

theorem refl (h : Hub L) : Files h h := of_eq rfl

theorem trans (first : Files h h') (second : Files h' h'') : Files h h'' where
  lasts := first.lasts.trans second.lasts
  mailbox lives := (second.mailbox lives).trans
    (first.mailbox fun ended => lives (second.lasts.ended ended))

theorem setConsumer {k : ConsumerId} {x : Consumer L}
    (closed : (h.consumer k).closed = true → x.closed = true)
    (mailbox : x.closed = false → x.mailbox = (h.consumer k).mailbox) :
    Files h (h.setConsumer k x) where
  lasts := by
    refine ⟨Nat.le_of_eq List.length_set.symm, ?_⟩
    intro j _ closed_j
    rw [consumer_setConsumer]
    split
    · rename_i here
      rw [here.1] at closed_j
      exact closed closed_j
    · exact closed_j
  mailbox {j} lives := by
    rw [consumer_setConsumer]
    split
    · rename_i here
      have opened : x.closed = false := by
        by_contra ended
        refine lives ⟨by rw [here.1]; exact Nat.lt_of_lt_of_eq here.2 List.length_set.symm, ?_⟩
        rw [consumer_setConsumer, if_pos here]
        simpa using ended
      rw [mailbox opened, here.1]
    · rfl

theorem addConsumer {c : Consumer L} (empty : c.mailbox = ∅) :
    Files h { h with consumers := h.consumers ++ [c] } where
  lasts := by
    refine ⟨List.length_append ▸ Nat.le_add_right _ _, ?_⟩
    intro j made closed
    rwa [consumer_addConsumer, if_neg (Nat.ne_of_lt made)]
  mailbox {j} _ := by
    rw [consumer_addConsumer]
    split
    · rename_i last
      rw [empty, consumer_of_le (Nat.le_of_eq last.symm)]
    · rfl

end Files

namespace Beneath

theorem of_eq (connections : h'.connections = h.connections)
    (directories : h'.directories = h.directories) (brokers : h'.brokers = h.brokers)
    (sessions : h'.sessions = h.sessions) : Beneath h h' where
  made := congrArg List.length connections
  link c := by simp only [connection, connections]
  defaults c := by simp only [connection, connections]
  clientId c := by simp only [connection, connections]
  closed c := by simp only [connection, connections]
  found found := by simpa only [findBroker, directory, directories] using found
  hosts b := by
    simp only [broker, brokers]
    exact .refl _
  session {s} opened := by
    have same : h'.session s = h.session s := by simp only [Hub.session, sessions]
    rw [same] at opened ⊢
    exact ⟨opened, rfl⟩

theorem refl (h : Hub L) : Beneath h h := of_eq rfl rfl rfl rfl

theorem trans (first : Beneath h h') (second : Beneath h' h'') : Beneath h h'' where
  made := second.made.trans first.made
  link c := (second.link c).trans (first.link c)
  defaults c := (second.defaults c).trans (first.defaults c)
  clientId c := (second.clientId c).trans (first.clientId c)
  closed c := (second.closed c).trans (first.closed c)
  found found := first.found (second.found found)
  hosts b := (first.hosts b).trans (second.hosts b)
  session opened := by
    obtain ⟨opened₁, same₁⟩ := second.session opened
    obtain ⟨opened₂, same₂⟩ := first.session opened₁
    exact ⟨opened₂, same₁.trans same₂⟩

theorem setBroker {b : BrokerId} {x : Broker (Endpoint L)} (hosts : (h.broker b).Hosts x) :
    Beneath h (h.setBroker b x) :=
  { refl h with
    hosts := by
      intro b'
      rw [broker_setBroker]
      split
      · rename_i here
        rwa [here.1]
      · exact .refl _ }

theorem setConnection {c : ConnectionId} {x : Connection} (link : x.link = (h.connection c).link)
    (defaults : x.defaults = (h.connection c).defaults)
    (clientId : x.clientId = (h.connection c).clientId)
    (closed : x.state = .closed ↔ (h.connection c).state = .closed) :
    Beneath h (h.setConnection c x) :=
  { refl h with
    made := List.length_set
    link := view_getD_set Connection.link link
    defaults := view_getD_set Connection.defaults defaults
    clientId := view_getD_set Connection.clientId clientId
    closed := by
      intro c'
      rw [connection_setConnection]
      split
      · rename_i here
        rw [here.1]
        exact closed
      · exact Iff.rfl }

theorem setSession {s : SessionId} {x : Session}
    (isOpen : x.isOpen = true → (h.session s).isOpen = true)
    (connection : x.connection = (h.session s).connection) : Beneath h (h.setSession s x) :=
  { refl h with
    session := by
      intro t opened
      rw [session_setSession] at opened ⊢
      split at opened
      · rename_i here
        rw [if_pos here, here.1]
        exact ⟨isOpen opened, connection⟩
      · rename_i elsewhere
        rw [if_neg elsewhere]
        exact ⟨opened, rfl⟩ }

/-- A directory that names no broker it did not name before. -/
theorem setDirectory {d : DirectoryId} {t : Table String BrokerId}
    (fewer : ∀ {name b}, t.get? name = some b → h.findBroker d name = some b) :
    Beneath h (h.setDirectory d t) :=
  { refl h with
    found := by
      intro dir name b found
      rw [findBroker_setDirectory] at found
      split at found
      · rename_i here
        rw [here.1]
        exact fewer found
      · exact found }

theorem addBroker (h : Hub L) (name : String) : Beneath h (h.addBroker name).2 :=
  { refl h with
    hosts := by
      intro b
      rw [broker_addBroker]
      split
      · rename_i last
        rw [broker_of_le (Nat.le_of_eq last.symm)]
        exact ⟨rfl, fun site => by cases site⟩
      · exact .refl _ }

theorem addDirectory (h : Hub L) : Beneath h h.addDirectory.2 :=
  { refl h with
    found := by
      intro dir name b found
      exact ((Frame.addDirectory h).found dir name).symm.trans found }

end Beneath

namespace Untouched

/-- What is read is as before. -/
theorem of_eq (connections : h'.connections = h.connections)
    (directories : h'.directories = h.directories) (brokers : h'.brokers = h.brokers)
    (sessions : h'.sessions = h.sessions) (consumers : h'.consumers = h.consumers)
    (producers : h'.producers = h.producers) : Untouched h h' where
  toBeneath := .of_eq connections directories brokers sessions
  toFiles := .of_eq consumers
  quality p := by simp only [producer, producers]

theorem refl (h : Hub L) : Untouched h h := of_eq rfl rfl rfl rfl rfl rfl

theorem trans (first : Untouched h h') (second : Untouched h' h'') : Untouched h h'' where
  toBeneath := first.toBeneath.trans second.toBeneath
  toFiles := first.toFiles.trans second.toFiles
  quality p := (second.quality p).trans (first.quality p)

theorem foldl {α : Type} {f : Hub L → α → Hub L} (step : ∀ h a, Untouched h (f h a)) (l : List α)
    (h : Hub L) : Untouched h (l.foldl f h) := by
  induction l generalizing h with
  | nil => exact refl h
  | cons a l ih => exact (step h a).trans (ih (f h a))

theorem of_beneath (beneath : Beneath h h') (consumers : h'.consumers = h.consumers)
    (producers : h'.producers = h.producers) : Untouched h h' where
  toBeneath := beneath
  toFiles := .of_eq consumers
  quality p := by simp only [producer, producers]

theorem setConsumer {k : ConsumerId} {x : Consumer L}
    (closed : (h.consumer k).closed = true → x.closed = true)
    (mailbox : x.closed = false → x.mailbox = (h.consumer k).mailbox) :
    Untouched h (h.setConsumer k x) where
  toBeneath := .of_eq rfl rfl rfl rfl
  toFiles := .setConsumer closed mailbox
  quality _ := rfl

theorem mint (h : Hub L) : Untouched h h.mint.2 := of_eq rfl rfl rfl rfl rfl rfl

end Untouched

/-! Brokers at the end of a link. -/

theorem onLink_untouched {l : Link} {f : Broker (Endpoint L) → Except Error (Broker (Endpoint L))}
    (done : h.onLink l f = .ok h') (hosts : ∀ b x, f (h.broker b) = .ok x → (h.broker b).Hosts x) :
    Untouched h h' := by
  obtain ⟨b, x, -, changed, rfl⟩ := onLink_ok done
  exact .of_beneath (.setBroker (hosts b x changed)) rfl rfl

theorem createDestination_untouched {l : Link} {name : String} {kind : DestinationKind}
    {d : Destination} (done : h.createDestination l name kind = .ok (d, h')) :
    Untouched h h' := by
  obtain ⟨b, -, done⟩ := ok_of_bind done
  obtain ⟨⟨d', x⟩, created, done⟩ := ok_of_bind done
  cases done
  exact .of_beneath (.setBroker (.createDestination created)) rfl rfl

theorem attach_untouched {k : ConsumerId} {d : Destination} (done : h.attach k d = .ok h') :
    Untouched h h' := by
  rcases attach_ok done with ⟨-, rfl⟩ | ⟨-, b, x, -, taken, rfl⟩
  · exact .refl h'
  · have enrolled : Untouched h (h.setBroker b x) :=
      .of_beneath (.setBroker (.register taken)) rfl rfl
    exact enrolled.trans (.setConsumer id fun _ => rfl)

/-! What closes. -/

theorem withdraw_untouched (l : Link) (id : String) (h : Hub L) (d : Destination) :
    Untouched h (withdraw l id h d) := by
  unfold withdraw
  split
  · rename_i done
    exact onLink_untouched done fun _ _ => .unregister
  · exact .refl h

theorem closeConsumer_untouched (h : Hub L) (k : ConsumerId) : Untouched h (h.closeConsumer k) := by
  cases opened : (h.consumer k).closed with
  | true =>
    rw [closeConsumer_of_closed opened]
    exact .refl h
  | false =>
    rw [closeConsumer_of_open opened]
    refine (Untouched.foldl (withdraw_untouched _ _) _ h).trans (.setConsumer (fun _ => rfl) ?_)
    intro stillOpen
    cases stillOpen

theorem reap_untouched (h : Hub L) (k : ConsumerId) : Untouched h (h.reap k) := by
  unfold reap
  split
  · exact .refl h
  · exact closeConsumer_untouched h k

theorem dropConsumer_untouched (h : Hub L) (k : ConsumerId) : Untouched h (h.dropConsumer k) := by
  have dropped : Untouched h (h.setConsumer k { h.consumer k with held := false }) :=
    .setConsumer id fun _ => rfl
  exact dropped.trans (reap_untouched _ k)

theorem markShut_untouched (h : Hub L) (s : SessionId) : Untouched h (h.markShut s) := by
  have shut : Beneath h (h.setSession s { h.session s with isOpen := false }) := by
    apply Beneath.setSession
    · intro opened
      cases opened
    · rfl
  have closed : ∀ p, ((h.markShut s).producer p).quality = (h.producer p).quality := by
    intro p
    simp only [producer, markShut, List.getD_eq_getElem?_getD, List.getElem?_map]
    cases h.producers[p]? with
    | none => rfl
    | some x =>
      simp only [Option.map_some, Option.getD_some]
      split <;> rfl
  exact { toBeneath := { shut with }, toFiles := .of_eq rfl, quality := closed }

theorem shutdownSession_untouched (h : Hub L) (s : SessionId) :
    Untouched h (h.shutdownSession s) := by
  cases opened : (h.session s).isOpen with
  | false =>
    rw [shutdownSession_of_shut opened]
    exact .refl h
  | true =>
    rw [shutdownSession_of_open opened]
    refine (markShut_untouched h s).trans (Untouched.foldl ?_ _ _)
    intro h k
    unfold closeIn
    split
    · exact closeConsumer_untouched h k
    · exact .refl h

theorem shutIn_untouched (c : ConnectionId) (h : Hub L) (s : SessionId) :
    Untouched h (h.shutIn c s) := by
  unfold shutIn
  split
  · exact shutdownSession_untouched h s
  · exact .refl h

/-- Closing a connection changes that connection, leaves alone what closing its sessions does, and
changes a broker. -/
theorem closeConnection_keeps {P : Hub L → Prop} (holds : P h) (c : ConnectionId)
    (changed : ∀ {h : Hub L} {x}, x.defaults = (h.connection c).defaults → P h →
      P (h.setConnection c x))
    (shut : ∀ {h h'}, Untouched h h' → P h → P h')
    (released : ∀ {h : Hub L} {b x}, P h → P (h.setBroker b x)) : P (h.closeConnection c).2 := by
  have emptied : P (h.emptied c) :=
    changed rfl (shut (.foldl (shutIn_untouched c) _ _) (changed rfl holds))
  by_cases closed : (h.connection c).state = .closed
  · rw [closeConnection_of_closed closed]
    exact holds
  rcases closeConnection_of_open closed with ⟨h', done, same⟩ | ⟨e, -, same⟩
  · rw [same]
    obtain ⟨b, x, -, -, rfl⟩ := onLink_ok done
    exact released emptied
  · rw [same]
    exact emptied

/-! Consumers and deliveries. -/

theorem createConsumer_untouched {s : SessionId} {destination : Option Destination}
    {k : ConsumerId} (done : h.createConsumer s destination = .ok (k, h')) : Untouched h h' := by
  obtain ⟨_, -, done⟩ := ok_of_bind done
  have added : Untouched h { h.mint.2 with consumers := h.consumers ++
      [{ id := "consumer-" ++ uniqueName h.minted, session := s, destination }] } := {
    toBeneath := .of_eq rfl rfl rfl rfl
    toFiles := (Untouched.mint h).toFiles.trans (Files.addConsumer (h := h.mint.2) rfl)
    quality := fun _ => rfl }
  cases destination with
  | none =>
    cases done
    exact added
  | some d =>
    obtain ⟨h₁, attached, done⟩ := ok_of_bind done
    cases done
    exact added.trans (attach_untouched attached)

theorem setListener_untouched {k : ConsumerId} {listener : Option L}
    (done : h.setListener k listener = .ok h') : Untouched h h' := by
  obtain ⟨_, -, done⟩ := ok_of_bind done
  cases done
  exact .setConsumer id fun _ => rfl

theorem publish_untouched {b : BrokerId} {d : Destination} {m : Message}
    {sender : Option ProducerId} {n : Nat} (done : h.publish b d m sender = .ok (n, h')) :
    Untouched h h' := by
  obtain ⟨endpoints, -, done⟩ := ok_of_bind done
  cases done
  exact .of_eq rfl rfl rfl rfl rfl rfl

theorem send_untouched {p : ProducerId} {given : Option Destination} {m m' : Message}
    {request : Option QualityRequest} {now : Int64}
    (done : h.send p given m request now = .ok (m', h')) : Untouched h h' := by
  obtain ⟨b, target, copy, n, published⟩ := send_ok done
  exact (Untouched.mint h).trans (publish_untouched published)

theorem resumed_untouched (h : Hub L) (d : Delivery L) (outer : List (Delivery L)) :
    Untouched h (h.resumed d outer) := by
  have idle : Untouched h { h with deliveries := { d with serving := none } :: outer } :=
    .of_eq rfl rfl rfl rfl rfl rfl
  unfold resumed
  dsimp only
  split
  · exact idle.trans (reap_untouched _ _)
  · exact idle

theorem turn_quality (h : Hub L) (p : ProducerId) :
    ((h.step (.event .turn)).producer p).quality = (h.producer p).quality := by
  cases deliveries : h.deliveries with
  | nil => rw [step_turn_of_nil deliveries]
  | cons d outer =>
    have going := (resumed_untouched h d outer).quality p
    cases more : d.waiting with
    | nil =>
      rw [step_turn_of_done deliveries more]
      exact going
    | cons e waiting =>
      rw [step_turn_of_waiting deliveries more, ← going]
      cases e with
      | listener l => rfl
      | consumer k source =>
        unfold serve
        dsimp only
        split
        · rfl
        · split <;> rfl

/-- A turn may put a message into a mailbox, and does no more than that. -/
theorem turn_beneath (h : Hub L) : Beneath h (h.step (.event .turn)) := by
  cases deliveries : h.deliveries with
  | nil =>
    rw [step_turn_of_nil deliveries]
    exact .of_eq rfl rfl rfl rfl
  | cons d outer =>
    have going := (resumed_untouched h d outer).toBeneath
    cases more : d.waiting with
    | nil =>
      rw [step_turn_of_done deliveries more]
      exact going.trans (.of_eq rfl rfl rfl rfl)
    | cons e waiting =>
      rw [step_turn_of_waiting deliveries more]
      refine going.trans ?_
      cases e with
      | listener l => exact .of_eq rfl rfl rfl rfl
      | consumer k source =>
        unfold serve
        dsimp only
        split
        · exact .of_eq rfl rfl rfl rfl
        · split <;> exact .of_eq rfl rfl rfl rfl

end Hub

/-- Requests that touch neither what connections hold nor mailboxes, nor the settings of producers. -/
def Request.discreet {L : Type} : Request L → Bool
  | .openBroker .. | .connect .. | .setClientId .. | .closeConnection _ | .createSession ..
  | .createSessionFrom .. | .createTemporary .. | .createProducer .. | .setDeliveryMode ..
  | .setPriority .. | .setTimeToLive .. | .configure .. | .receive _ | .receiveFrom .. => false
  | _ => true

/-- Requests that open or close connections, open brokers or sessions, or take something from a
broker for a connection. -/
def Request.engages {L : Type} : Request L → Bool
  | .openBroker .. | .connect .. | .setClientId .. | .closeConnection _ | .createSession ..
  | .createSessionFrom .. | .createTemporary .. => true
  | _ => false

namespace Hub

variable {L : Type} {h h' : Hub L}

theorem adjustProducer_ok {p : ProducerId} {f : Producer → Except Error Producer}
    (done : h.adjustProducer p f = .ok h') :
    ∃ x, f (h.producer p) = .ok x ∧ h' = h.setProducer p x := by
  obtain ⟨_, -, done⟩ := ok_of_bind done
  obtain ⟨x, set, done⟩ := ok_of_bind done
  cases done
  exact ⟨x, set, rfl⟩

/-- A new producer has the defaults of its connection. -/
theorem createProducer_ok {s : SessionId} {destination : Option Destination} {p : ProducerId}
    (done : h.createProducer s destination = .ok (p, h')) :
    ∃ x : Producer, x.quality = (h.connection (h.session s).connection).defaults ∧
      h' = { h with producers := h.producers ++ [x] } := by
  obtain ⟨_, -, done⟩ := ok_of_bind done
  cases done
  exact ⟨_, rfl, rfl⟩

theorem sessionTemporary_ok {s : SessionId} {kind : DestinationKind} {d : Destination}
    (done : h.sessionTemporary s kind = .ok (d, h')) :
    (h.session s).isOpen = true ∧ ∃ b, h.linked (h.sessionLink s) = .ok b ∧
      h' = (h.createTemporaryOn b kind (h.sessionLink s).owner).2 := by
  obtain ⟨_, checked, done⟩ := ok_of_bind done
  obtain ⟨b, reached, done⟩ := ok_of_bind done
  cases done
  exact ⟨session_open_of_ensure checked, b, reached, rfl⟩

theorem perform_untouched (h : Hub L) {r : Request L} (discreet : r.discreet = true) :
    Untouched h (h.perform r).2 := by
  have adjusted : ∀ {p : ProducerId} {f : Producer → Except Error Producer} {h' : Hub L},
      (∀ x, f (h.producer p) = .ok x → x.quality = (h.producer p).quality) →
      h.adjustProducer p f = .ok h' → Untouched h h' := by
    intro p f h' same done
    obtain ⟨x, set, rfl⟩ := adjustProducer_ok done
    exact {
      toBeneath := .of_eq rfl rfl rfl rfl
      toFiles := .of_eq rfl
      quality := view_getD_set Producer.quality (same x set) }
  cases r with
  | addRegistry | registerProvider => exact .of_eq rfl rfl rfl rfl rfl rfl
  | addDirectory => exact .of_beneath (.addDirectory h) rfl rfl
  | removeBroker d name =>
    refine .of_beneath (.setDirectory ?_) rfl rfl
    intro name' b found
    rw [Table.get?_erase] at found
    split at found
    · cases found
    · exact found
  | start c | stop c =>
    refine adoptHub_of (.refl h) fun _ done => ?_
    obtain ⟨_, checked, done⟩ := ok_of_bind done
    cases done
    refine .of_beneath (.setConnection rfl rfl rfl ?_) rfl rfl
    simp [connection_open_of_ensure checked]
  | dropConnection c => exact .of_beneath (.setConnection rfl rfl rfl Iff.rfl) rfl rfl
  | closeSession s =>
    refine adoptHub_of (.refl h) fun _ done => ?_
    unfold closeSession at done
    split at done
    · cases done
      exact shutdownSession_untouched h s
    · cases done
  | dropSession s => exact .of_beneath (.setSession id rfl) rfl rfl
  | createDestination s name kind =>
    refine adopt_of (.refl h) fun _ _ done => ?_
    obtain ⟨_, -, done⟩ := ok_of_bind done
    exact createDestination_untouched done
  | deleteTemporary s d =>
    refine adoptHub_of (.refl h) fun _ done => ?_
    obtain ⟨_, -, done⟩ := ok_of_bind done
    exact onLink_untouched done fun _ _ => .deleteTemporary
  | setDisableMessageId p disable | setDisableTimestamp p disable =>
    refine adoptHub_of (.refl h) fun _ done => adjusted ?_ done
    intro x set
    cases set
    rfl
  | closeProducer p | dropProducer p =>
    exact {
      toBeneath := .of_eq rfl rfl rfl rfl
      toFiles := .of_eq rfl
      quality := view_getD_set Producer.quality rfl }
  | send p given m q now => exact adopt_of (.refl h) fun _ _ => send_untouched
  | createConsumer s destination => exact adopt_of (.refl h) fun _ _ => createConsumer_untouched
  | setListener k listener => exact adoptHub_of (.refl h) fun _ => setListener_untouched
  | closeConsumer k => exact closeConsumer_untouched h k
  | dropConsumer k => exact dropConsumer_untouched h k
  | _ => cases discreet

theorem receive_ok {k : ConsumerId} {m : Option Message} (done : h.receive k = .ok (m, h')) :
    (h.consumer k).closed = false ∧ ∃ source, (h.consumer k).destination = some source ∧
      h.pop k source = (m, h') := by
  obtain ⟨_, checked, done⟩ := ok_of_bind done
  split at done
  · cases done
  · exact ⟨consumer_open_of_ensure checked, _, ‹_›, Except.ok.inj done⟩

theorem receiveFrom_ok {k : ConsumerId} {source : Destination} {m : Option Message}
    (done : h.receiveFrom k source = .ok (m, h')) :
    (h.consumer k).closed = false ∧ ∃ h₁, h.attach k source = .ok h₁ ∧
      h₁.pop k source = (m, h') := by
  obtain ⟨_, checked, done⟩ := ok_of_bind done
  split at done
  · cases done
  · obtain ⟨h₁, attached, done⟩ := ok_of_bind done
    exact ⟨consumer_open_of_ensure checked, h₁, attached, Except.ok.inj done⟩

theorem pop_beneath (h : Hub L) (k : ConsumerId) (d : Destination) :
    Beneath h (h.pop k d).2 := by
  unfold pop
  dsimp only
  split
  · exact .refl h
  · exact .of_eq rfl rfl rfl rfl

theorem perform_beneath (h : Hub L) {r : Request L} (aside : r.engages = false) :
    Beneath h (h.perform r).2 := by
  cases r with
  | openBroker | connect | setClientId | closeConnection | createSession | createSessionFrom
  | createTemporary => cases aside
  | createProducer s destination =>
    refine adopt_of (.refl h) fun _ _ done => ?_
    obtain ⟨x, -, rfl⟩ := createProducer_ok done
    exact .of_eq rfl rfl rfl rfl
  | setDeliveryMode | setPriority | setTimeToLive | configure =>
    refine adoptHub_of (.refl h) fun _ done => ?_
    obtain ⟨x, -, rfl⟩ := adjustProducer_ok done
    exact .of_eq rfl rfl rfl rfl
  | receive k =>
    refine adopt_of (.refl h) fun _ _ done => ?_
    obtain ⟨-, d, -, popped⟩ := receive_ok done
    have beneath := pop_beneath h k d
    rwa [popped] at beneath
  | receiveFrom k d =>
    refine adopt_of (.refl h) fun _ _ done => ?_
    obtain ⟨-, h₁, attached, popped⟩ := receiveFrom_ok done
    have beneath := pop_beneath h₁ k d
    rw [popped] at beneath
    exact (attach_untouched attached).toBeneath.trans beneath
  | _ => exact (perform_untouched h rfl).toBeneath

end Hub

end Courier
