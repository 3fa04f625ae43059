import Courier.Proofs.Hub.Beneath

/-!
# Making and closing

Connections, sessions, producers and consumers are only ever made and closed. Whatever a request
does to them, and to what directories list, comes down to a few changes, of which none reopens
anything. Taking a broker out of a directory stands apart.
-/

namespace Courier

set_option autoImplicit false

/-- What an application holds of the hub and can close. -/
inductive Part
  | connection (c : ConnectionId)
  | session (s : SessionId)
  | producer (p : ProducerId)
  | consumer (k : ConsumerId)

namespace Hub

variable {L : Type} {making : Prop} {h h' h'' : Hub L}

def Made (h : Hub L) : Part → Prop
  | .connection c => c < h.connections.length
  | .session s => s < h.sessions.length
  | .producer p => p < h.producers.length
  | .consumer k => k < h.consumers.length

def Shut (h : Hub L) : Part → Prop
  | .connection c => (h.connection c).state = .closed
  | .session s => (h.session s).isOpen = false
  | .producer p => (h.producer p).closed = true
  | .consumer k => (h.consumer k).closed = true

/-- One change to what parts there are and which are closed, or to what directories list. Sessions,
producers and consumers are made only where `making` allows it. -/
inductive Shift (making : Prop) (h : Hub L) : Hub L → Prop
  | aside {h' : Hub L} (brokers : h.brokers.length ≤ h'.brokers.length)
      (directories : h'.directories = h.directories) (connections : h'.connections = h.connections)
      (sessions : h'.sessions = h.sessions) (producers : h'.producers = h.producers)
      (consumers : h'.consumers = h.consumers) : Shift making h h'
  | addDirectory : Shift making h h.addDirectory.2
  | enlist (d : DirectoryId) (name : String) : Shift making h (h.getOrCreate d name).2
  | addConnection (x : Connection) : Shift making h { h with connections := h.connections ++ [x] }
  | setConnection {c : ConnectionId} {x : Connection}
      (closed : (h.connection c).state = .closed → x.state = .closed) :
      Shift making h (h.setConnection c x)
  | addSession (allowed : making) (x : Session) :
      Shift making h { h with sessions := h.sessions ++ [x] }
  | setSession {s : SessionId} {x : Session} (isOpen : x.isOpen = (h.session s).isOpen)
      (connection : x.connection = (h.session s).connection) : Shift making h (h.setSession s x)
  | markShut (s : SessionId) : Shift making h (h.markShut s)
  | addProducer (allowed : making) {x : Producer} (opened : (h.session x.session).isOpen = true) :
      Shift making h { h with producers := h.producers ++ [x] }
  | setProducer {p : ProducerId} {x : Producer} (session : x.session = (h.producer p).session)
      (closed : (h.producer p).closed = true → x.closed = true)
      (held : x.held = true → (h.producer p).held = true) : Shift making h (h.setProducer p x)
  | addConsumer (allowed : making) (x : Consumer L) :
      Shift making h { h with consumers := h.consumers ++ [x] }
  | setConsumer {k : ConsumerId} {x : Consumer L} (session : x.session = (h.consumer k).session)
      (closed : (h.consumer k).closed = true → x.closed = true) :
      Shift making h (h.setConsumer k x)

/-- Any number of them. -/
def Shifts (making : Prop) : Hub L → Hub L → Prop := Relation.ReflTransGen (Shift making)

namespace Shifts

theorem refl (h : Hub L) : Shifts making h h := Relation.ReflTransGen.refl

theorem single (shift : Shift making h h') : Shifts making h h' :=
  Relation.ReflTransGen.single shift

theorem trans (first : Shifts making h h') (second : Shifts making h' h'') :
    Shifts making h h'' :=
  Relation.ReflTransGen.trans first second

theorem tail (first : Shifts making h h') (shift : Shift making h' h'') : Shifts making h h'' :=
  Relation.ReflTransGen.tail first shift

theorem foldl {α : Type} {f : Hub L → α → Hub L} (step : ∀ h a, Shifts making h (f h a))
    (l : List α) (h : Hub L) : Shifts making h (l.foldl f h) := by
  induction l generalizing h with
  | nil => exact refl h
  | cons a l ih => exact (step h a).trans (ih (f h a))

/-- Nothing but brokers, registries, deliveries and the count of names has changed. -/
theorem aside (brokers : h.brokers.length ≤ h'.brokers.length)
    (directories : h'.directories = h.directories) (connections : h'.connections = h.connections)
    (sessions : h'.sessions = h.sessions) (producers : h'.producers = h.producers)
    (consumers : h'.consumers = h.consumers) : Shifts making h h' :=
  single (.aside brokers directories connections sessions producers consumers)

theorem setBroker (h : Hub L) (b : BrokerId) (x : Broker (Endpoint L)) :
    Shifts making h (h.setBroker b x) :=
  aside (Nat.le_of_eq List.length_set.symm) rfl rfl rfl rfl rfl

theorem mint (h : Hub L) : Shifts making h h.mint.2 := aside (Nat.le_refl _) rfl rfl rfl rfl rfl

theorem deliveries (h : Hub L) (deliveries : List (Delivery L)) :
    Shifts making h { h with deliveries } :=
  aside (Nat.le_refl _) rfl rfl rfl rfl rfl

/-- What every single change keeps, they all keep. -/
theorem keep {P : Hub L → Prop} (kept : ∀ {h h'}, Shift making h h' → P h → P h')
    (shifts : Shifts making h h') (holds : P h) : P h' := by
  induction shifts with
  | refl => exact holds
  | tail _ shift ih => exact kept shift ih

end Shifts

/-! Each request, and each turn, is a number of such changes. -/

theorem onLink_shifts {l : Link} {f : Broker (Endpoint L) → Except Error (Broker (Endpoint L))}
    (done : h.onLink l f = .ok h') : Shifts making h h' := by
  obtain ⟨b, x, -, -, rfl⟩ := onLink_ok done
  exact .setBroker h b x

theorem onBroker_shifts {b : BrokerId}
    {f : Broker (Endpoint L) → Except Error (Broker (Endpoint L))}
    (done : h.onBroker b f = .ok h') : Shifts making h h' := by
  obtain ⟨x, -, rfl⟩ := ok_of_map done
  exact .setBroker h b x

theorem createDestinationOn_shifts {b : BrokerId} {name : String} {kind : DestinationKind}
    {d : Destination} (done : h.createDestinationOn b name kind = .ok (d, h')) :
    Shifts making h h' := by
  obtain ⟨⟨d', x⟩, -, done⟩ := ok_of_bind done
  cases done
  exact .setBroker h b x

theorem createTemporaryOn_shifts (h : Hub L) (b : BrokerId) (kind : DestinationKind)
    (owner : String) : Shifts making h (h.createTemporaryOn b kind owner).2 :=
  (Shifts.mint h).trans (.setBroker h.mint.2 b _)

theorem publish_shifts {b : BrokerId} {d : Destination} {m : Message} {sender : Option ProducerId}
    {n : Nat} (done : h.publish b d m sender = .ok (n, h')) : Shifts making h h' := by
  obtain ⟨endpoints, -, done⟩ := ok_of_bind done
  cases done
  exact .deliveries h _

theorem closeConsumer_shifts (h : Hub L) (k : ConsumerId) :
    Shifts making h (h.closeConsumer k) := by
  cases opened : (h.consumer k).closed with
  | true =>
    rw [closeConsumer_of_closed opened]
    exact .refl h
  | false =>
    have leaves := withdraw_all_leaves h (h.linkOf k) (h.consumer k).id (h.consumer k).attached
    rw [closeConsumer_of_open opened]
    generalize (h.consumer k).attached.foldl (withdraw (h.linkOf k) (h.consumer k).id) h = h₁
      at leaves ⊢
    obtain ⟨brokers, rfl⟩ := leaves.rest
    have withdrawn : Shifts making h { h with brokers } :=
      .aside (Nat.le_of_eq leaves.count.symm) rfl rfl rfl rfl rfl
    exact withdrawn.tail (.setConsumer rfl fun _ => rfl)

theorem reap_shifts (h : Hub L) (k : ConsumerId) : Shifts making h (h.reap k) := by
  unfold reap
  split
  · exact .refl h
  · exact closeConsumer_shifts h k

theorem dropConsumer_shifts (h : Hub L) (k : ConsumerId) : Shifts making h (h.dropConsumer k) := by
  have dropped : Shifts making h (h.setConsumer k { h.consumer k with held := false }) :=
    .single (.setConsumer rfl id)
  exact dropped.trans (reap_shifts _ k)

theorem shutdownSession_shifts (h : Hub L) (s : SessionId) :
    Shifts making h (h.shutdownSession s) := by
  cases opened : (h.session s).isOpen with
  | false =>
    rw [shutdownSession_of_shut opened]
    exact .refl h
  | true =>
    rw [shutdownSession_of_open opened]
    refine (Shifts.single (.markShut s)).trans (Shifts.foldl ?_ _ _)
    intro h k
    unfold closeIn
    split
    · exact closeConsumer_shifts h k
    · exact .refl h

theorem emptied_shifts (h : Hub L) (c : ConnectionId) : Shifts making h (h.emptied c) := by
  refine ((Shifts.single (.setConnection fun _ => rfl)).trans (Shifts.foldl ?_ _ _)).tail
    (.setConnection id)
  intro h s
  unfold shutIn
  split
  · exact shutdownSession_shifts h s
  · exact .refl h

theorem closeConnection_shifts (h : Hub L) (c : ConnectionId) :
    Shifts making h (h.closeConnection c).2 := by
  by_cases closed : (h.connection c).state = .closed
  · rw [closeConnection_of_closed closed]
    exact .refl h
  rcases closeConnection_of_open closed with ⟨h', done, same⟩ | ⟨e, -, same⟩
  · rw [same]
    exact (emptied_shifts h c).trans (onLink_shifts done)
  · rw [same]
    exact emptied_shifts h c

theorem setClientId_shifts {c : ConnectionId} {id : String} (done : h.setClientId c id = .ok h') :
    Shifts making h h' := by
  obtain ⟨opened, -, b, x, -, -, rfl⟩ := setClientId_ok done
  exact (Shifts.setBroker h b x).tail (.setConnection fun closed => absurd closed opened)

theorem joined_shifts (h : Hub L) (d : DirectoryId) (name : String) (username : Option String)
    (defaults : Quality) : Shifts making h (h.joined d name username defaults) :=
  ((Shifts.single (.enlist d name)).trans (.mint _)).tail (.addConnection _)

theorem connectAs_shifts (f : Factory) (h : Hub L) (username : Option String) :
    Shifts making h (f.connectAs h username).2 :=
  connectAs_keeps (.refl h) (fun d name => joined_shifts h d name username f.defaults)
    (fun opened done => opened.trans (setClientId_shifts done))
    (fun c opened => opened.trans (closeConnection_shifts _ c))
    (fun _ opened => opened.tail (.setConnection id))

theorem createSession_shifts (allowed : making) {c : ConnectionId} {transacted : Bool}
    {mode : AcknowledgeMode} {s : SessionId}
    (done : h.createSession c transacted mode = .ok (s, h')) : Shifts making h h' := by
  obtain ⟨-, x, -, rfl⟩ := createSession_ok done
  exact (Shifts.mint h).tail (.addSession allowed x)

theorem createProducer_shifts (allowed : making) {s : SessionId} {destination : Option Destination}
    {p : ProducerId} (done : h.createProducer s destination = .ok (p, h')) :
    Shifts making h h' := by
  obtain ⟨_, checked, done⟩ := ok_of_bind done
  cases done
  exact .single (.addProducer allowed (session_open_of_ensure checked))

/-- A producer may get other settings. -/
theorem adjustProducer_shifts {p : ProducerId} {f : Producer → Except Error Producer}
    (same : ∀ x, f (h.producer p) = .ok x →
      x.session = (h.producer p).session ∧ x.closed = (h.producer p).closed ∧
        x.held = (h.producer p).held)
    (done : h.adjustProducer p f = .ok h') : Shifts making h h' := by
  obtain ⟨x, set, rfl⟩ := adjustProducer_ok done
  obtain ⟨session, closed, held⟩ := same x set
  exact .single (.setProducer session closed.trans held.symm.trans)

theorem attach_shifts {k : ConsumerId} {d : Destination} (done : h.attach k d = .ok h') :
    Shifts making h h' := by
  rcases attach_ok done with ⟨-, rfl⟩ | ⟨-, b, x, -, -, rfl⟩
  · exact .refl h'
  · exact (Shifts.setBroker h b x).tail (.setConsumer rfl id)

theorem pop_shifts (h : Hub L) (k : ConsumerId) (d : Destination) :
    Shifts making h (h.pop k d).2 := by
  unfold pop
  dsimp only
  split
  · exact .refl h
  · exact .single (.setConsumer rfl id)

theorem createConsumer_shifts (allowed : making) {s : SessionId} {destination : Option Destination}
    {k : ConsumerId} (done : h.createConsumer s destination = .ok (k, h')) :
    Shifts making h h' := by
  obtain ⟨_, -, done⟩ := ok_of_bind done
  have added := (Shifts.mint h).tail (.addConsumer allowed
    { id := "consumer-" ++ uniqueName h.minted, session := s, destination })
  cases destination with
  | none =>
    cases done
    exact added
  | some d =>
    obtain ⟨h₁, attached, done⟩ := ok_of_bind done
    cases done
    exact added.trans (attach_shifts attached)

theorem setListener_shifts {k : ConsumerId} {listener : Option L}
    (done : h.setListener k listener = .ok h') : Shifts making h h' := by
  obtain ⟨_, -, done⟩ := ok_of_bind done
  cases done
  exact .single (.setConsumer rfl id)

theorem receive_shifts {k : ConsumerId} {m : Option Message} (done : h.receive k = .ok (m, h')) :
    Shifts making h h' := by
  obtain ⟨-, d, -, popped⟩ := receive_ok done
  have shifts : Shifts making h _ := pop_shifts h k d
  rwa [popped] at shifts

theorem receiveFrom_shifts {k : ConsumerId} {d : Destination} {m : Option Message}
    (done : h.receiveFrom k d = .ok (m, h')) : Shifts making h h' := by
  obtain ⟨-, h₁, attached, popped⟩ := receiveFrom_ok done
  have shifts : Shifts making h₁ _ := pop_shifts h₁ k d
  rw [popped] at shifts
  exact (attach_shifts attached).trans shifts

theorem send_shifts {p : ProducerId} {given : Option Destination} {m m' : Message}
    {request : Option QualityRequest} {now : Int64}
    (done : h.send p given m request now = .ok (m', h')) : Shifts making h h' := by
  obtain ⟨b, target, copy, n, published⟩ := send_ok done
  exact (Shifts.mint h).trans (publish_shifts published)

theorem resumed_shifts (h : Hub L) (d : Delivery L) (outer : List (Delivery L)) :
    Shifts making h (h.resumed d outer) := by
  have idle : Shifts making h { h with deliveries := { d with serving := none } :: outer } :=
    .deliveries h _
  unfold resumed
  dsimp only
  split
  · exact idle.trans (reap_shifts _ _)
  · exact idle

theorem serve_shifts (h : Hub L) (d : Delivery L) (outer : List (Delivery L)) (e : Endpoint L) :
    Shifts making h (h.serve d outer e).2 := by
  cases e with
  | listener l => exact .deliveries h _
  | consumer k source =>
    unfold serve
    dsimp only
    split
    · exact .deliveries h _
    · split
      · exact .deliveries h _
      · exact (Shifts.deliveries h _).tail (.setConsumer rfl id)

theorem turn_shifts (h : Hub L) : Shifts making h (h.step (.event .turn)) := by
  cases deliveries : h.deliveries with
  | nil =>
    rw [step_turn_of_nil deliveries]
    exact .refl h
  | cons d outer =>
    have going : Shifts making h _ := resumed_shifts h d outer
    cases more : d.waiting with
    | nil =>
      rw [step_turn_of_done deliveries more]
      exact going.trans (.deliveries _ _)
    | cons e waiting =>
      rw [step_turn_of_waiting deliveries more]
      exact going.trans (serve_shifts _ _ _ e)

theorem ask_shifts (h : Hub L) (b : BrokerId) (r : BrokerRequest L) :
    Shifts making h (h.ask b r).2 := by
  cases r with
  | createDestination name kind =>
    exact adopt_of (.refl h) fun _ _ done => createDestinationOn_shifts done
  | createTemporary kind owner => exact createTemporaryOn_shifts h b kind owner
  | deleteTemporary | register | unregister | claim =>
    exact adoptHub_of (.refl h) fun _ done => onBroker_shifts done
  | send d m => exact adopt_of (.refl h) fun _ _ done => publish_shifts done
  | release | releaseConnection => exact .setBroker h b _

end Hub

/-- What a move takes out of which directory. -/
def Move.removal? {L : Type} : Move L → Option (DirectoryId × String)
  | .event (.request (.removeBroker d name)) => some (d, name)
  | _ => none

/-- Requests that make a session, a producer or a consumer. -/
def Request.Makes {L : Type} : Request L → Prop
  | .createSession .. | .createSessionFrom .. | .createProducer .. | .createConsumer .. => True
  | _ => False

namespace Hub

variable {L : Type} {making : Prop} {h h' h'' : Hub L}

theorem perform_shifts (h : Hub L) {r : Request L}
    (kept : (Move.event (.request r)).removal? = none) (allowed : r.Makes → making) :
    Shifts making h (h.perform r).2 := by
  cases r with
  | addRegistry | registerProvider => exact .aside (Nat.le_refl _) rfl rfl rfl rfl rfl
  | addDirectory => exact .single .addDirectory
  | openBroker d name => exact .single (.enlist d name)
  | removeBroker d name => cases kept
  | connect f username => exact connectAs_shifts f h username
  | start c | stop c =>
    refine adoptHub_of (.refl h) fun _ done => ?_
    obtain ⟨_, checked, done⟩ := ok_of_bind done
    cases done
    exact .single (.setConnection fun closed => absurd closed (connection_open_of_ensure checked))
  | setClientId c id => exact adoptHub_of (.refl h) fun _ => setClientId_shifts
  | closeConnection c => exact closeConnection_shifts h c
  | dropConnection c => exact .single (.setConnection id)
  | createSession c transacted mode =>
    exact adopt_of (.refl h) fun _ _ => createSession_shifts (allowed trivial)
  | createSessionFrom c settings =>
    refine adopt_of (.refl h) fun _ _ done => ?_
    obtain ⟨mode, done⟩ := createSessionFrom_ok done
    exact createSession_shifts (allowed trivial) done
  | closeSession s =>
    refine adoptHub_of (.refl h) fun _ done => ?_
    unfold closeSession at done
    split at done
    · cases done
      exact shutdownSession_shifts h s
    · cases done
  | dropSession s => exact .single (.setSession rfl rfl)
  | createDestination s name kind =>
    refine adopt_of (.refl h) fun _ _ done => ?_
    obtain ⟨_, -, done⟩ := ok_of_bind done
    obtain ⟨b, -, done⟩ := ok_of_bind done
    exact createDestinationOn_shifts done
  | createTemporary s kind =>
    refine adopt_of (.refl h) fun _ _ done => ?_
    obtain ⟨-, b, -, rfl⟩ := sessionTemporary_ok done
    exact createTemporaryOn_shifts h b kind _
  | deleteTemporary s d =>
    refine adoptHub_of (.refl h) fun _ done => ?_
    obtain ⟨_, -, done⟩ := ok_of_bind done
    exact onLink_shifts done
  | createProducer s destination =>
    exact adopt_of (.refl h) fun _ _ => createProducer_shifts (allowed trivial)
  | setDeliveryMode p mode | setDisableMessageId p disable | setDisableTimestamp p disable =>
    refine adoptHub_of (.refl h) fun _ => adjustProducer_shifts ?_
    intro x set
    cases set
    exact ⟨rfl, rfl, rfl⟩
  | setPriority p n | setTimeToLive p n | configure p n =>
    refine adoptHub_of (.refl h) fun _ => adjustProducer_shifts ?_
    intro x set
    obtain ⟨_, -, set⟩ := ok_of_bind set
    cases set
    exact ⟨rfl, rfl, rfl⟩
  | closeProducer p => exact .single (.setProducer rfl (fun _ => rfl) id)
  | dropProducer p =>
    refine .single (.setProducer rfl id ?_)
    intro held
    cases held
  | send p given m q now => exact adopt_of (.refl h) fun _ _ => send_shifts
  | createConsumer s destination =>
    exact adopt_of (.refl h) fun _ _ => createConsumer_shifts (allowed trivial)
  | setListener k listener => exact adoptHub_of (.refl h) fun _ => setListener_shifts
  | receive k => exact adopt_of (.refl h) fun _ _ => receive_shifts
  | receiveFrom k d => exact adopt_of (.refl h) fun _ _ => receiveFrom_shifts
  | closeConsumer k => exact closeConsumer_shifts h k
  | dropConsumer k => exact dropConsumer_shifts h k

theorem step_of_removal {move : Move L} {d : DirectoryId} {name : String}
    (removal : move.removal? = some (d, name)) : h.step move = (h.removeBroker d name).2 := by
  unfold Move.removal? at removal
  split at removal
  · cases removal
    rfl
  · cases removal

/-- Every move but the removal of a broker is a number of such changes. -/
theorem step_shifts (h : Hub L) {move : Move L} (kept : move.removal? = none) :
    Shifts True h (h.step move) := by
  cases move with
  | event e =>
    cases e with
    | request r => exact perform_shifts h kept fun _ => trivial
    | turn => exact turn_shifts h
  | addBroker name =>
    exact .aside (by simp [step, Hub.addBroker]) rfl rfl rfl rfl rfl
  | ask b r => exact ask_shifts h b r

/-! What has been made stays, and what has closed stays closed. -/

end Hub

/-- Entries keep their places, and closed ones stay closed. -/
structure Outlives {α : Type} (closed : α → Prop) (l l' : List α) : Prop where
  length : l.length ≤ l'.length
  closed : ∀ {i : Nat} {x : α}, l[i]? = some x → closed x → ∃ x', l'[i]? = some x' ∧ closed x'

namespace Outlives
variable {α : Type} {closed : α → Prop} {l l' l'' : List α}

theorem refl (closed : α → Prop) (l : List α) : Outlives closed l l :=
  ⟨Nat.le_refl _, fun found was => ⟨_, found, was⟩⟩

theorem trans (first : Outlives closed l l') (second : Outlives closed l' l'') :
    Outlives closed l l'' where
  length := Nat.le_trans first.length second.length
  closed found was := by
    obtain ⟨x', found', was'⟩ := first.closed found was
    exact second.closed found' was'

theorem append (closed : α → Prop) (l l' : List α) : Outlives closed l (l ++ l') where
  length := List.length_append ▸ Nat.le_add_right _ _
  closed found was := by
    have inside := (List.getElem?_eq_some_iff.mp found).1
    exact ⟨_, (List.getElem?_append_left inside).trans found, was⟩

theorem set {i : Nat} {x fallback : α} (keeps : closed (l.getD i fallback) → closed x) :
    Outlives closed l (l.set i x) where
  length := Nat.le_of_eq List.length_set.symm
  closed {j y} found was := by
    rw [List.getElem?_set]
    by_cases here : i = j
    · subst here
      have inside := (List.getElem?_eq_some_iff.mp found).1
      rw [List.getD_eq_getElem?_getD, found] at keeps
      exact ⟨x, by rw [if_pos rfl, if_pos inside], keeps was⟩
    · exact ⟨y, by rw [if_neg here, found], was⟩

theorem map {f : α → α} (keeps : ∀ x, closed x → closed (f x)) : Outlives closed l (l.map f) where
  length := Nat.le_of_eq (List.length_map f).symm
  closed {i x} found was := ⟨f x, by rw [List.getElem?_map, found]; rfl, keeps x was⟩

theorem getD (outlives : Outlives closed l l') (fallback : α) {i : Nat} (made : i < l.length)
    (was : closed (l.getD i fallback)) : closed (l'.getD i fallback) := by
  rw [List.getD_eq_getElem?_getD, List.getElem?_eq_getElem made, Option.getD_some] at was
  obtain ⟨x', found, still⟩ := outlives.closed (List.getElem?_eq_getElem made) was
  rwa [List.getD_eq_getElem?_getD, found]

end Outlives

namespace Hub

variable {L : Type} {making : Prop} {h h' h'' : Hub L}

/-- All parts that have been made are still there, and none of them has reopened. -/
structure Endures (h h' : Hub L) : Prop where
  connections : Outlives (·.state = .closed) h.connections h'.connections
  sessions : Outlives (·.isOpen = false) h.sessions h'.sessions
  producers : Outlives (·.closed = true) h.producers h'.producers
  consumers : Outlives (·.closed = true) h.consumers h'.consumers

namespace Endures

theorem of_eq (connections : h'.connections = h.connections) (sessions : h'.sessions = h.sessions)
    (producers : h'.producers = h.producers) (consumers : h'.consumers = h.consumers) :
    Endures h h' where
  connections := connections ▸ .refl _ _
  sessions := sessions ▸ .refl _ _
  producers := producers ▸ .refl _ _
  consumers := consumers ▸ .refl _ _

theorem refl (h : Hub L) : Endures h h := of_eq rfl rfl rfl rfl

theorem trans (first : Endures h h') (second : Endures h' h'') : Endures h h'' where
  connections := first.connections.trans second.connections
  sessions := first.sessions.trans second.sessions
  producers := first.producers.trans second.producers
  consumers := first.consumers.trans second.consumers

theorem made (endures : Endures h h') {part : Part} (made : h.Made part) : h'.Made part := by
  cases part with
  | connection c => exact Nat.lt_of_lt_of_le made endures.connections.length
  | session s => exact Nat.lt_of_lt_of_le made endures.sessions.length
  | producer p => exact Nat.lt_of_lt_of_le made endures.producers.length
  | consumer k => exact Nat.lt_of_lt_of_le made endures.consumers.length

theorem shut (endures : Endures h h') {part : Part} (made : h.Made part) (shut : h.Shut part) :
    h'.Shut part := by
  cases part with
  | connection c => exact endures.connections.getD _ made shut
  | session s => exact endures.sessions.getD _ made shut
  | producer p => exact endures.producers.getD _ made shut
  | consumer k => exact endures.consumers.getD _ made shut

end Endures

theorem Shift.endures (shift : Shift making h h') : Endures h h' := by
  cases shift with
  | aside _ _ connections sessions producers consumers =>
    exact .of_eq connections sessions producers consumers
  | addDirectory => exact .of_eq rfl rfl rfl rfl
  | enlist d name =>
    obtain ⟨brokers, directories, same⟩ := getOrCreate_rest h d name
    rw [same]
    exact .of_eq rfl rfl rfl rfl
  | addConnection x => exact { Endures.refl h with connections := .append _ _ _ }
  | setConnection closed => exact { Endures.refl h with connections := .set closed }
  | addSession _ x => exact { Endures.refl h with sessions := .append _ _ _ }
  | setSession isOpen _ =>
    exact { Endures.refl h with sessions := .set fun shut => isOpen.trans shut }
  | markShut s =>
    refine { Endures.refl h with
      sessions := .set fun (_ : (h.session s).isOpen = false) => rfl
      producers := .map ?_ }
    intro x closed
    split
    · rfl
    · exact closed
  | addProducer _ _ => exact { Endures.refl h with producers := .append _ _ _ }
  | setProducer _ closed _ => exact { Endures.refl h with producers := .set closed }
  | addConsumer _ x => exact { Endures.refl h with consumers := .append _ _ _ }
  | setConsumer _ closed => exact { Endures.refl h with consumers := .set closed }

theorem Shifts.endures (shifts : Shifts making h h') : Endures h h' := by
  induction shifts with
  | refl => exact .refl h
  | tail _ shift ih => exact ih.trans shift.endures

/-- No move reopens anything. -/
theorem Endures.step (h : Hub L) (move : Move L) : Endures h (h.step move) := by
  cases removal : move.removal? with
  | none => exact (step_shifts h removal).endures
  | some removed =>
    obtain ⟨d, name⟩ := removed
    rw [step_of_removal removal]
    exact .of_eq rfl rfl rfl rfl

theorem Endures.play (h : Hub L) (moves : List (Move L)) : Endures h (h.play moves) := by
  induction moves generalizing h with
  | nil => exact .refl h
  | cons move moves ih => exact (Endures.step h move).trans (ih _)

/-! Open producers belong to open sessions. -/

/-- Every open producer belongs to an open session. -/
def Produced (h : Hub L) : Prop :=
  ∀ p, (h.producer p).closed = false → (h.session (h.producer p).session).isOpen = true

theorem producer_markShut (h : Hub L) (s : SessionId) (p : ProducerId) :
    (h.markShut s).producer p =
      if (h.producer p).session = s then { h.producer p with closed := true } else h.producer p := by
  simp only [producer, markShut, List.getD_eq_getElem?_getD, List.getElem?_map]
  cases h.producers[p]? with
  | none =>
    simp only [Option.map_none, Option.getD_none]
    split <;> rfl
  | some x => rfl

namespace Produced

theorem initial : Produced ({} : Hub L) := by intro p opened; cases opened

theorem shift (produced : Produced h) (shift : Shift making h h') : Produced h' := by
  cases shift with
  | aside _ _ _ sessions producers _ =>
    intro p opened
    simp only [producer, session, sessions, producers] at opened ⊢
    exact produced p opened
  | addDirectory | addConnection | setConnection | addConsumer | setConsumer => exact produced
  | enlist d name =>
    obtain ⟨brokers, directories, same⟩ := getOrCreate_rest h d name
    rw [same]
    exact produced
  | addSession _ x =>
    intro p opened
    have open_s := produced p opened
    rw [session_addSession, if_neg]
    · exact open_s
    · exact Nat.ne_of_lt (session_lt_of_open open_s)
  | setSession isOpen _ =>
    intro p opened
    exact (view_getD_set Session.isOpen isOpen _).trans (produced p opened)
  | markShut s =>
    intro p opened
    rw [producer_markShut] at opened ⊢
    split at opened
    · cases opened
    · rename_i elsewhere
      have open_s := produced p opened
      rw [if_neg elsewhere]
      refine (congrArg Session.isOpen ?_).trans open_s
      exact (session_setSession ..).trans (if_neg fun here => elsewhere here.1)
  | addProducer _ open_s =>
    intro p opened
    rw [producer_addProducer] at opened ⊢
    split
    · exact open_s
    · rename_i earlier
      rw [if_neg earlier] at opened
      exact produced p opened
  | @setProducer p x same closed _ =>
    intro q opened
    rw [producer_setProducer] at opened ⊢
    split
    · rename_i here
      rw [if_pos here] at opened
      rw [same]
      apply produced p
      by_contra was
      rw [closed (by simpa using was)] at opened
      cases opened
    · rename_i elsewhere
      rw [if_neg elsewhere] at opened
      exact produced q opened

theorem shifts (produced : Produced h) (shifts : Shifts making h h') : Produced h' :=
  shifts.keep (fun shift produced => produced.shift shift) produced

theorem step (produced : Produced h) (move : Move L) : Produced (h.step move) := by
  cases removal : move.removal? with
  | none => exact produced.shifts (step_shifts h removal)
  | some removed =>
    obtain ⟨d, name⟩ := removed
    rw [step_of_removal removal]
    exact produced

end Produced

theorem produced_reached (events : List (Event L)) : Produced (reached events) := by
  induction events using List.reverseRecOn with
  | nil => exact .initial
  | append_singleton events e ih =>
    rw [reached_append_singleton]
    exact ih.step (.event e)

end Hub

end Courier
