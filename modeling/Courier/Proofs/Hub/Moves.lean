import Mathlib.Logic.Relation
import Courier.Proofs.Hub.Run
import Courier.Proofs.Hub.Soundness

/-!
# Moves

Listeners are not held to the requests of clients: they reach brokers directly as well. A move is
a request of either kind or a turn of the innermost delivery. Whatever a request does comes down
to a few changes to brokers, consumers and deliveries, so what these keep every request keeps.
-/

namespace Courier

set_option autoImplicit false

/-- What can be asked of a broker directly. It registers listeners, under any id and for any
owner. -/
inductive BrokerRequest (L : Type)
  | createDestination (name : String) (kind : DestinationKind)
  | createTemporary (kind : DestinationKind) (owner : String)
  | deleteTemporary (d : Destination) (owner : String)
  | register (d : Destination) (id owner : String) (l : L)
  | unregister (d : Destination) (id : String)
  | send (d : Destination) (m : Message)
  | claim (id owner : String)
  | release (id owner : String)
  | releaseConnection (owner : String)

inductive Move (L : Type)
  | event (e : Event L)
  | addBroker (name : String)
  | ask (b : BrokerId) (r : BrokerRequest L)

namespace Hub

variable {L : Type}

/-- How a request to a broker ends, and the hub after it. -/
def ask (h : Hub L) (b : BrokerId) : BrokerRequest L → Except Error Unit × Hub L
  | .createDestination name kind => h.adopt (h.createDestinationOn b name kind)
  | .createTemporary kind owner => (.ok (), (h.createTemporaryOn b kind owner).2)
  | .deleteTemporary d owner => h.adoptHub (h.onBroker b (·.deleteTemporary d owner))
  | .register d id owner l => h.adoptHub (h.onBroker b (·.register d id owner (.listener l)))
  | .unregister d id => h.adoptHub (h.onBroker b (·.unregister d id))
  | .send d m => h.adopt (h.publish b d m)
  | .claim id owner => h.adoptHub (h.onBroker b (·.claim id owner))
  | .release id owner => (.ok (), h.setBroker b ((h.broker b).release id owner))
  | .releaseConnection owner => (.ok (), h.setBroker b ((h.broker b).releaseConnection owner))

def step (h : Hub L) : Move L → Hub L
  | .event e => h.after e
  | .addBroker name => (h.addBroker name).2
  | .ask b r => (h.ask b r).2

def play (h : Hub L) (moves : List (Move L)) : Hub L := moves.foldl step h

/-- The hub after moves from the first one. -/
def played (moves : List (Move L)) : Hub L := ({} : Hub L).play moves

def Reachable (h : Hub L) : Prop := ∃ moves, played moves = h

theorem play_cons (h : Hub L) (move : Move L) (moves : List (Move L)) :
    h.play (move :: moves) = (h.step move).play moves := rfl

end Hub

/-- A consumer that has closed has nothing left. -/
def Consumer.Quiet {L : Type} (c : Consumer L) : Prop :=
  c.closed = true → c.listener = none ∧ c.mailbox = ∅ ∧ c.attached = []

/-- A consumer goes on as the same one, and once closed stays so. -/
structure Consumer.Becomes {L : Type} (c x : Consumer L) : Prop where
  id : x.id = c.id
  closed : c.closed = true → x.closed = true
  quiet : c.Quiet → x.Quiet

theorem Consumer.Becomes.of_open {L : Type} {c x : Consumer L} (id : x.id = c.id)
    (opened : c.closed = false) (opened' : x.closed = false) : Consumer.Becomes c x where
  id := id
  closed closed := by
    rw [opened] at closed
    cases closed
  quiet _ closed := by
    rw [opened'] at closed
    cases closed

namespace Hub

variable {L : Type} {h h' h'' : Hub L}

/-- One change to what brokers, consumers and deliveries there are. -/
inductive Change (h : Hub L) : Hub L → Prop
  | aside {h' : Hub L} (brokers : h'.brokers = h.brokers) (consumers : h'.consumers = h.consumers)
      (deliveries : h'.deliveries = h.deliveries) : Change h h'
  | addBroker (name : String) : Change h (h.addBroker name).2
  | thin {b : BrokerId} {x : Broker (Endpoint L)} (thins : (h.broker b).Thins x) :
      Change h (h.setBroker b x)
  | listen {b : BrokerId} {x : Broker (Endpoint L)} {d : Destination} {id owner : String} {l : L}
      (taken : (h.broker b).register d id owner (.listener l) = .ok x) : Change h (h.setBroker b x)
  | enrol {b : BrokerId} {x : Broker (Endpoint L)} {d : Destination} {k : ConsumerId}
      {owner : String} (made : k < h.consumers.length)
      (taken : (h.broker b).register d (h.consumer k).id owner (.consumer k d) = .ok x) :
      Change h (h.setBroker b x)
  | addConsumer {c : Consumer L} (opened : c.closed = false) :
      Change h { h with consumers := h.consumers ++ [c] }
  | setConsumer {k : ConsumerId} {x : Consumer L} (becomes : (h.consumer k).Becomes x) :
      Change h (h.setConsumer k x)
  | publish {b : BrokerId} {d : Destination} {endpoints : List (Endpoint L)} (m : Message)
      (sender : Option ProducerId) (snapshot : (h.broker b).endpoints d = .ok endpoints) :
      Change h { h with deliveries :=
        { message := m, waiting := endpoints, sender } :: h.deliveries }

/-- Any number of changes. -/
def Changes : Hub L → Hub L → Prop := Relation.ReflTransGen Change

namespace Changes

theorem refl (h : Hub L) : Changes h h := Relation.ReflTransGen.refl

theorem single (change : Change h h') : Changes h h' := Relation.ReflTransGen.single change

theorem trans (first : Changes h h') (second : Changes h' h'') : Changes h h'' :=
  Relation.ReflTransGen.trans first second

theorem tail (first : Changes h h') (change : Change h' h'') : Changes h h'' :=
  Relation.ReflTransGen.tail first change

theorem aside (brokers : h'.brokers = h.brokers) (consumers : h'.consumers = h.consumers)
    (deliveries : h'.deliveries = h.deliveries) : Changes h h' :=
  single (.aside brokers consumers deliveries)

/-- Steps that are changes each add up to changes. -/
theorem foldl {α : Type} {f : Hub L → α → Hub L} (step : ∀ h a, Changes h (f h a)) (l : List α)
    (h : Hub L) : Changes h (l.foldl f h) := by
  induction l generalizing h with
  | nil => exact refl h
  | cons a l ih => exact (step h a).trans (ih (f h a))

/-- What every change keeps, changes keep. -/
theorem keep {P : Hub L → Prop} (kept : ∀ {h h'}, Change h h' → P h → P h')
    (changes : Changes h h') (holds : P h) : P h' := by
  induction changes with
  | refl => exact holds
  | tail _ change ih => exact kept change ih

end Changes

/-- New deliveries come on top of those under way. -/
theorem Change.deliveries (change : Change h h') : h.deliveries <:+ h'.deliveries := by
  cases change with
  | aside _ _ deliveries => exact deliveries ▸ List.suffix_refl _
  | publish => exact List.suffix_cons ..
  | _ => exact List.suffix_refl _

theorem Changes.deliveries (changes : Changes h h') : h.deliveries <:+ h'.deliveries := by
  induction changes with
  | refl => exact List.suffix_refl _
  | tail _ change ih => exact ih.trans change.deliveries

section Requests

theorem onLink_changes {l : Link} {f : Broker (Endpoint L) → Except Error (Broker (Endpoint L))}
    (done : h.onLink l f = .ok h')
    (thins : ∀ b x, f (h.broker b) = .ok x → (h.broker b).Thins x) : Changes h h' := by
  obtain ⟨b, x, -, changed, rfl⟩ := onLink_ok done
  exact .single (.thin (thins b x changed))

theorem onBroker_changes {b : BrokerId}
    {f : Broker (Endpoint L) → Except Error (Broker (Endpoint L))} (done : h.onBroker b f = .ok h')
    (thins : ∀ x, f (h.broker b) = .ok x → (h.broker b).Thins x) : Changes h h' := by
  obtain ⟨x, changed, rfl⟩ := ok_of_map done
  exact .single (.thin (thins x changed))

theorem withdraw_changes (l : Link) (id : String) (h : Hub L) (d : Destination) :
    Changes h (withdraw l id h d) := by
  unfold withdraw
  split
  · rename_i done
    exact onLink_changes done fun _ _ => Broker.unregister_thins
  · exact .refl h

theorem closeConsumer_changes (h : Hub L) (k : ConsumerId) : Changes h (h.closeConsumer k) := by
  cases opened : (h.consumer k).closed with
  | true =>
    rw [closeConsumer_of_closed opened]
    exact .refl h
  | false =>
    rw [closeConsumer_of_open opened]
    refine (Changes.foldl (withdraw_changes _ _) (h.consumer k).attached h).tail (.setConsumer ?_)
    obtain ⟨brokers, same⟩ :=
      (withdraw_all_leaves h (h.linkOf k) (h.consumer k).id (h.consumer k).attached).rest
    rw [same]
    exact ⟨rfl, fun _ => rfl, fun _ _ => ⟨rfl, rfl, rfl⟩⟩

theorem reap_changes (h : Hub L) (k : ConsumerId) : Changes h (h.reap k) := by
  unfold reap
  split
  · exact .refl h
  · exact closeConsumer_changes h k

theorem dropConsumer_changes (h : Hub L) (k : ConsumerId) : Changes h (h.dropConsumer k) := by
  have dropped : Changes h (h.setConsumer k { h.consumer k with held := false }) :=
    .single (.setConsumer ⟨rfl, id, id⟩)
  exact dropped.trans (reap_changes _ k)

theorem shutdownSession_changes (h : Hub L) (s : SessionId) : Changes h (h.shutdownSession s) := by
  cases opened : (h.session s).isOpen with
  | false =>
    rw [shutdownSession_of_shut opened]
    exact .refl h
  | true =>
    rw [shutdownSession_of_open opened]
    have marked : Changes h (h.markShut s) := .aside rfl rfl rfl
    refine marked.trans (Changes.foldl ?_ _ _)
    intro h k
    unfold closeIn
    split
    · exact closeConsumer_changes h k
    · exact .refl h

theorem emptied_changes (h : Hub L) (c : ConnectionId) : Changes h (h.emptied c) := by
  have marked : Changes h (h.setConnection c { h.connection c with state := .closed }) :=
    .aside rfl rfl rfl
  refine (marked.trans (Changes.foldl ?_ _ _)).tail (.aside rfl rfl rfl)
  intro h s
  unfold shutIn
  split
  · exact shutdownSession_changes h s
  · exact .refl h

theorem closeConnection_changes (h : Hub L) (c : ConnectionId) :
    Changes h (h.closeConnection c).2 := by
  by_cases closed : (h.connection c).state = .closed
  · rw [closeConnection_of_closed closed]
    exact .refl h
  rcases closeConnection_of_open closed with ⟨h', done, same⟩ | ⟨e, -, same⟩
  · rw [same]
    refine (emptied_changes h c).trans (onLink_changes done ?_)
    intro b x released
    rw [← Except.ok.inj released]
    exact Broker.releaseConnection_thins _ _
  · rw [same]
    exact emptied_changes h c

theorem getOrCreate_changes (h : Hub L) (d : DirectoryId) (name : String) :
    Changes h (h.getOrCreate d name).2 := by
  unfold getOrCreate
  split
  · exact .refl h
  · exact (Changes.single (.addBroker name)).tail (.aside rfl rfl rfl)

theorem setClientId_changes {c : ConnectionId} {id : String} (done : h.setClientId c id = .ok h') :
    Changes h h' := by
  obtain ⟨-, -, b, x, -, taken, rfl⟩ := setClientId_ok done
  have claimed : Changes h (h.setBroker b x) := .single (.thin (Broker.claim_thins taken))
  exact claimed.tail (.aside rfl rfl rfl)

theorem connectAs_changes (f : Factory) (h : Hub L) (username : Option String) :
    Changes h (f.connectAs h username).2 := by
  refine connectAs_keeps (.refl h) ?_ (fun opened done => opened.trans (setClientId_changes done))
    (fun c opened => opened.trans (closeConnection_changes _ c))
    (fun c opened => opened.tail (.aside rfl rfl rfl))
  intro d name
  exact (getOrCreate_changes h d name).tail (.aside rfl rfl rfl)

theorem attach_changes {k : ConsumerId} {d : Destination} (opened : (h.consumer k).closed = false)
    (done : h.attach k d = .ok h') : Changes h h' := by
  rcases attach_ok done with ⟨-, rfl⟩ | ⟨-, b, x, -, taken, rfl⟩
  · exact .refl h'
  · have enrolled : Changes h (h.setBroker b x) :=
      .single (.enrol (consumer_lt_of_open opened) taken)
    exact enrolled.tail (.setConsumer (.of_open rfl opened opened))

theorem closed_of_attach {k : ConsumerId} {d : Destination} (done : h.attach k d = .ok h')
    (j : ConsumerId) : (h'.consumer j).closed = (h.consumer j).closed :=
  (attach_steady done).closed j

theorem pop_changes {k : ConsumerId} (opened : (h.consumer k).closed = false) (d : Destination) :
    Changes h (h.pop k d).2 := by
  unfold pop
  dsimp only
  split
  · exact .refl h
  · exact .single (.setConsumer (.of_open rfl opened opened))

theorem createConsumer_changes {s : SessionId} {destination : Option Destination} {k : ConsumerId}
    (done : h.createConsumer s destination = .ok (k, h')) : Changes h h' := by
  obtain ⟨_, -, done⟩ := ok_of_bind done
  have minted : Changes h h.mint.2 := .aside rfl rfl rfl
  have added := minted.tail (.addConsumer
    (c := { id := "consumer-" ++ uniqueName h.minted, session := s, destination }) rfl)
  cases destination with
  | none =>
    cases done
    exact added
  | some d =>
    obtain ⟨h₁, attached, done⟩ := ok_of_bind done
    cases done
    refine added.trans (attach_changes ?_ attached)
    exact congrArg Consumer.closed ((consumer_addConsumer h.mint.2 ..).trans (if_pos rfl))

theorem setListener_changes {k : ConsumerId} {listener : Option L}
    (done : h.setListener k listener = .ok h') : Changes h h' := by
  obtain ⟨_, checked, done⟩ := ok_of_bind done
  cases done
  have opened := consumer_open_of_ensure checked
  exact .single (.setConsumer (.of_open rfl opened opened))

theorem receive_changes {k : ConsumerId} {m : Option Message} (done : h.receive k = .ok (m, h')) :
    Changes h h' := by
  obtain ⟨_, checked, done⟩ := ok_of_bind done
  split at done
  · cases done
  · rename_i d _
    have popped := pop_changes (consumer_open_of_ensure checked) d
    rwa [Except.ok.inj done] at popped

theorem receiveFrom_changes {k : ConsumerId} {d : Destination} {m : Option Message}
    (done : h.receiveFrom k d = .ok (m, h')) : Changes h h' := by
  obtain ⟨_, checked, done⟩ := ok_of_bind done
  have opened := consumer_open_of_ensure checked
  split at done
  · cases done
  · obtain ⟨h₁, attached, done⟩ := ok_of_bind done
    have popped := pop_changes ((closed_of_attach attached k).trans opened) d
    rw [Except.ok.inj done] at popped
    exact (attach_changes opened attached).trans popped

theorem publish_changes {b : BrokerId} {d : Destination} {m : Message} {sender : Option ProducerId}
    {n : Nat} (done : h.publish b d m sender = .ok (n, h')) : Changes h h' := by
  obtain ⟨endpoints, snapshot, done⟩ := ok_of_bind done
  cases done
  exact .single (.publish m sender snapshot)

theorem send_changes {p : ProducerId} {given : Option Destination} {m m' : Message}
    {request : Option QualityRequest} {now : Int64}
    (done : h.send p given m request now = .ok (m', h')) : Changes h h' := by
  have minted : Changes h h.mint.2 := .aside rfl rfl rfl
  obtain ⟨b, target, copy, n, published⟩ := send_ok done
  exact minted.trans (publish_changes published)

theorem createDestinationOn_changes {b : BrokerId} {name : String} {kind : DestinationKind}
    {d : Destination} (done : h.createDestinationOn b name kind = .ok (d, h')) : Changes h h' := by
  obtain ⟨⟨d', x⟩, created, done⟩ := ok_of_bind done
  cases done
  exact .single (.thin (Broker.createDestination_thins created))

theorem createTemporaryOn_changes (h : Hub L) (b : BrokerId) (kind : DestinationKind)
    (owner : String) : Changes h (h.createTemporaryOn b kind owner).2 := by
  have minted : Changes h h.mint.2 := .aside rfl rfl rfl
  exact minted.tail (.thin (Broker.createTemporary_thins _ (uniqueName h.minted) kind owner))

theorem ask_changes (h : Hub L) (b : BrokerId) (r : BrokerRequest L) :
    Changes h (h.ask b r).2 := by
  cases r with
  | createDestination name kind =>
    exact adopt_of (.refl h) fun _ _ done => createDestinationOn_changes done
  | createTemporary kind owner => exact createTemporaryOn_changes h b kind owner
  | deleteTemporary d owner =>
    refine adoptHub_of (.refl h) fun _ done => onBroker_changes done ?_
    exact fun _ => Broker.deleteTemporary_thins
  | register d id owner l =>
    refine adoptHub_of (.refl h) fun h' done => ?_
    obtain ⟨x, taken, rfl⟩ := ok_of_map done
    exact .single (.listen taken)
  | unregister d id =>
    exact adoptHub_of (.refl h) fun _ done => onBroker_changes done fun _ => Broker.unregister_thins
  | send d m => exact adopt_of (.refl h) fun _ _ done => publish_changes done
  | claim id owner =>
    exact adoptHub_of (.refl h) fun _ done => onBroker_changes done fun _ => Broker.claim_thins
  | release id owner => exact .single (.thin (Broker.release_thins _ id owner))
  | releaseConnection owner => exact .single (.thin (Broker.releaseConnection_thins _ owner))

theorem startConnection_changes {c : ConnectionId} (done : h.startConnection c = .ok h') :
    Changes h h' := by
  obtain ⟨_, -, done⟩ := ok_of_bind done
  cases done
  exact .aside rfl rfl rfl

theorem stopConnection_changes {c : ConnectionId} (done : h.stopConnection c = .ok h') :
    Changes h h' := by
  obtain ⟨_, -, done⟩ := ok_of_bind done
  cases done
  exact .aside rfl rfl rfl

theorem createSession_changes {c : ConnectionId} {transacted : Bool} {mode : AcknowledgeMode}
    {s : SessionId} (done : h.createSession c transacted mode = .ok (s, h')) : Changes h h' := by
  obtain ⟨-, x, -, rfl⟩ := createSession_ok done
  exact .aside rfl rfl rfl

theorem createProducer_changes {s : SessionId} {destination : Option Destination} {p : ProducerId}
    (done : h.createProducer s destination = .ok (p, h')) : Changes h h' := by
  obtain ⟨_, -, done⟩ := ok_of_bind done
  cases done
  exact .aside rfl rfl rfl

theorem adjustProducer_changes {p : ProducerId} {f : Producer → Except Error Producer}
    (done : h.adjustProducer p f = .ok h') : Changes h h' := by
  obtain ⟨_, -, done⟩ := ok_of_bind done
  obtain ⟨x, -, done⟩ := ok_of_bind done
  cases done
  exact .aside rfl rfl rfl

/-- Every request of a client comes down to changes. -/
theorem perform_changes (h : Hub L) (r : Request L) : Changes h (h.perform r).2 := by
  cases r with
  | addRegistry | addDirectory | registerProvider | removeBroker | dropConnection | dropSession
  | closeProducer | dropProducer => exact .aside rfl rfl rfl
  | openBroker d name => exact getOrCreate_changes h d name
  | connect f username => exact connectAs_changes f h username
  | start c => exact adoptHub_of (.refl h) fun _ => startConnection_changes
  | stop c => exact adoptHub_of (.refl h) fun _ => stopConnection_changes
  | setClientId c id => exact adoptHub_of (.refl h) fun _ => setClientId_changes
  | closeConnection c => exact closeConnection_changes h c
  | createSession c transacted mode => exact adopt_of (.refl h) fun _ _ => createSession_changes
  | createSessionFrom c settings =>
    refine adopt_of (.refl h) fun _ _ done => ?_
    obtain ⟨mode, done⟩ := createSessionFrom_ok done
    exact createSession_changes done
  | closeSession s =>
    refine adoptHub_of (.refl h) fun _ done => ?_
    unfold closeSession at done
    split at done
    · cases done
      exact shutdownSession_changes h s
    · cases done
  | createDestination s name kind =>
    refine adopt_of (.refl h) fun _ _ done => ?_
    obtain ⟨_, -, done⟩ := ok_of_bind done
    obtain ⟨b, -, done⟩ := ok_of_bind done
    exact createDestinationOn_changes done
  | createTemporary s kind =>
    refine adopt_of (.refl h) fun _ _ done => ?_
    obtain ⟨_, -, done⟩ := ok_of_bind done
    obtain ⟨b, -, done⟩ := ok_of_bind done
    cases done
    exact createTemporaryOn_changes h b kind _
  | deleteTemporary s d =>
    refine adoptHub_of (.refl h) fun _ done => ?_
    obtain ⟨_, -, done⟩ := ok_of_bind done
    exact onLink_changes done fun _ _ => Broker.deleteTemporary_thins
  | createProducer s destination => exact adopt_of (.refl h) fun _ _ => createProducer_changes
  | setDeliveryMode | setPriority | setTimeToLive | configure | setDisableMessageId
  | setDisableTimestamp => exact adoptHub_of (.refl h) fun _ => adjustProducer_changes
  | send p given m q now => exact adopt_of (.refl h) fun _ _ => send_changes
  | createConsumer s destination => exact adopt_of (.refl h) fun _ _ => createConsumer_changes
  | setListener k listener => exact adoptHub_of (.refl h) fun _ => setListener_changes
  | receive k => exact adopt_of (.refl h) fun _ _ => receive_changes
  | receiveFrom k d => exact adopt_of (.refl h) fun _ _ => receiveFrom_changes
  | closeConsumer k => exact closeConsumer_changes h k
  | dropConsumer k => exact dropConsumer_changes h k

/-- Only a turn does more than requests do. -/
theorem step_changes (h : Hub L) {move : Move L} (request : move ≠ .event .turn) :
    Changes h (h.step move) := by
  cases move with
  | event e =>
    cases e with
    | request r => exact perform_changes h r
    | turn => exact absurd rfl request
  | addBroker name => exact .single (.addBroker name)
  | ask b r => exact ask_changes h b r

end Requests

end Hub

end Courier
