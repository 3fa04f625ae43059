import Courier.Proofs.Hub.Growth
import Courier.Proofs.Hub.Opening
import Courier.Proofs.Hub.Shutdown

/-!
# What guards a consumer

An open consumer is in an open session, and it can be reached. Every request keeps that, and so does
each turn of a delivery: most leave open what is open, and those that close something close all that
depends on it.
-/

namespace Courier.Hub

set_option autoImplicit false

variable {L : Type} {h h' : Hub L} {past : List (ConsumerId × Destination)}

/-- Every open consumer can be reached. -/
def Tended (h : Hub L) : Prop := ∀ k, (h.consumer k).closed = false → h.consumerLive k = true

/-- Whoever is open has an open session and can be reached. -/
structure Guarded (h : Hub L) : Prop where
  sealed : Sealed h
  tended : Tended h

/-- Nothing was opened, closed or let go. -/
structure Steady (h h' : Hub L) : Prop where
  isOpen : ∀ s, (h'.session s).isOpen = (h.session s).isOpen
  session : ∀ k, (h'.consumer k).session = (h.consumer k).session
  closed : ∀ k, (h'.consumer k).closed = (h.consumer k).closed
  held : ∀ k, (h'.consumer k).held = (h.consumer k).held
  serving : ∀ k, h.deliveries.any (·.serving == some k) = true →
    h'.deliveries.any (·.serving == some k) = true

/-- Nothing happened that a registration depends on. -/
structure Idle (h h' : Hub L) : Prop where
  frame : Frame h h'
  steady : Steady h h'

theorem Steady.of_eq (sessions : h'.sessions = h.sessions) (consumers : h'.consumers = h.consumers)
    (serving : ∀ k, h.deliveries.any (·.serving == some k) = true →
      h'.deliveries.any (·.serving == some k) = true) : Steady h h' where
  isOpen s := by simp only [Hub.session, sessions]
  session k := by simp only [Hub.consumer, consumers]
  closed k := by simp only [Hub.consumer, consumers]
  held k := by simp only [Hub.consumer, consumers]
  serving := serving

theorem Idle.of_eq (brokers : h'.brokers = h.brokers) (directories : h'.directories = h.directories)
    (connections : h'.connections = h.connections) (sessions : h'.sessions = h.sessions)
    (consumers : h'.consumers = h.consumers) (minted : h.minted ≤ h'.minted)
    (serving : ∀ k, h.deliveries.any (·.serving == some k) = true →
      h'.deliveries.any (·.serving == some k) = true) : Idle h h' where
  frame := .of_eq brokers directories connections sessions consumers minted
  steady := .of_eq sessions consumers serving

theorem live_of_serving {k : ConsumerId} (held : (h'.consumer k).held = (h.consumer k).held)
    (serving : h.deliveries.any (·.serving == some k) = true →
      h'.deliveries.any (·.serving == some k) = true)
    (live : h.consumerLive k = true) : h'.consumerLive k = true := by
  rw [consumerLive, Bool.or_eq_true] at live ⊢
  rw [held]
  exact live.imp_right serving

theorem Sealed.steady (sealed : Sealed h) (steady : Steady h h') : Sealed h' := by
  intro k opened
  rw [steady.closed] at opened
  rw [steady.session, steady.isOpen]
  exact sealed k opened

theorem Tended.steady (tended : Tended h) (steady : Steady h h') : Tended h' := by
  intro k opened
  rw [steady.closed] at opened
  exact live_of_serving (steady.held k) (steady.serving k) (tended k opened)

theorem Tended.shrinks (tended : Tended h) (shrinks : Shrinks h h') : Tended h' := by
  intro k opened
  refine live_of_serving (shrinks.held k) ?_ (tended k (shrinks.closed k opened))
  rw [shrinks.deliveries]
  exact id

/-! Requests that leave registrations alone. -/

theorem registries_idle (registries : List (Table String DirectoryId)) :
    Idle h { h with registries } :=
  .of_eq rfl rfl rfl rfl rfl (Nat.le_refl _) fun _ => id

theorem producers_idle (producers : List Producer) : Idle h { h with producers } :=
  .of_eq rfl rfl rfl rfl rfl (Nat.le_refl _) fun _ => id

theorem mint_idle (h : Hub L) : Idle h h.mint.2 :=
  .of_eq rfl rfl rfl rfl rfl (Nat.le_succ _) fun _ => id

theorem setConnection_idle {c : ConnectionId} {x : Connection}
    (link : x.link = (h.connection c).link) : Idle h (h.setConnection c x) :=
  ⟨.setConnection link, .of_eq rfl rfl fun _ => id⟩

theorem dropConnection_idle (h : Hub L) (c : ConnectionId) : Idle h (h.dropConnection c) :=
  setConnection_idle rfl

theorem startConnection_idle {c : ConnectionId} (done : h.startConnection c = .ok h') :
    Idle h h' := by
  obtain ⟨_, -, done⟩ := ok_of_bind done
  cases done
  exact setConnection_idle rfl

theorem stopConnection_idle {c : ConnectionId} (done : h.stopConnection c = .ok h') :
    Idle h h' := by
  obtain ⟨_, -, done⟩ := ok_of_bind done
  cases done
  exact setConnection_idle rfl

theorem setClientId_idle {c : ConnectionId} {id : String} (done : h.setClientId c id = .ok h') :
    ∃ h₁, Idle h h₁ ∧ Idle h₁ h' := by
  obtain ⟨-, -, b, x, -, taken, rfl⟩ := setClientId_ok done
  obtain ⟨destinations, names⟩ := Broker.claim_ok taken
  have frame : Frame h (h.setBroker b x) := .setBroker destinations names
  exact ⟨_, ⟨frame, .of_eq rfl rfl fun _ served => served⟩, setConnection_idle rfl⟩

theorem dropSession_idle (h : Hub L) (s : SessionId) : Idle h (h.dropSession s) where
  frame := .setSession rfl
  steady := {
    isOpen := view_getD_set Session.isOpen rfl
    session := fun _ => rfl
    closed := fun _ => rfl
    held := fun _ => rfl
    serving := fun _ => id }

theorem adjustProducer_idle {p : ProducerId} {f : Producer → Except Error Producer}
    (done : h.adjustProducer p f = .ok h') : Idle h h' := by
  obtain ⟨_, -, done⟩ := ok_of_bind done
  obtain ⟨x, -, done⟩ := ok_of_bind done
  cases done
  exact producers_idle _

theorem createProducer_idle {s : SessionId} {destination : Option Destination} {p : ProducerId}
    (done : h.createProducer s destination = .ok (p, h')) : Idle h h' := by
  obtain ⟨_, -, done⟩ := ok_of_bind done
  cases done
  exact producers_idle _

/-- Whoever is at work is still at work when another delivery starts. -/
theorem serving_cons (d : Delivery L) (deliveries : List (Delivery L)) (k : ConsumerId)
    (served : deliveries.any (·.serving == some k) = true) :
    (d :: deliveries).any (·.serving == some k) = true := by
  rw [List.any_cons, Bool.or_eq_true]
  exact .inr served

theorem publish_steady {b : BrokerId} {d : Destination} {m : Message}
    {sender : Option ProducerId} {n : Nat} (done : h.publish b d m sender = .ok (n, h')) :
    Steady h h' := by
  obtain ⟨endpoints, -, done⟩ := ok_of_bind done
  cases done
  exact .of_eq rfl rfl (serving_cons _ _)

/-- A send that succeeds has published something on some broker. -/
theorem send_ok {p : ProducerId} {given : Option Destination} {m m' : Message}
    {request : Option QualityRequest} {now : Int64}
    (done : h.send p given m request now = .ok (m', h')) :
    ∃ b target copy n, h.mint.2.publish b target copy (some p) = .ok (n, h') := by
  obtain ⟨_, -, done⟩ := ok_of_bind done
  obtain ⟨target, -, done⟩ := ok_of_bind done
  rcases request with _ | r
  all_goals
    obtain ⟨q, -, done⟩ := ok_of_bind done
    obtain ⟨header, -, done⟩ := ok_of_bind done
    obtain ⟨frozen, -, done⟩ := ok_of_bind done
    obtain ⟨⟨n, h₁⟩, published, done⟩ := ok_of_bind done
    obtain ⟨b, -, published⟩ := ok_of_bind published
    cases done
    exact ⟨b, target, _, n, published⟩

theorem send_idle {p : ProducerId} {given : Option Destination} {m m' : Message}
    {request : Option QualityRequest} {now : Int64}
    (done : h.send p given m request now = .ok (m', h')) : Idle h h' := by
  obtain ⟨b, target, copy, n, published⟩ := send_ok done
  obtain ⟨endpoints, -, published⟩ := ok_of_bind published
  cases published
  exact .of_eq rfl rfl rfl rfl rfl (Nat.le_succ _) (serving_cons _ _)

/-- A consumer may get another listener or mailbox. -/
theorem setConsumer_idle {k : ConsumerId} {x : Consumer L}
    (id : x.id = (h.consumer k).id) (session : x.session = (h.consumer k).session)
    (closed : x.closed = (h.consumer k).closed) (held : x.held = (h.consumer k).held)
    (attached : x.attached = (h.consumer k).attached) : Idle h (h.setConsumer k x) where
  frame := .setConsumer id session closed attached
  steady := {
    isOpen := fun _ => rfl
    session := view_getD_set Consumer.session session
    closed := view_getD_set Consumer.closed closed
    held := view_getD_set Consumer.held held
    serving := fun _ served => served }

theorem setListener_idle {k : ConsumerId} {listener : Option L}
    (done : h.setListener k listener = .ok h') : Idle h h' := by
  obtain ⟨_, -, done⟩ := ok_of_bind done
  cases done
  exact setConsumer_idle rfl rfl rfl rfl rfl

theorem pop_idle (h : Hub L) (k : ConsumerId) (d : Destination) : Idle h (h.pop k d).2 := by
  unfold pop
  dsimp only
  split
  · exact .of_eq rfl rfl rfl rfl rfl (Nat.le_refl _) fun _ => id
  · exact setConsumer_idle rfl rfl rfl rfl rfl

theorem receive_idle {k : ConsumerId} {m : Option Message}
    (done : h.receive k = .ok (m, h')) : Idle h h' := by
  obtain ⟨_, -, done⟩ := ok_of_bind done
  split at done
  · cases done
  · rename_i d _
    have idle := pop_idle h k d
    rw [Except.ok.inj done] at idle
    exact idle

/-- Attaching changes nothing about what is open and in reach. -/
theorem attach_steady {k : ConsumerId} {d : Destination} (done : h.attach k d = .ok h') :
    Steady h h' := by
  rcases attach_ok done with ⟨-, rfl⟩ | ⟨-, b, x, -, -, rfl⟩
  · exact .of_eq rfl rfl fun _ => id
  · exact {
      isOpen := fun _ => rfl
      session := view_getD_set Consumer.session rfl
      closed := view_getD_set Consumer.closed rfl
      held := view_getD_set Consumer.held rfl
      serving := fun _ => id }

/-- The hub when the innermost delivery goes on: the listener that was at work is done. -/
def resumed (h : Hub L) (d : Delivery L) (outer : List (Delivery L)) : Hub L :=
  let h := { h with deliveries := { d with serving := none } :: outer }
  match d.serving with
  | some k => h.reap k
  | none => h

theorem advance_of_nil (none : h.deliveries = []) : h.advance = .none := by
  rw [advance, none]

theorem advance_of_done {d : Delivery L} {outer : List (Delivery L)}
    (deliveries : h.deliveries = d :: outer) (done : d.waiting = []) :
    h.advance = some (.finished, { h.resumed d outer with deliveries := outer }) := by
  cases served : d.serving <;> simp only [advance, deliveries, done, resumed, served]

theorem advance_of_waiting {d : Delivery L} {outer : List (Delivery L)} {e : Endpoint L}
    {waiting : List (Endpoint L)} (deliveries : h.deliveries = d :: outer)
    (more : d.waiting = e :: waiting) :
    h.advance = some ((h.resumed d outer).serve { d with serving := none, waiting } outer e) := by
  cases served : d.serving <;> simp only [advance, deliveries, more, resumed, served]

theorem deliveries_resumed (h : Hub L) (d : Delivery L) (outer : List (Delivery L)) :
    (h.resumed d outer).deliveries = { d with serving := none } :: outer := by
  unfold resumed
  dsimp only
  split
  · unfold reap
    split
    · rfl
    · exact (closeConsumer_shrinks _ _).deliveries
  · rfl

theorem session_open_of_ensure {s : SessionId} (checked : h.ensureSessionOpen s = .ok ()) :
    (h.session s).isOpen = true := by
  by_contra shut
  rw [ensureSessionOpen, if_neg shut] at checked
  cases checked

theorem consumer_open_of_ensure {k : ConsumerId} (checked : h.ensureConsumerOpen k = .ok ()) :
    (h.consumer k).closed = false := by
  by_contra closed
  rw [ensureConsumerOpen, if_pos (by simpa using closed)] at checked
  cases checked

/-- A consumer that is let go closes at once, unless its listener is at work. -/
theorem closed_of_dropConsumer (h : Hub L) (k : ConsumerId) :
    ((h.dropConsumer k).consumer k).closed = true ∨ ∃ d ∈ h.deliveries, d.serving = some k := by
  rw [dropConsumer, reap]
  split
  · rename_i live
    have dropped :
        ((h.setConsumer k { h.consumer k with held := false }).consumer k).held = false := by
      rw [consumer_setConsumer]
      split
      · rfl
      · rename_i unmade
        rw [consumer_of_le (by simpa using unmade)]
    rw [consumerLive, dropped, Bool.false_or, List.any_eq_true] at live
    obtain ⟨d, mem, serving⟩ := live
    exact .inr ⟨d, mem, by simpa using serving⟩
  · exact .inl (closeConsumer_closed _ k)

/-! Changes to brokers alone. -/

theorem getOrCreate_steady (h : Hub L) (d : DirectoryId) (name : String) :
    Steady h (h.getOrCreate d name).2 := by
  unfold getOrCreate
  split <;> exact .of_eq rfl rfl fun _ => id

theorem onLink_steady {l : Link} {f : Broker (Endpoint L) → Except Error (Broker (Endpoint L))}
    (done : h.onLink l f = .ok h') : Steady h h' := by
  obtain ⟨b, x, -, -, rfl⟩ := onLink_ok done
  exact .of_eq rfl rfl fun _ => id

theorem createDestinationOn_steady {b : BrokerId} {name : String} {kind : DestinationKind}
    {d : Destination} (done : h.createDestinationOn b name kind = .ok (d, h')) : Steady h h' := by
  obtain ⟨⟨d', x⟩, -, done⟩ := ok_of_bind done
  cases done
  exact .of_eq rfl rfl fun _ => id

theorem createTemporaryOn_steady (h : Hub L) (b : BrokerId) (kind : DestinationKind)
    (owner : String) : Steady h (h.createTemporaryOn b kind owner).2 :=
  .of_eq rfl rfl fun _ => id

namespace Guarded

theorem steady (guarded : Guarded h) (steady : Steady h h') : Guarded h' :=
  ⟨guarded.sealed.steady steady, guarded.tended.steady steady⟩

theorem initial : Guarded ({} : Hub L) where
  sealed := by intro k opened; cases opened
  tended := by intro k opened; cases opened

/-! What closes something. -/

theorem closeConsumer (guarded : Guarded h) (k : ConsumerId) : Guarded (h.closeConsumer k) where
  sealed := guarded.sealed.closeConsumer k
  tended := guarded.tended.shrinks (closeConsumer_shrinks h k)

theorem closeSession (guarded : Guarded h) {s : SessionId} (done : h.closeSession s = .ok h') :
    Guarded h' := by
  unfold Hub.closeSession at done
  split at done
  · cases done
    exact {
      sealed := guarded.sealed.shutdownSession s
      tended := guarded.tended.shrinks (shutdownSession_shuts guarded.sealed s).toShrinks }
  · cases done

theorem closeConnection (guarded : Guarded h) (c : ConnectionId) :
    Guarded (h.closeConnection c).2 where
  sealed := guarded.sealed.closeConnection c
  tended := guarded.tended.shrinks (closeConnection_shrinks guarded.sealed c)

theorem closed_of_closeSession (guarded : Guarded h) {s : SessionId}
    (done : h.closeSession s = .ok h') {k : ConsumerId} (here : (h.consumer k).session = s) :
    (h'.consumer k).closed = true := by
  unfold Hub.closeSession at done
  split at done
  · cases done
    have shuts := shutdownSession_shuts guarded.sealed s
    exact shuts.emptied k ((shuts.session k).trans here)
  · cases done

theorem closed_of_closeConnection (guarded : Guarded h) {c : ConnectionId}
    (opened : (h.connection c).state ≠ .closed) {k : ConsumerId}
    (here : (h.session (h.consumer k).session).connection = c) :
    ((h.closeConnection c).2.consumer k).closed = true := by
  by_contra open_k
  have open_s := (guarded.sealed.closeConnection c) k (by simpa using open_k)
  rw [(closeConnection_shrinks guarded.sealed c).session,
    closeConnection_shut guarded.sealed opened here] at open_s
  cases open_s

/-- A consumer out of reach closes. -/
theorem reap {k : ConsumerId} (sealed : Sealed h)
    (tended : ∀ j, j ≠ k → (h.consumer j).closed = false → h.consumerLive j = true) :
    Guarded (h.reap k) := by
  unfold Hub.reap
  split
  · rename_i live
    refine ⟨sealed, ?_⟩
    intro j opened
    by_cases same : j = k
    · rwa [same]
    · exact tended j same opened
  · refine ⟨sealed.closeConsumer k, ?_⟩
    have shrinks := closeConsumer_shrinks h k
    intro j opened
    have other : j ≠ k := by
      rintro rfl
      rw [closeConsumer_closed] at opened
      cases opened
    refine live_of_serving (shrinks.held j) ?_ (tended j other (shrinks.closed j opened))
    rw [shrinks.deliveries]
    exact id

theorem dropConsumer (guarded : Guarded h) (k : ConsumerId) : Guarded (h.dropConsumer k) := by
  have frame : Frame h (h.setConsumer k { h.consumer k with held := false }) :=
    .setConsumer rfl rfl rfl rfl
  apply reap
  · intro j opened
    rw [frame.closed] at opened
    rw [frame.session]
    exact guarded.sealed j opened
  · intro j other opened
    rw [frame.closed] at opened
    refine live_of_serving (h := h) ?_ id (guarded.tended j opened)
    rw [consumer_setConsumer, if_neg fun here => other here.1]

/-! What makes something. -/

theorem setClientId (guarded : Guarded h) {c : ConnectionId} {id : String}
    (done : h.setClientId c id = .ok h') : Guarded h' := by
  obtain ⟨h₁, first, second⟩ := setClientId_idle done
  exact (guarded.steady first.steady).steady second.steady

theorem connectAs (guarded : Guarded h) (f : Factory) (username : Option String) :
    Guarded (f.connectAs h username).2 := by
  refine connectAs_keeps guarded ?_ (fun guarded => guarded.setClientId)
    (fun c guarded => guarded.closeConnection c)
    (fun c guarded => guarded.steady (dropConnection_idle _ c).steady)
  intro d name
  exact (guarded.steady (getOrCreate_steady h d name)).steady (.of_eq rfl rfl fun _ => id)

theorem addSession (guarded : Guarded h) (x : Session) :
    Guarded { h with sessions := h.sessions ++ [x] } := by
  refine ⟨?_, guarded.tended⟩
  intro k opened
  have earlier := session_lt_of_open (guarded.sealed k opened)
  rw [session_addSession]
  exact (congrArg Session.isOpen (if_neg (Nat.ne_of_lt earlier))).trans (guarded.sealed k opened)

theorem createSession (guarded : Guarded h) {c : ConnectionId} {transacted : Bool}
    {mode : AcknowledgeMode} {s : SessionId}
    (done : h.createSession c transacted mode = .ok (s, h')) : Guarded h' := by
  obtain ⟨_, -, done⟩ := ok_of_bind done
  obtain ⟨mode, -, done⟩ := ok_of_bind done
  obtain ⟨b, -, done⟩ := ok_of_bind done
  cases done
  exact (guarded.steady (mint_idle h).steady).addSession
    { id := uniqueName h.minted, connection := c, transacted, mode }

/-- A new consumer, before it is attached to anything. -/
theorem addConsumer (guarded : Guarded h) {x : Consumer L} (held : x.held = true)
    (opened : (h.session x.session).isOpen = true) :
    Guarded { h with consumers := h.consumers ++ [x] } := by
  generalize grown : ({ h with consumers := h.consumers ++ [x] } : Hub L) = h'
  have consumer_eq : ∀ k, h'.consumer k = if k = h.consumers.length then x else h.consumer k := by
    intro k
    rw [← grown]
    exact consumer_addConsumer h x k
  constructor
  · intro k open_k
    rw [consumer_eq] at open_k ⊢
    subst grown
    split at open_k
    · rename_i last
      rw [if_pos last]
      exact opened
    · rename_i earlier
      rw [if_neg earlier]
      exact guarded.sealed k open_k
  · intro k open_k
    rw [consumerLive, consumer_eq]
    rw [consumer_eq] at open_k
    subst grown
    split at open_k
    · rename_i last
      rw [if_pos last, held]
      rfl
    · rename_i earlier
      rw [if_neg earlier]
      exact guarded.tended k open_k

theorem createConsumer (guarded : Guarded h) {s : SessionId} {destination : Option Destination}
    {k : ConsumerId} (done : h.createConsumer s destination = .ok (k, h')) : Guarded h' := by
  obtain ⟨_, checked, done⟩ := ok_of_bind done
  have opened := session_open_of_ensure checked
  have added := (guarded.steady (mint_idle h).steady).addConsumer
    (x := { id := "consumer-" ++ uniqueName h.minted, session := s, destination }) rfl opened
  cases destination with
  | none =>
    cases done
    exact added
  | some d =>
    obtain ⟨h₁, attached, done⟩ := ok_of_bind done
    cases done
    exact added.steady (attach_steady attached)

theorem receiveFrom (guarded : Guarded h) {k : ConsumerId} {d : Destination}
    {m : Option Message} (done : h.receiveFrom k d = .ok (m, h')) : Guarded h' := by
  obtain ⟨_, -, done⟩ := ok_of_bind done
  split at done
  · cases done
  · obtain ⟨h₁, attached, done⟩ := ok_of_bind done
    have idle := pop_idle h₁ k d
    rw [Except.ok.inj done] at idle
    exact (guarded.steady (attach_steady attached)).steady idle.steady

/-! Turns. -/

theorem resumed (guarded : Guarded h) {d : Delivery L} {outer : List (Delivery L)}
    (deliveries : h.deliveries = d :: outer) : Guarded (h.resumed d outer) := by
  cases served : d.serving with
  | none =>
    rw [Hub.resumed, served]
    refine guarded.steady (.of_eq rfl rfl ?_)
    intro k
    rw [deliveries, List.any_cons, List.any_cons, served]
    exact id
  | some k =>
    have sealed : Sealed { h with deliveries := { d with serving := none } :: outer } :=
      guarded.sealed
    rw [Hub.resumed, served]
    apply reap sealed
    intro j other opened
    refine live_of_serving (h := h) rfl ?_ (guarded.tended j opened)
    have unserved : (some k == some j) = false := by
      simpa using fun same => other same.symm
    rw [deliveries, List.any_cons, List.any_cons, served, unserved]
    exact id

theorem serve (guarded : Guarded h) (d' : Delivery L) {d : Delivery L} {outer : List (Delivery L)}
    (deliveries : h.deliveries = d :: outer) (unserving : d.serving = none) (e : Endpoint L) :
    Guarded (h.serve d' outer e).2 := by
  have going : ∀ d' : Delivery L, Guarded { h with deliveries := d' :: outer } := by
    intro d'
    refine guarded.steady (.of_eq rfl rfl ?_)
    intro k served
    rw [deliveries, List.any_cons, unserving] at served
    exact serving_cons d' outer k served
  cases e with
  | listener l => exact going d'
  | consumer k source =>
    unfold Hub.serve
    dsimp only
    split
    · exact going d'
    · split
      · exact going _
      · refine (going d').steady (Idle.steady ?_)
        exact setConsumer_idle rfl rfl rfl rfl rfl

theorem advance (guarded : Guarded h) {t : Turn L} (done : h.advance = some (t, h')) :
    Guarded h' := by
  cases deliveries : h.deliveries with
  | nil =>
    rw [advance_of_nil deliveries] at done
    cases done
  | cons d outer =>
    have going := guarded.resumed deliveries
    have current := deliveries_resumed h d outer
    cases waiting : d.waiting with
    | nil =>
      rw [advance_of_done deliveries waiting] at done
      cases done
      refine going.steady (.of_eq rfl rfl ?_)
      intro k
      rw [current, List.any_cons]
      exact id
    | cons e rest =>
      rw [advance_of_waiting deliveries waiting] at done
      have served := going.serve { d with serving := none, waiting := rest } current rfl e
      rw [Option.some.inj done] at served
      exact served

end Guarded

end Courier.Hub
