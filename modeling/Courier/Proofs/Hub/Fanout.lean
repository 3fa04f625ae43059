import Courier.Proofs.Hub.Serving

/-!
# Fan-out

A send takes the registrations of the moment, and its delivery calls their endpoints one by one,
whatever is registered, unregistered or sent in the meantime. Listeners are notified when they are
called, and in a hub that can come about consumers are served.
-/

namespace Courier.Hub

set_option autoImplicit false

variable {L : Type} {h : Hub L}

def starting (h : Hub L) (m : Message) (endpoints : List (Endpoint L))
    (sender : Option ProducerId) : Hub L :=
  { h with deliveries := { message := m, waiting := endpoints, sender } :: h.deliveries }

theorem publish_of_not_interned {b : BrokerId} {d : Destination}
    (unknown : (h.broker b).interned d = false) (m : Message) (sender : Option ProducerId) :
    h.publish b d m sender = .error (.notInterned d (h.broker b).name) := by
  rw [publish, Broker.endpoints_of_not_interned unknown]
  rfl

theorem publish_of_interned {b : BrokerId} {d : Destination}
    (known : (h.broker b).interned d = true) (m : Message) (sender : Option ProducerId) :
    h.publish b d m sender = .ok (((h.broker b).registrations d).length,
      h.starting m (((h.broker b).registrations d).map (·.endpoint)) sender) := by
  rw [publish, Broker.endpoints_of_interned known]
  show Except.ok _ = Except.ok _
  rw [List.length_map]
  rfl

theorem publishVia_of_linked {l : Link} {b : BrokerId} {d : Destination}
    (reached : h.linked l = .ok b) (known : (h.broker b).interned d = true) (m : Message)
    (sender : Option ProducerId) :
    h.publishVia l d m sender = .ok (((h.broker b).registrations d).length,
      h.starting m (((h.broker b).registrations d).map (·.endpoint)) sender) := by
  rw [publishVia, reached]
  exact publish_of_interned known m sender

theorem calls_of_starting {m : Message} {endpoints : List (Endpoint L)}
    {sender : Option ProducerId} {moves : List (Move L)}
    (completes : (h.starting m endpoints sender).Completes h.deliveries.length moves) :
    (h.starting m endpoints sender).calls h.deliveries.length moves = endpoints.map (·, m) ∧
      ((h.starting m endpoints sender).play moves).deliveries = h.deliveries :=
  calls_of_completes moves [] rfl completes

theorem completes_of_starting (h : Hub L) (m : Message) (endpoints : List (Endpoint L))
    (sender : Option ProducerId) :
    (h.starting m endpoints sender).Completes h.deliveries.length
      (List.replicate (endpoints.length + 1) (.event .turn)) :=
  completes_turns _ [{ message := m, waiting := endpoints, sender }] rfl (Nat.add_zero _)

/-- A send to a destination that is not known to the broker fails and changes nothing. Otherwise
it tells how many endpoints are registered there, and all it does to begin with is to start a
delivery. However that is carried to its end, with whatever requests in between, it has called each
of these endpoints once, in the order of their registration, with the message; the deliveries it
stands on are as they were. Left to itself it ends. No turn changes a broker, except that a consumer
closes that its own listener let go. A turn that calls a listener of the application notifies it,
and one that calls a consumer serves it, if the hub before the send can come about. As the hub is
any hub, this holds of sends that come in the middle of others. -/
theorem publish_fans_out (h : Hub L) (b : BrokerId) (d : Destination) (m : Message)
    (sender : Option ProducerId) :
    ((h.broker b).interned d = false →
      ∃ e, h.publish b d m sender = .error e ∧ e.kind = .invalidDestination ∧
        h.ask b (.send d m) = (.error e, h)) ∧
    ((h.broker b).interned d = true →
      ∃ started, h.publish b d m sender = .ok (((h.broker b).registrations d).length, started) ∧
        started = { h with deliveries := started.deliveries } ∧
        started.Completes h.deliveries.length
          (List.replicate (((h.broker b).registrations d).length + 1) (.event .turn)) ∧
        ∀ moves, started.Completes h.deliveries.length moves →
          started.calls h.deliveries.length moves =
              ((h.broker b).registrations d).map (fun r => (r.endpoint, m)) ∧
            (started.play moves).deliveries = h.deliveries ∧
            ∀ before after, moves = before ++ .event .turn :: after →
              (started.play before).TurnsAside ∧ (started.play before).Notifies ∧
                (h.Reachable → (started.play before).ServesNext)) := by
  constructor
  · intro unknown
    refine ⟨_, publish_of_not_interned unknown m sender, rfl, ?_⟩
    rw [ask, publish_of_not_interned unknown]
    rfl
  · intro known
    have sent := publish_of_interned known m sender
    refine ⟨_, sent, rfl, ?_, ?_⟩
    · have alone := completes_of_starting h m
        (((h.broker b).registrations d).map (·.endpoint)) sender
      rwa [List.length_map] at alone
    · intro moves completes
      obtain ⟨called, left⟩ := calls_of_starting completes
      refine ⟨?_, left, ?_⟩
      · rw [called, List.map_map]
        rfl
      · intro before after _
        refine ⟨brokers_turn _, notifies _, ?_⟩
        intro reachable
        exact reachable.servesNext (publish_changes sent) before

def sampleTopic : Destination := { name := "t", kind := .topic }

/-- A broker with three listeners on a topic. -/
def sampleBoard : Hub Nat :=
  played [.addBroker "main", .ask 0 (.createDestination "t" .topic),
    .ask 0 (.register sampleTopic "a" "me" 0), .ask 0 (.register sampleTopic "b" "me" 1),
    .ask 0 (.register sampleTopic "c" "me" 2)]

def sampleOuter : Message := .ofText (some "outer")

def sampleInner : Message := .ofText (some "inner")

def sampleStarted : Hub Nat :=
  sampleBoard.starting sampleOuter [.listener 0, .listener 1, .listener 2] none

/-- The first listener takes the second one off the list and puts a fourth one on it. -/
def sampleChanges : List (Move Nat) :=
  [.event .turn, .ask 0 (.unregister sampleTopic "b"), .ask 0 (.register sampleTopic "d" "me" 3)]

/-- After these changes it sends in its turn. -/
def sampleNested : Hub Nat :=
  (sampleStarted.play sampleChanges).starting sampleInner
    [.listener 0, .listener 2, .listener 3] none

def sampleTurns : List (Move Nat) := List.replicate 4 (.event .turn)

/-- The inner send goes by the new list, the outer one by the old. -/
theorem publish_fans_out_nested :
    sampleBoard.publish 0 sampleTopic sampleOuter none = .ok (3, sampleStarted) ∧
    (sampleStarted.play sampleChanges).publish 0 sampleTopic sampleInner none =
      .ok (3, sampleNested) ∧
    sampleNested.calls 1 sampleTurns =
      [(.listener 0, sampleInner), (.listener 2, sampleInner), (.listener 3, sampleInner)] ∧
    sampleStarted.calls 0 (sampleChanges ++ .ask 0 (.send sampleTopic sampleInner) :: sampleTurns ++
        sampleTurns.take 3) =
      [(.listener 0, sampleOuter), (.listener 1, sampleOuter), (.listener 2, sampleOuter)] := by
  have known : (sampleBoard.broker 0).interned sampleTopic = true := by decide
  have known' : ((sampleStarted.play sampleChanges).broker 0).interned sampleTopic = true := by
    decide
  have sent : sampleBoard.publish 0 sampleTopic sampleOuter none = .ok (3, sampleStarted) := rfl
  have sent' : (sampleStarted.play sampleChanges).publish 0 sampleTopic sampleInner none =
      .ok (3, sampleNested) := rfl
  obtain ⟨started, outer, -, -, fanned⟩ :=
    (publish_fans_out sampleBoard 0 sampleTopic sampleOuter none).2 known
  obtain ⟨nested, inner, -, -, fanned'⟩ :=
    (publish_fans_out (sampleStarted.play sampleChanges) 0 sampleTopic sampleInner none).2 known'
  obtain rfl : sampleStarted = started := congrArg Prod.snd (Except.ok.inj (sent.symm.trans outer))
  obtain rfl : sampleNested = nested := congrArg Prod.snd (Except.ok.inj (sent'.symm.trans inner))
  refine ⟨sent, sent', ?_, ?_⟩
  · exact (fanned' sampleTurns (by decide)).1
  · exact (fanned _ (by decide)).1

end Courier.Hub
