import Courier.Proofs.Hub.Turns

/-!
# Who is served

A delivery goes by a list that was made when it started, so it may call a consumer that has closed
in the meantime. Such a consumer gets nothing, and it has nothing left that could take a message.
One that is open when it is called is told once or gets the message in its mailbox once.
-/

namespace Courier

set_option autoImplicit false

variable {L : Type}

def Endpoint.consumer? : Endpoint L → Option ConsumerId
  | .listener _ => none
  | .consumer k _ => some k

/-- The consumers that a delivery still has to do with. -/
def Delivery.concerned (d : Delivery L) : List ConsumerId :=
  d.serving.toList ++ d.waiting.filterMap Endpoint.consumer?

theorem Consumer.queue_store (c : Consumer L) (source : Destination) (m : Message)
    (d : Destination) :
    (c.store source m).queue d = if d = source then c.queue source ++ [m] else c.queue d := by
  rw [queue, store, Table.get?_insert]
  split <;> rfl

namespace Hub

variable {h h' : Hub L} {d : Delivery L} {outer : List (Delivery L)}

/-- Whoever has closed is empty, and nobody is on a list twice: neither on one of a broker, where a
consumer stands under its own id, nor on one that a delivery goes by. -/
structure Orderly (h : Hub L) : Prop where
  quiet : ∀ k, (h.consumer k).Quiet
  distinct : ∀ b d, ((h.broker b).consumerIds d).Nodup
  known : ∀ {b d r k source}, r ∈ (h.broker b).registrations d → r.endpoint = .consumer k source →
    k < h.consumers.length ∧ r.id = (h.consumer k).id
  once : ∀ d ∈ h.deliveries, d.concerned.Nodup

/-- No consumer has gone, and none that was closed is open. -/
structure Lasts (h h' : Hub L) : Prop where
  made : h.consumers.length ≤ h'.consumers.length
  closed : ∀ k < h.consumers.length, (h.consumer k).closed = true → (h'.consumer k).closed = true

namespace Orderly

theorem initial : Orderly ({} : Hub L) where
  quiet _ _ := ⟨rfl, rfl, rfl⟩
  distinct _ _ := List.nodup_nil
  known mem := by cases mem
  once _ mem := by cases mem

theorem of_eq (orderly : Orderly h) (brokers : h'.brokers = h.brokers)
    (consumers : h'.consumers = h.consumers) (once : ∀ d ∈ h'.deliveries, d.concerned.Nodup) :
    Orderly h' := by
  obtain ⟨brokers', directories, registries, connections, sessions, producers, consumers',
    deliveries, minted⟩ := h'
  cases brokers
  cases consumers
  exact ⟨orderly.quiet, orderly.distinct, orderly.known, once⟩

theorem setBroker (orderly : Orderly h) {b : BrokerId} {x : Broker (Endpoint L)}
    (distinct : ∀ d, (x.consumerIds d).Nodup)
    (known : ∀ {d r k source}, r ∈ x.registrations d → r.endpoint = .consumer k source →
      k < h.consumers.length ∧ r.id = (h.consumer k).id) : Orderly (h.setBroker b x) := by
  refine ⟨orderly.quiet, ?_, ?_, orderly.once⟩
  · intro b' d
    rw [broker_setBroker]
    split
    · exact distinct d
    · exact orderly.distinct b' d
  · intro b' d r k source mem
    rw [broker_setBroker] at mem
    split at mem
    · exact known mem
    · exact orderly.known mem

/-- Endpoints of different registrations belong to different consumers. -/
theorem nodup_snapshot (orderly : Orderly h) (b : BrokerId) (d : Destination) :
    ((((h.broker b).registrations d).map (·.endpoint)).filterMap Endpoint.consumer?).Nodup := by
  have ids := orderly.distinct b d
  rw [Broker.consumerIds_eq_map, List.Nodup, List.pairwise_map] at ids
  rw [List.filterMap_map, List.Nodup, List.pairwise_filterMap]
  refine ids.imp_of_mem ?_
  intro r r' mem mem' other k one k' two same
  subst same
  have id_of : ∀ {r : Registration (Endpoint L)}, r ∈ (h.broker b).registrations d →
      r.endpoint.consumer? = some k → r.id = (h.consumer k).id := by
    intro r mem here
    cases endpoint : r.endpoint with
    | listener l =>
      rw [endpoint] at here
      cases here
    | consumer j source =>
      rw [endpoint] at here
      cases here
      exact (orderly.known mem endpoint).2
  exact other ((id_of mem one).trans (id_of mem' two).symm)

theorem change (change : Change h h') (orderly : Orderly h) : Orderly h' := by
  cases change with
  | aside brokers consumers deliveries =>
    refine orderly.of_eq brokers consumers ?_
    rw [deliveries]
    exact orderly.once
  | addBroker name =>
    refine ⟨orderly.quiet, ?_, ?_, orderly.once⟩
    · intro b d
      rw [broker_addBroker]
      split
      · exact List.nodup_nil
      · exact orderly.distinct b d
    · intro b d r k source mem
      rw [broker_addBroker] at mem
      split at mem
      · cases mem
      · exact orderly.known mem
  | @thin b x thins =>
    apply orderly.setBroker
    · intro d
      exact thins.nodup (orderly.distinct b d)
    · intro d r k source mem
      exact orderly.known ((thins d).subset mem)
  | @listen b x d id owner l taken =>
    apply orderly.setBroker
    · intro d'
      exact Broker.nodup_register taken (orderly.distinct b d')
    · intro d' r k source mem here
      rcases Broker.mem_registrations_register taken mem with old | rfl
      · exact orderly.known old here
      · cases here
  | @enrol b x d k owner made taken =>
    apply orderly.setBroker
    · intro d'
      exact Broker.nodup_register taken (orderly.distinct b d')
    · intro d' r j source mem here
      rcases Broker.mem_registrations_register taken mem with old | rfl
      · exact orderly.known old here
      · cases here
        exact ⟨made, rfl⟩
  | @addConsumer c opened =>
    refine ⟨?_, orderly.distinct, ?_, orderly.once⟩
    · intro k
      rw [consumer_addConsumer]
      split
      · intro closed
        rw [opened] at closed
        cases closed
      · exact orderly.quiet k
    · intro b d r k source mem here
      obtain ⟨made, id⟩ := orderly.known mem here
      rw [consumer_addConsumer, if_neg (Nat.ne_of_lt made), List.length_append]
      exact ⟨Nat.lt_add_right _ made, id⟩
  | @setConsumer k x becomes =>
    refine ⟨?_, orderly.distinct, ?_, orderly.once⟩
    · intro j
      rw [consumer_setConsumer]
      split
      · exact becomes.quiet (orderly.quiet k)
      · exact orderly.quiet j
    · intro b d r j source mem here
      obtain ⟨made, id⟩ := orderly.known mem here
      refine ⟨Nat.lt_of_lt_of_eq made List.length_set.symm, id.trans ?_⟩
      exact (view_getD_set Consumer.id becomes.id j).symm
  | publish m sender snapshot =>
    refine orderly.of_eq rfl rfl ?_
    intro d mem
    rcases List.mem_cons.mp mem with rfl | old
    · obtain ⟨-, rfl⟩ := Broker.endpoints_ok snapshot
      exact orderly.nodup_snapshot _ _
    · exact orderly.once d old

theorem changes (changes : Changes h h') (orderly : Orderly h) : Orderly h' :=
  changes.keep Orderly.change orderly

theorem resumed (orderly : Orderly h) (deliveries : h.deliveries = d :: outer) :
    Orderly (h.resumed d outer) := by
  have idle : Orderly { h with deliveries := { d with serving := none } :: outer } := by
    refine orderly.of_eq rfl rfl ?_
    intro d' mem
    rcases List.mem_cons.mp mem with rfl | old
    · have mem : d ∈ h.deliveries := deliveries ▸ List.mem_cons_self
      exact (orderly.once d mem).sublist (List.sublist_append_right _ _)
    · exact orderly.once d' (deliveries ▸ List.mem_cons_of_mem _ old)
  unfold Hub.resumed
  dsimp only
  split
  · exact idle.changes (reap_changes _ _)
  · exact idle

theorem serve (orderly : Orderly h) {e : Endpoint L} (unserving : d.serving = none)
    (fresh : ((e :: d.waiting).filterMap Endpoint.consumer?).Nodup)
    (others : ∀ d ∈ outer, d.concerned.Nodup) : Orderly (h.serve d outer e).2 := by
  -- whoever is at work next was the first of those that waited
  have going : ∀ serving, (Delivery.concerned { d with serving }).Sublist
      ((e :: d.waiting).filterMap Endpoint.consumer?) →
      Orderly { h with deliveries := { d with serving } :: outer } := by
    intro serving fewer
    refine orderly.of_eq rfl rfl ?_
    intro d' mem
    rcases List.mem_cons.mp mem with rfl | old
    · exact fresh.sublist fewer
    · exact others d' old
  have idle : Orderly { h with deliveries := d :: outer } := by
    refine going d.serving ?_
    rw [unserving]
    exact (List.sublist_cons_self ..).filterMap _
  cases e with
  | listener l => exact idle
  | consumer k source =>
    unfold Hub.serve
    dsimp only
    split
    · exact idle
    · rename_i opened
      split
      · exact going (some k) (List.Sublist.refl _)
      · have open_k : (h.consumer k).closed = false := by simpa using opened
        exact idle.change (.setConsumer (.of_open rfl open_k open_k))

theorem turn (orderly : Orderly h) : Orderly (h.step (.event .turn)) := by
  cases deliveries : h.deliveries with
  | nil =>
    rw [step_turn_of_nil deliveries]
    exact orderly
  | cons d outer =>
    have going := orderly.resumed deliveries
    have others : ∀ d ∈ outer, d.concerned.Nodup := by
      intro d' mem
      exact orderly.once d' (deliveries ▸ List.mem_cons_of_mem _ mem)
    cases more : d.waiting with
    | nil =>
      rw [step_turn_of_done deliveries more]
      exact going.of_eq rfl rfl others
    | cons e waiting =>
      have mem : d ∈ h.deliveries := deliveries ▸ List.mem_cons_self
      have fresh := (orderly.once d mem).sublist (List.sublist_append_right _ _)
      rw [more] at fresh
      rw [step_turn_of_waiting deliveries more]
      exact going.serve rfl fresh others

theorem step (orderly : Orderly h) (move : Move L) : Orderly (h.step move) := by
  by_cases request : move ≠ .event .turn
  · exact orderly.changes (step_changes h request)
  · obtain rfl : move = .event .turn := not_not.mp request
    exact orderly.turn

theorem play (orderly : Orderly h) (moves : List (Move L)) : Orderly (h.play moves) := by
  induction moves generalizing h with
  | nil => exact orderly
  | cons move moves ih => exact ih (orderly.step move)

end Orderly

theorem orderly_played (moves : List (Move L)) : Orderly (played moves) :=
  Orderly.initial.play moves

namespace Lasts

theorem refl (h : Hub L) : Lasts h h := ⟨Nat.le_refl _, fun _ _ => id⟩

theorem trans {h'' : Hub L} (first : Lasts h h') (second : Lasts h' h'') : Lasts h h'' where
  made := Nat.le_trans first.made second.made
  closed k made closed :=
    second.closed k (Nat.lt_of_lt_of_le made first.made) (first.closed k made closed)

theorem of_eq (consumers : h'.consumers = h.consumers) : Lasts h h' where
  made := Nat.le_of_eq (congrArg List.length consumers).symm
  closed k _ closed := by rwa [consumer, consumers]

theorem change (change : Change h h') : Lasts h h' := by
  cases change with
  | aside _ consumers _ => exact of_eq consumers
  | @addConsumer c opened =>
    refine ⟨List.length_append ▸ Nat.le_add_right _ _, ?_⟩
    intro k made closed
    rwa [consumer_addConsumer, if_neg (Nat.ne_of_lt made)]
  | @setConsumer k x becomes =>
    refine ⟨Nat.le_of_eq List.length_set.symm, ?_⟩
    intro j _ closed
    rw [consumer_setConsumer]
    split
    · rename_i here
      rw [here.1] at closed
      exact becomes.closed closed
    · exact closed
  | _ => exact of_eq rfl

theorem changes (changes : Changes h h') : Lasts h h' := by
  induction changes with
  | refl => exact refl h
  | tail _ change ih => exact ih.trans (.change change)

theorem resumed (h : Hub L) (d : Delivery L) (outer : List (Delivery L)) :
    Lasts h (h.resumed d outer) := by
  have idle : Lasts h { h with deliveries := { d with serving := none } :: outer } := of_eq rfl
  unfold Hub.resumed
  dsimp only
  split
  · exact idle.trans (changes (reap_changes _ _))
  · exact idle

theorem serve (h : Hub L) (d : Delivery L) (outer : List (Delivery L)) (e : Endpoint L) :
    Lasts h (h.serve d outer e).2 := by
  cases e with
  | listener l => exact of_eq rfl
  | consumer k source =>
    unfold Hub.serve
    dsimp only
    split
    · exact of_eq rfl
    · rename_i opened
      split
      · exact of_eq rfl
      · have idle : Lasts h { h with deliveries := d :: outer } := of_eq rfl
        have open_k : (h.consumer k).closed = false := by simpa using opened
        exact idle.trans (change (.setConsumer (.of_open rfl open_k open_k)))

theorem step (h : Hub L) (move : Move L) : Lasts h (h.step move) := by
  by_cases request : move ≠ .event .turn
  · exact changes (step_changes h request)
  obtain rfl : move = .event .turn := not_not.mp request
  cases deliveries : h.deliveries with
  | nil =>
    rw [step_turn_of_nil deliveries]
    exact refl h
  | cons d outer =>
    cases more : d.waiting with
    | nil =>
      rw [step_turn_of_done deliveries more]
      exact (resumed h d outer).trans (of_eq rfl)
    | cons e waiting =>
      rw [step_turn_of_waiting deliveries more]
      exact (resumed h d outer).trans (serve ..)

theorem play (h : Hub L) (moves : List (Move L)) : Lasts h (h.play moves) := by
  induction moves generalizing h with
  | nil => exact refl h
  | cons move moves ih => exact (step h move).trans (ih (h.step move))

end Lasts

/-- What the next turn does for the consumer it calls. A closed one gets nothing. The listener of an
open one is told; without a listener, the message goes to the end of the queue of its source. -/
structure Serves (h : Hub L) (k : ConsumerId) (source : Destination) (m : Message) : Prop where
  skipped : (h.consumer k).closed = true →
    ∃ h', h.advance = some (.skipped, h') ∧ h'.consumer k = h.consumer k
  told : ∀ l, (h.consumer k).closed = false → (h.consumer k).listener = some l →
    ∃ h', h.advance = some (.notified l m, h') ∧ h'.consumer k = h.consumer k
  stored : (h.consumer k).closed = false → (h.consumer k).listener = none →
    ∃ h', h.advance = some (.stored k, h') ∧ h'.consumer k = (h.consumer k).store source m ∧
      ∀ d, (h'.consumer k).queue d =
        if d = source then (h.consumer k).queue d ++ [m] else (h.consumer k).queue d

/-- If the next call is to a consumer, the turn serves it. -/
def ServesNext (h : Hub L) : Prop :=
  ∀ k source m, h.nextCall = some (.consumer k source, m) → h.Serves k source m

theorem consumer_closeConsumer_of_ne {j k : ConsumerId} (other : k ≠ j) :
    (h.closeConsumer j).consumer k = h.consumer k := by
  cases opened : (h.consumer j).closed with
  | true => rw [closeConsumer_of_closed opened]
  | false => exact (closeConsumer_closes opened).others k other

theorem consumer_resumed {k : ConsumerId} (idle : d.serving ≠ some k) :
    (h.resumed d outer).consumer k = h.consumer k := by
  cases served : d.serving with
  | none =>
    rw [resumed, served]
    rfl
  | some j =>
    have other : k ≠ j := by
      rintro rfl
      exact idle served
    rw [resumed, served]
    dsimp only [reap]
    split
    · rfl
    · exact consumer_closeConsumer_of_ne other

/-- The consumer that is called is not the one whose listener is done. -/
theorem Orderly.idle_of_next (orderly : Orderly h) (deliveries : h.deliveries = d :: outer)
    {k : ConsumerId} {source : Destination} {waiting : List (Endpoint L)}
    (more : d.waiting = .consumer k source :: waiting) : d.serving ≠ some k := by
  have mem : d ∈ h.deliveries := deliveries ▸ List.mem_cons_self
  have once := orderly.once d mem
  intro served
  rw [Delivery.concerned, served, more] at once
  exact (List.nodup_cons.mp once).1 List.mem_cons_self

theorem Orderly.serves (orderly : Orderly h) {k : ConsumerId} {source : Destination} {m : Message}
    (call : h.nextCall = some (.consumer k source, m)) : h.Serves k source m := by
  cases deliveries : h.deliveries with
  | nil =>
    rw [nextCall, deliveries] at call
    cases call
  | cons d outer =>
    rcases deliveries_turn deliveries with ⟨-, none, -⟩ | ⟨e, waiting, serving, more, some, -⟩
    · rw [none] at call
      cases call
    · rw [some] at call
      cases call
      have kept : (h.resumed d outer).consumer k = h.consumer k :=
        consumer_resumed (orderly.idle_of_next deliveries more)
      have served := advance_of_waiting deliveries more
      generalize h.resumed d outer = h₁ at kept served
      unfold Hub.serve at served
      dsimp only at served
      rw [kept] at served
      constructor
      · intro closed
        rw [if_pos closed] at served
        exact ⟨_, served, kept⟩
      · intro l opened listens
        rw [if_neg (by simp [opened]), listens] at served
        exact ⟨_, served, kept⟩
      · intro opened deaf
        rw [if_neg (by simp [opened]), deaf] at served
        have made : k < h₁.consumers.length := consumer_lt_of_open (by rwa [kept])
        have stored : ∀ c, (({ h₁ with
            deliveries := { d with serving := none, waiting } :: outer } : Hub L).setConsumer
              k c).consumer k = c := by
          intro c
          exact (consumer_setConsumer_of_lt made c k).trans (if_pos rfl)
        refine ⟨_, served, stored _, ?_⟩
        intro d'
        rw [stored, Consumer.queue_store]
        split
        · rename_i same
          rw [same]
        · rfl

theorem Reachable.orderly (reachable : h.Reachable) : Orderly h := by
  obtain ⟨moves, rfl⟩ := reachable
  exact orderly_played moves

/-- From a hub that can come about, through any changes and then any moves, whichever consumer is
called is served. -/
theorem Reachable.servesNext (reachable : h.Reachable) (changes : Changes h h')
    (moves : List (Move L)) : (h'.play moves).ServesNext :=
  fun _ _ _ => ((reachable.orderly.changes changes).play moves).serves

end Hub

end Courier
