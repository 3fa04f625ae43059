import Courier.Proofs.Hub.Serving

/-!
# Silence after closing

The moves are followed from the first hub on. A consumer that has closed, for whatever reason, has
nothing left, stays closed, and gets nothing from any delivery, not even from one that is under way
and still has the consumer on its list.
-/

namespace Courier.Hub

set_option autoImplicit false

variable {L : Type} {h h' : Hub L}

namespace Guarded

theorem perform (guarded : Guarded h) (r : Request L) : Guarded (h.perform r).2 := by
  cases r with
  | addRegistry | addDirectory | registerProvider | removeBroker | closeProducer | dropProducer =>
    exact guarded.steady (.of_eq rfl rfl fun _ => id)
  | openBroker d name => exact guarded.steady (getOrCreate_steady h d name)
  | connect f username => exact guarded.connectAs f username
  | start c =>
    exact adoptHub_of guarded fun _ done => guarded.steady (startConnection_idle done).steady
  | stop c =>
    exact adoptHub_of guarded fun _ done => guarded.steady (stopConnection_idle done).steady
  | setClientId c id => exact adoptHub_of guarded fun _ done => guarded.setClientId done
  | closeConnection c => exact guarded.closeConnection c
  | dropConnection c => exact guarded.steady (dropConnection_idle h c).steady
  | createSession c transacted mode =>
    exact adopt_of guarded fun _ _ done => guarded.createSession done
  | createSessionFrom c settings =>
    refine adopt_of guarded fun _ _ done => ?_
    obtain ⟨mode, -, done⟩ := ok_of_bind done
    exact guarded.createSession done
  | closeSession s => exact adoptHub_of guarded fun _ done => guarded.closeSession done
  | dropSession s => exact guarded.steady (dropSession_idle h s).steady
  | createDestination s name kind =>
    refine adopt_of guarded fun _ _ done => ?_
    obtain ⟨_, -, done⟩ := ok_of_bind done
    obtain ⟨b, -, done⟩ := ok_of_bind done
    exact guarded.steady (createDestinationOn_steady done)
  | createTemporary s kind =>
    refine adopt_of guarded fun _ _ done => ?_
    obtain ⟨_, -, done⟩ := ok_of_bind done
    obtain ⟨b, -, done⟩ := ok_of_bind done
    cases done
    exact guarded.steady (createTemporaryOn_steady h b kind _)
  | deleteTemporary s d =>
    refine adoptHub_of guarded fun _ done => ?_
    obtain ⟨_, -, done⟩ := ok_of_bind done
    exact guarded.steady (onLink_steady done)
  | createProducer s destination =>
    exact adopt_of guarded fun _ _ done => guarded.steady (createProducer_idle done).steady
  | setDeliveryMode | setPriority | setTimeToLive | configure | setDisableMessageId
  | setDisableTimestamp =>
    exact adoptHub_of guarded fun _ done => guarded.steady (adjustProducer_idle done).steady
  | send p given m q now =>
    exact adopt_of guarded fun _ _ done => guarded.steady (send_idle done).steady
  | createConsumer s destination =>
    exact adopt_of guarded fun _ _ done => guarded.createConsumer done
  | setListener k listener =>
    exact adoptHub_of guarded fun _ done => guarded.steady (setListener_idle done).steady
  | receive k => exact adopt_of guarded fun _ _ done => guarded.steady (receive_idle done).steady
  | receiveFrom k d => exact adopt_of guarded fun _ _ done => guarded.receiveFrom done
  | closeConsumer k => exact guarded.closeConsumer k
  | dropConsumer k => exact guarded.dropConsumer k

theorem ask (guarded : Guarded h) (b : BrokerId) (r : BrokerRequest L) :
    Guarded (h.ask b r).2 := by
  have onBroker : ∀ f h', h.onBroker b f = .ok h' → Guarded h' := by
    intro f h' done
    obtain ⟨x, -, rfl⟩ := ok_of_map done
    exact guarded.steady (.of_eq rfl rfl fun _ => id)
  cases r with
  | createDestination name kind =>
    exact adopt_of guarded fun _ _ done => guarded.steady (createDestinationOn_steady done)
  | createTemporary kind owner => exact guarded.steady (createTemporaryOn_steady h b kind owner)
  | deleteTemporary | register | unregister | claim => exact adoptHub_of guarded (onBroker _)
  | send d m => exact adopt_of guarded fun _ _ done => guarded.steady (publish_steady done)
  | release | releaseConnection => exact guarded.steady (.of_eq rfl rfl fun _ => id)

theorem step (guarded : Guarded h) (move : Move L) : Guarded (h.step move) := by
  cases move with
  | event e =>
    cases e with
    | request r => exact guarded.perform r
    | turn =>
      rw [Hub.step, after]
      split
      · exact guarded.advance ‹_›
      · exact guarded
  | addBroker name => exact guarded.steady (.of_eq rfl rfl fun _ => id)
  | ask b r => exact guarded.ask b r

theorem play (guarded : Guarded h) (moves : List (Move L)) : Guarded (h.play moves) := by
  induction moves generalizing h with
  | nil => exact guarded
  | cons move moves ih => exact ih (guarded.step move)

theorem held_or_serving (guarded : Guarded h) {k : ConsumerId}
    (opened : (h.consumer k).closed = false) :
    (h.consumer k).held = true ∨ ∃ d ∈ h.deliveries, d.serving = some k := by
  have live := guarded.tended k opened
  rw [consumerLive, Bool.or_eq_true, List.any_eq_true] at live
  refine live.imp_right ?_
  rintro ⟨d, mem, serving⟩
  exact ⟨d, mem, by simpa using serving⟩

end Guarded

theorem guarded_played (moves : List (Move L)) : Guarded (played moves) :=
  Guarded.initial.play moves

/-- What closes a consumer. One that is let go while its listener is at work closes after that. -/
structure Closings (h : Hub L) (k : ConsumerId) : Prop where
  own : ((h.closeConsumer k).consumer k).closed = true
  session : ∀ h', h.closeSession (h.consumer k).session = .ok h' → (h'.consumer k).closed = true
  connection : ∀ c, (h.session (h.consumer k).session).connection = c →
    (h.connection c).state ≠ .closed → ((h.closeConnection c).2.consumer k).closed = true
  dropped : ((h.dropConsumer k).consumer k).closed = true ∨ ∃ d ∈ h.deliveries, d.serving = some k
  unheld : (h.consumer k).held = false →
    (h.consumer k).closed = true ∨ ∃ d ∈ h.deliveries, d.serving = some k

theorem Guarded.closings (guarded : Guarded h) (k : ConsumerId) : h.Closings k where
  own := closeConsumer_closed h k
  session _ done := guarded.closed_of_closeSession done rfl
  connection _ here opened := guarded.closed_of_closeConnection opened here
  dropped := closed_of_dropConsumer h k
  unheld gone := by
    cases opened : (h.consumer k).closed with
    | true => exact .inl rfl
    | false =>
      right
      rcases guarded.held_or_serving opened with held | serving
      · rw [gone] at held
        cases held
      · exact serving

/-- In every hub that can come about, whoever has closed is empty. A consumer that has closed stays
so whatever comes, and no delivery, old or new, gives it anything. A delivery in progress has each
consumer on its list once, can come to its end, and has then called all of them once each; if a
consumer is open when it is called, it is served. -/
theorem closed_consumers_get_nothing {h : Hub L} (reachable : h.Reachable) :
    (∀ k, (h.consumer k).Quiet) ∧
    (∀ k < h.consumers.length, (h.consumer k).closed = true → ∀ later,
      ((h.play later).consumer k).closed = true ∧ ((h.play later).consumer k).Quiet ∧
      ∀ source m, (h.play later).nextCall = some (.consumer k source, m) →
        ∃ x, (h.play later).advance = some (.skipped, x) ∧
          x.consumer k = (h.play later).consumer k) ∧
    (∀ inner d outer, h.deliveries = inner ++ d :: outer →
      (d.waiting.filterMap Endpoint.consumer?).Nodup ∧
      (∃ later, h.Completes outer.length later) ∧
      ∀ later, h.Completes outer.length later →
        h.calls outer.length later = d.waiting.map (·, d.message)) ∧
    (∀ k source m, h.nextCall = some (.consumer k source, m) → h.Serves k source m) ∧
    ∀ k, h.Closings k := by
  obtain ⟨moves, rfl⟩ := reachable
  have orderly := orderly_played moves
  refine ⟨orderly.quiet, ?_, ?_, fun _ _ _ => orderly.serves, (guarded_played moves).closings⟩
  · intro k made closed later
    have closed' := (Lasts.play (played moves) later).closed k made closed
    have orderly' := orderly.play later
    exact ⟨closed', orderly'.quiet k, fun _ _ call => (orderly'.serves call).skipped closed'⟩
  · intro inner d outer deliveries
    have mem : d ∈ (played moves).deliveries := by
      rw [deliveries]
      exact List.mem_append_right _ List.mem_cons_self
    have once := (orderly.once d mem).sublist (List.sublist_append_right _ _)
    refine ⟨once, ⟨_, completes_turns _ (inner ++ [d]) ?_ rfl⟩, ?_⟩
    · rw [deliveries, List.append_assoc, List.singleton_append]
    · intro later completes
      exact (calls_of_completes later inner deliveries completes).1

def sampleMailQueue : Destination := { name := "q", kind := .queue }

/-- Three consumers of a queue. A message has reached the first one, whose listener has closed the
second one. -/
def sampleInterrupted : Hub Nat :=
  played [.event (.request .addRegistry), .event (.request .addDirectory),
    .event (.request (.registerProvider 0 0)),
    .event (.request (.connect { registry := 0, url := "vm://main" } none)),
    .event (.request (.createSession 0 false .autoAcknowledge)),
    .event (.request (.createDestination 0 "q" .queue)),
    .event (.request (.createConsumer 0 (some sampleMailQueue))),
    .event (.request (.createConsumer 0 (some sampleMailQueue))),
    .event (.request (.createConsumer 0 (some sampleMailQueue))),
    .event (.request (.setListener 0 (some 0))), .event (.request (.setListener 1 (some 1))),
    .event (.request (.createProducer 0 (some sampleMailQueue))),
    .event (.request (.send 0 none (.ofText (some "hello")) none 0)), .event .turn,
    .event (.request (.closeConsumer 1))]

def sampleRemainder : List (Move Nat) := [.event .turn, .event .turn, .event .turn]

/-- The second one is still called, and gets nothing. -/
theorem closed_consumers_get_nothing_interrupted :
    sampleInterrupted.Reachable ∧ (sampleInterrupted.consumer 1).closed = true ∧
    (∃ source m x, sampleInterrupted.nextCall = some (.consumer 1 source, m) ∧
      sampleInterrupted.advance = some (.skipped, x) ∧
      x.consumer 1 = sampleInterrupted.consumer 1) ∧
    sampleInterrupted.Completes 0 sampleRemainder ∧
    (sampleInterrupted.calls 0 sampleRemainder).map (·.1.consumer?) = [some 1, some 2] := by
  have reachable : sampleInterrupted.Reachable := ⟨_, rfl⟩
  obtain ⟨made, closed, completes, second, one, left⟩ :
      1 < sampleInterrupted.consumers.length ∧
      (sampleInterrupted.consumer 1).closed = true ∧
      sampleInterrupted.Completes 0 sampleRemainder ∧
      sampleInterrupted.nextCall.bind (·.1.consumer?) = some 1 ∧
      sampleInterrupted.deliveries.length = 1 ∧
      sampleInterrupted.deliveries.map (·.waiting.map Endpoint.consumer?) =
        [[some 1, some 2]] := by
    decide +kernel
  obtain ⟨-, silent, complete, -, -⟩ := closed_consumers_get_nothing reachable
  refine ⟨reachable, closed, ?_, completes, ?_⟩
  · obtain ⟨⟨e, m⟩, call, same⟩ := Option.bind_eq_some_iff.mp second
    cases e with
    | listener l => cases same
    | consumer k source =>
      cases same
      obtain ⟨x, skipped, kept⟩ := (silent 1 made closed []).2.2 source m call
      exact ⟨source, m, x, call, skipped, kept⟩
  · obtain ⟨d, deliveries⟩ := List.length_eq_one_iff.mp one
    have called : sampleInterrupted.calls 0 sampleRemainder = d.waiting.map (·, d.message) :=
      (complete [] d [] deliveries).2.2 sampleRemainder completes
    rw [called, List.map_map]
    rw [deliveries] at left
    exact (List.cons.inj left).1

end Courier.Hub
