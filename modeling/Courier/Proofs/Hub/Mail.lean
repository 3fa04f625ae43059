import Mathlib.Algebra.BigOperators.Group.Finset.Basic
import Courier.Proofs.Hub.Beneath

/-!
# Mail

What deliveries hand to a consumer while it has no listener waits in its mailbox, one queue for each
destination, until it is received. Moves are followed from the first hub on, and what they hand over
is compared with what they take out: the difference is what waits, as long as the consumer is open.
-/

namespace Courier

set_option autoImplicit false

variable {L : Type}

/-- Messages wait for a consumer from finitely many destinations, and these are all of them. -/
theorem Consumer.pending_eq_sum (c : Consumer L) :
    ∃ sources : Finset Destination, (∀ d ∉ sources, c.queue d = []) ∧
      c.pending = ∑ d ∈ sources, (c.queue d).length := by
  refine ⟨c.mailbox.keys.toFinset, ?_, ?_⟩
  · intro d absent
    rw [List.mem_toFinset] at absent
    rw [queue, Table.get?_eq_none_iff.mpr fun ms mem => absent (List.mem_map_of_mem mem)]
    rfl
  · have distinct : c.mailbox.keys.Nodup := c.mailbox.nodup
    have lengths : c.mailbox.keys.map (fun d => (c.queue d).length) =
        c.mailbox.values.map List.length := by
      rw [Table.keys, Table.values, List.map_map, List.map_map]
      apply List.map_congr_left
      rintro ⟨d, ms⟩ mem
      have found : c.mailbox.get? d = some ms := Table.get?_eq_some_iff.mpr mem
      simp only [Function.comp_apply, queue, found, Option.getD_some]
    rw [pending, List.length_flatten, ← lengths, List.sum_toFinset _ distinct]

namespace Hub

variable {h h' : Hub L} {k : ConsumerId} {d : Destination}

/-- What a move hands to an open consumer from a destination, and the listener that is set then. -/
def handing (k : ConsumerId) (d : Destination) (h : Hub L) : Move L → List (Option L × Message)
  | .event .turn => match h.nextCall with
    | some (.consumer j source, m) =>
      if j = k ∧ source = d ∧ (h.consumer k).closed = false then [((h.consumer k).listener, m)]
      else []
    | _ => []
  | _ => []

/-- Whom a move notifies because it calls a consumer from a destination. -/
def notifying (k : ConsumerId) (d : Destination) (h : Hub L) : Move L → List (L × Message)
  | .event .turn => match h.nextCall, h.advance with
    | some (.consumer j source, _), some (.notified l m, _) =>
      if j = k ∧ source = d then [(l, m)] else []
    | _, _ => []
  | _ => []

/-- What a receive comes back with. -/
def answer : Except Error (Option Message × Hub L) → List Message
  | .ok (m, _) => m.toList
  | .error _ => []

/-- What a move receives for a consumer from a destination. -/
def receiving (k : ConsumerId) (d : Destination) (h : Hub L) : Move L → List Message
  | .event (.request (.receive j)) =>
    if j = k ∧ (h.consumer j).destination = some d then answer (h.receive j) else []
  | .event (.request (.receiveFrom j source)) =>
    if j = k ∧ source = d then answer (h.receiveFrom j source) else []
  | _ => []

/-- What moves yield one after the other. -/
def gathered {α : Type} (yield : Hub L → Move L → List α) : Hub L → List (Move L) → List α
  | _, [] => []
  | h, move :: moves => yield h move ++ gathered yield (h.step move) moves

/-- What was handed over while no listener was set. -/
def unheard : List (Option L × Message) → List Message :=
  List.filterMap fun x => if x.1.isNone then some x.2 else none

/-- What was handed over while a listener was set, and to which. -/
def heard : List (Option L × Message) → List (L × Message) :=
  List.filterMap fun x => x.1.map (·, x.2)

section Views
variable (l : L) (m : Message) (xs ys : List (Option L × Message))

@[simp] theorem unheard_nil : unheard ([] : List (Option L × Message)) = [] := rfl
@[simp] theorem unheard_none : unheard ((none, m) :: xs) = m :: unheard xs := rfl
@[simp] theorem unheard_some : unheard ((some l, m) :: xs) = unheard xs := rfl
@[simp] theorem heard_nil : heard ([] : List (Option L × Message)) = [] := rfl
@[simp] theorem heard_none : heard ((none, m) :: xs) = heard xs := rfl
@[simp] theorem heard_some : heard ((some l, m) :: xs) = (l, m) :: heard xs := rfl

@[simp] theorem unheard_append : unheard (xs ++ ys) = unheard xs ++ unheard ys :=
  List.filterMap_append

@[simp] theorem heard_append : heard (xs ++ ys) = heard xs ++ heard ys := List.filterMap_append

end Views

theorem Files.queue (files : Files h h') (lives : ¬ h'.Ended k) (d : Destination) :
    (h'.consumer k).queue d = (h.consumer k).queue d := by
  rw [Consumer.queue, files.mailbox lives, Consumer.queue]

/-! Opening and closing connections. -/

theorem closeConnection_files (h : Hub L) (c : ConnectionId) :
    Files h (h.closeConnection c).2 :=
  closeConnection_keeps (.refl h) c (fun _ files => files.trans (.of_eq rfl))
    (fun untouched files => files.trans untouched.toFiles) (fun files => files.trans (.of_eq rfl))

theorem setClientId_files {c : ConnectionId} {id : String} (done : h.setClientId c id = .ok h') :
    Files h h' := by
  obtain ⟨-, -, b, x, -, -, rfl⟩ := setClientId_ok done
  exact .of_eq rfl

theorem connectAs_files (f : Factory) (h : Hub L) (username : Option String) :
    Files h (f.connectAs h username).2 := by
  refine connectAs_keeps (.refl h) ?_ (fun files done => files.trans (setClientId_files done))
    (fun c files => files.trans (closeConnection_files _ c)) (fun _ files => files.trans (.of_eq rfl))
  intro d name
  obtain ⟨_, _, _, _, -, same⟩ := joined_rest h d name username f.defaults
  rw [same]
  exact .of_eq rfl

/-- Requests that receive nothing leave the mailboxes of open consumers alone. -/
theorem perform_files (h : Hub L) {r : Request L} (bound : ∀ j, r ≠ .receive j)
    (unbound : ∀ j source, r ≠ .receiveFrom j source) : Files h (h.perform r).2 := by
  cases r with
  | receive j => exact absurd rfl (bound j)
  | receiveFrom j source => exact absurd rfl (unbound j source)
  | openBroker d name =>
    obtain ⟨_, _, same⟩ := getOrCreate_rest h d name
    rw [perform, same]
    exact .of_eq rfl
  | connect f username => exact connectAs_files f h username
  | setClientId c id => exact adoptHub_of (.refl h) fun _ => setClientId_files
  | closeConnection c => exact closeConnection_files h c
  | createSession c transacted mode =>
    refine adopt_of (.refl h) fun _ _ done => ?_
    obtain ⟨-, x, -, rfl⟩ := createSession_ok done
    exact .of_eq rfl
  | createSessionFrom c settings =>
    refine adopt_of (.refl h) fun _ _ done => ?_
    obtain ⟨mode, done⟩ := createSessionFrom_ok done
    obtain ⟨-, x, -, rfl⟩ := createSession_ok done
    exact .of_eq rfl
  | createTemporary s kind =>
    refine adopt_of (.refl h) fun _ _ done => ?_
    obtain ⟨-, b, -, rfl⟩ := sessionTemporary_ok done
    exact .of_eq rfl
  | createProducer s destination =>
    refine adopt_of (.refl h) fun _ _ done => ?_
    obtain ⟨x, -, rfl⟩ := createProducer_ok done
    exact .of_eq rfl
  | setDeliveryMode | setPriority | setTimeToLive | configure =>
    refine adoptHub_of (.refl h) fun _ done => ?_
    obtain ⟨x, -, rfl⟩ := adjustProducer_ok done
    exact .of_eq rfl
  | _ => exact (perform_untouched h rfl).toFiles

theorem ask_files (h : Hub L) (b : BrokerId) (r : BrokerRequest L) : Files h (h.ask b r).2 := by
  have onBroker : ∀ f h', h.onBroker b f = .ok h' → Files h h' := by
    intro f h' done
    obtain ⟨x, -, rfl⟩ := ok_of_map done
    exact .of_eq rfl
  cases r with
  | createDestination name kind =>
    refine adopt_of (.refl h) fun _ _ done => ?_
    obtain ⟨⟨d, x⟩, -, done⟩ := ok_of_bind done
    cases done
    exact .of_eq rfl
  | deleteTemporary | register | unregister | claim => exact adoptHub_of (.refl h) (onBroker _)
  | send d m => exact adopt_of (.refl h) fun _ _ done => (publish_untouched done).toFiles
  | createTemporary | release | releaseConnection => exact .of_eq rfl

/-! Receiving. -/

/-- What is popped stood first in its queue, and all else stays. -/
theorem queue_pop (made : k < h.consumers.length) (source : Destination) (j : ConsumerId)
    (d : Destination) :
    (h.consumer j).queue d = (if k = j ∧ source = d then (h.pop k source).1.toList else []) ++
      ((h.pop k source).2.consumer j).queue d := by
  cases waiting : (h.consumer k).queue source with
  | nil =>
    have popped : h.pop k source = (none, h) := by simp only [pop, waiting]
    rw [popped]
    split <;> rfl
  | cons m rest =>
    have popped : h.pop k source = (some m, h.setConsumer k
        { h.consumer k with mailbox := (h.consumer k).mailbox.insert source rest }) := by
      simp only [pop, waiting]
    rw [popped, consumer_setConsumer_of_lt made]
    by_cases here : k = j
    · subst here
      rw [if_pos rfl, Consumer.queue, Consumer.queue, Table.get?_insert]
      by_cases there : source = d
      · subst there
        rw [if_pos ⟨rfl, rfl⟩, if_pos rfl, ← Consumer.queue, waiting]
        rfl
      · rw [if_neg fun both => there both.2, if_neg fun same => there same.symm]
        rfl
    · rw [if_neg fun both => here both.1, if_neg fun same => here same.symm]
      rfl

/-- A receive takes the message it comes back with from the front of the queue. -/
theorem queue_receive (j : ConsumerId) (k : ConsumerId) (d : Destination) :
    (h.consumer k).queue d = receiving k d h (.event (.request (.receive j))) ++
      ((h.step (.event (.request (.receive j)))).consumer k).queue d := by
  rw [receiving, step, after, perform]
  cases done : h.receive j with
  | error e =>
    rw [answer, adopt, ite_self]
    rfl
  | ok r =>
    obtain ⟨m, h'⟩ := r
    obtain ⟨opened, source, bound, popped⟩ := receive_ok done
    have taken := queue_pop (consumer_lt_of_open opened) source k d
    rw [popped] at taken
    simp only [bound, Option.some.injEq]
    exact taken

theorem queue_receiveFrom (j : ConsumerId) (source : Destination)
    (lives : ¬ (h.step (.event (.request (.receiveFrom j source)))).Ended k) (d : Destination) :
    (h.consumer k).queue d = receiving k d h (.event (.request (.receiveFrom j source))) ++
      ((h.step (.event (.request (.receiveFrom j source)))).consumer k).queue d := by
  rw [receiving]
  rw [step, after, perform] at lives ⊢
  cases done : h.receiveFrom j source with
  | error e =>
    rw [answer, adopt, ite_self]
    rfl
  | ok r =>
    obtain ⟨m, h'⟩ := r
    obtain ⟨opened, h₁, attached, popped⟩ := receiveFrom_ok done
    rw [done, adopt] at lives
    have opened₁ := (closed_of_attach attached j).trans opened
    have taken := queue_pop (consumer_lt_of_open opened₁) source k d
    have lasts := Lasts.changes (pop_changes opened₁ source)
    rw [popped] at taken lasts
    rw [← (attach_untouched attached).queue fun ended => lives (lasts.ended ended)]
    exact taken

/-! Deliveries. -/

theorem consumer_serve_of_ne {d : Delivery L} {outer : List (Delivery L)} {e : Endpoint L}
    (other : ∀ source, e ≠ .consumer k source) :
    (h.serve d outer e).2.consumer k = h.consumer k := by
  cases e with
  | listener l => rfl
  | consumer j source =>
    unfold serve
    dsimp only
    split
    · rfl
    · split
      · rfl
      · rw [consumer_setConsumer, if_neg]
        · rfl
        · rintro ⟨rfl, -⟩
          exact other source rfl

/-- A turn that does not call a consumer leaves its mailbox alone. -/
theorem queue_turn_of_uncalled (uncalled : ∀ source m, h.nextCall ≠ some (.consumer k source, m))
    (lives : ¬ (h.step (.event .turn)).Ended k) (d : Destination) :
    ((h.step (.event .turn)).consumer k).queue d = (h.consumer k).queue d := by
  cases deliveries : h.deliveries with
  | nil => rw [step_turn_of_nil deliveries]
  | cons first outer =>
    have resumed := (resumed_untouched h first outer).toFiles
    cases more : first.waiting with
    | nil =>
      rw [step_turn_of_done deliveries more] at lives ⊢
      exact (resumed.trans (.of_eq rfl)).queue lives d
    | cons e waiting =>
      rw [step_turn_of_waiting deliveries more] at lives ⊢
      have other : ∀ source, e ≠ .consumer k source := by
        rintro source rfl
        apply uncalled source first.message
        rw [nextCall, deliveries]
        simp [more]
      rw [consumer_serve_of_ne other]
      exact resumed.queue (fun ended => lives ((Lasts.serve ..).ended ended)) d

/-- What a turn hands over without a listener goes to the end of the queue. -/
theorem queue_turn (orderly : Orderly h) (lives : ¬ (h.step (.event .turn)).Ended k)
    (d : Destination) : ((h.step (.event .turn)).consumer k).queue d =
      (h.consumer k).queue d ++ unheard (handing k d h (.event .turn)) := by
  by_cases called : ∃ source m, h.nextCall = some (.consumer k source, m)
  · obtain ⟨source, m, call⟩ := called
    have serves := orderly.serves call
    rw [handing, call]
    dsimp only
    cases closed : (h.consumer k).closed with
    | true =>
      obtain ⟨x, advance, same⟩ := serves.skipped closed
      rw [step, after, advance]
      simp [same]
    | false =>
      cases listener : (h.consumer k).listener with
      | some l =>
        obtain ⟨x, advance, same⟩ := serves.told l closed listener
        rw [step, after, advance]
        by_cases here : source = d <;> simp [here, same]
      | none =>
        obtain ⟨x, advance, -, queue⟩ := serves.stored closed listener
        rw [step, after, advance]
        rw [queue]
        by_cases here : d = source
        · simp [here]
        · simp [here, Ne.symm here]
  · have uncalled : ∀ source m, h.nextCall ≠ some (.consumer k source, m) :=
      fun source m call => called ⟨source, m, call⟩
    rw [queue_turn_of_uncalled uncalled lives, handing]
    split
    · rename_i j source m call
      rw [if_neg]
      · exact (List.append_nil _).symm
      · rintro ⟨rfl, -, -⟩
        exact uncalled source m call
    · exact (List.append_nil _).symm

theorem handing_of_request {move : Move L} (request : move ≠ .event .turn) :
    handing k d h move = [] := by
  unfold handing
  split
  · exact absurd rfl request
  · rfl

theorem notifying_of_request {move : Move L} (request : move ≠ .event .turn) :
    notifying k d h move = [] := by
  unfold notifying
  split
  · exact absurd rfl request
  · rfl

/-- A turn notifies the listener that is set when it calls a consumer, and nobody else for it. -/
theorem notifying_eq_heard (orderly : Orderly h) (k : ConsumerId) (d : Destination)
    (move : Move L) : notifying k d h move = heard (handing k d h move) := by
  by_cases turn : move = .event .turn
  · subst turn
    rw [notifying, handing]
    cases call : h.nextCall with
    | none => rfl
    | some called =>
      obtain ⟨e, m⟩ := called
      cases e with
      | listener l => rfl
      | consumer j source =>
        dsimp only
        by_cases here : j = k ∧ source = d
        · obtain ⟨rfl, rfl⟩ := here
          have serves := orderly.serves call
          cases closed : (h.consumer j).closed with
          | true =>
            obtain ⟨x, advance, -⟩ := serves.skipped closed
            simp [advance]
          | false =>
            cases listener : (h.consumer j).listener with
            | some l =>
              obtain ⟨x, advance, -⟩ := serves.told l closed listener
              simp [advance]
            | none =>
              obtain ⟨x, advance, -, -⟩ := serves.stored closed listener
              simp [advance]
        · have elsewhere : ¬ (j = k ∧ source = d ∧ (h.consumer k).closed = false) :=
            fun all => here ⟨all.1, all.2.1⟩
          rw [if_neg elsewhere]
          cases h.advance with
          | none => rfl
          | some r =>
            obtain ⟨t, x⟩ := r
            cases t with
            | notified l m => exact if_neg here
            | _ => rfl
  · rw [handing_of_request turn, notifying_of_request turn, heard_nil]

/-! Whole runs. -/

/-- Only an open consumer receives, and receiving leaves it open. -/
theorem receiving_of_ended {move : Move L} (ended : (h.step move).Ended k) (d : Destination) :
    receiving k d h move = [] := by
  unfold receiving
  split
  · rename_i j
    split
    · rename_i here
      obtain ⟨rfl, -⟩ := here
      cases done : h.receive j with
      | error e => rfl
      | ok r =>
        obtain ⟨m, h'⟩ := r
        have closed : (h'.consumer j).closed = true := by
          simpa only [step, after, perform, done, adopt] using ended.2
        rw [(receive_idle done).steady.closed j, (receive_ok done).1] at closed
        cases closed
    · rfl
  · rename_i j source
    split
    · rename_i here
      obtain ⟨rfl, -⟩ := here
      cases done : h.receiveFrom j source with
      | error e => rfl
      | ok r =>
        obtain ⟨m, h'⟩ := r
        obtain ⟨opened, h₁, attached, popped⟩ := receiveFrom_ok done
        have closed : (h'.consumer j).closed = true := by
          simpa only [step, after, perform, done, adopt] using ended.2
        have kept := (pop_idle h₁ j source).steady.closed j
        rw [popped, closed_of_attach attached j, opened, closed] at kept
        cases kept
    · rfl
  · rfl

/-- What waits and what a move hands over is what it receives and what waits then. -/
theorem balance_step (orderly : Orderly h) {move : Move L} (lives : ¬ (h.step move).Ended k)
    (d : Destination) :
    (h.consumer k).queue d ++ unheard (handing k d h move) =
      receiving k d h move ++ ((h.step move).consumer k).queue d := by
  by_cases turn : move = .event .turn
  · subst turn
    exact (queue_turn orderly lives d).symm
  rw [handing_of_request turn, unheard_nil, List.append_nil]
  cases move with
  | event e =>
    cases e with
    | turn => exact absurd rfl turn
    | request r =>
      cases r with
      | receive j => exact queue_receive j k d
      | receiveFrom j source => exact queue_receiveFrom j source lives d
      | _ => exact ((perform_files h (by simp) (by simp)).queue lives d).symm
  | addBroker name => rfl
  | ask b r => exact ((ask_files h b r).queue lives d).symm

theorem balance_play (orderly : Orderly h) {moves : List (Move L)}
    (lives : ¬ (h.play moves).Ended k) (d : Destination) :
    (h.consumer k).queue d ++ unheard (gathered (handing k d) h moves) =
      gathered (receiving k d) h moves ++ ((h.play moves).consumer k).queue d := by
  induction moves generalizing h with
  | nil => exact List.append_nil _
  | cons move moves ih =>
    have lived : ¬ (h.step move).Ended k := fun ended => lives ((Lasts.play _ moves).ended ended)
    rw [gathered, gathered, unheard_append, ← List.append_assoc, balance_step orderly lived,
      List.append_assoc, ih (orderly.step move) lives, List.append_assoc]
    rfl

theorem gathered_receiving_of_ended {moves : List (Move L)} (ended : h.Ended k) (d : Destination) :
    gathered (receiving k d) h moves = [] := by
  induction moves generalizing h with
  | nil => rfl
  | cons move moves ih =>
    have ended' := (Lasts.step h move).ended ended
    rw [gathered, receiving_of_ended ended', ih ended', List.append_nil]

/-- What has been received came first among what was handed over, whatever became of the rest. -/
theorem received_prefix (orderly : Orderly h) (k : ConsumerId) (d : Destination)
    (moves : List (Move L)) :
    gathered (receiving k d) h moves <+:
      (h.consumer k).queue d ++ unheard (gathered (handing k d) h moves) := by
  induction moves generalizing h with
  | nil => exact List.nil_prefix
  | cons move moves ih =>
    by_cases ended : (h.step move).Ended k
    · rw [gathered, receiving_of_ended ended, gathered_receiving_of_ended ended]
      exact List.nil_prefix
    · rw [gathered, gathered, unheard_append, ← List.append_assoc, balance_step orderly ended,
        List.append_assoc]
      exact (List.prefix_append_right_inj _).mpr (ih (orderly.step move))

theorem gathered_notifying (orderly : Orderly h) (k : ConsumerId) (d : Destination)
    (moves : List (Move L)) :
    gathered (notifying k d) h moves = heard (gathered (handing k d) h moves) := by
  induction moves generalizing h with
  | nil => rfl
  | cons move moves ih =>
    rw [gathered, gathered, heard_append, notifying_eq_heard orderly, ih (orderly.step move)]

/-- All that was handed to a consumer from a destination, with the listener set at the time. -/
def handed (k : ConsumerId) (d : Destination) (moves : List (Move L)) :
    List (Option L × Message) := gathered (handing k d) {} moves

/-- All that was received for it from there. -/
def received (k : ConsumerId) (d : Destination) (moves : List (Move L)) : List Message :=
  gathered (receiving k d) {} moves

/-- All listeners that were notified for it, and of what. -/
def notified (k : ConsumerId) (d : Destination) (moves : List (Move L)) : List (L × Message) :=
  gathered (notifying k d) {} moves

/-- After any moves, an open consumer has received, or still has in its mailbox, exactly what each
destination handed it while no listener was set, in that order; a closed one has received a first
part of that. What was handed over while a listener was set went to that listener, and the mailbox
had no part in it. What is pending is what waits from all destinations together. -/
theorem mailbox_conserves (moves : List (Move L)) (k : ConsumerId) :
    (∀ d, ((played moves).consumer k).closed = false →
      unheard (handed k d moves) =
        received k d moves ++ ((played moves).consumer k).queue d) ∧
    (∀ d, received k d moves <+: unheard (handed k d moves)) ∧
    (∀ d, notified k d moves = heard (handed k d moves)) ∧
    (∀ d m l, (played moves).nextCall = some (.consumer k d, m) →
      ((played moves).consumer k).closed = false → ((played moves).consumer k).listener = some l →
      ∃ x, (played moves).advance = some (.notified l m, x) ∧
        x.consumer k = (played moves).consumer k) ∧
    ∃ sources : Finset Destination,
      (∀ d ∉ sources, ((played moves).consumer k).queue d = []) ∧
      ((played moves).consumer k).pending =
        ∑ d ∈ sources, (((played moves).consumer k).queue d).length := by
  refine ⟨?_, ?_, ?_, ?_, Consumer.pending_eq_sum _⟩
  · intro d opened
    exact balance_play Orderly.initial (not_ended_of_open opened) d
  · intro d
    exact received_prefix Orderly.initial k d moves
  · intro d
    exact gathered_notifying Orderly.initial k d moves
  · intro d m l call opened listens
    exact ((orderly_played moves).serves call).told l opened listens

def sampleLetters : Destination := { name := "letters", kind := .queue }

def sampleParcels : Destination := { name := "parcels", kind := .queue }

def sampleSend (d : Destination) (text : String) : Move Nat :=
  .event (.request (.send 0 (some d) (.ofText (some text)) none 0))

/-- An unbound consumer, which attaches to two queues by receiving from them, and a bound one. Both
have a letter in their mailbox. The unbound one sets a listener, and a second letter is sent. -/
def sampleMail : List (Move Nat) :=
  [.event (.request .addRegistry), .event (.request .addDirectory),
    .event (.request (.registerProvider 0 0)),
    .event (.request (.connect { registry := 0, url := "vm://main" } none)),
    .event (.request (.createSession 0 false .autoAcknowledge)),
    .event (.request (.createDestination 0 "letters" .queue)),
    .event (.request (.createDestination 0 "parcels" .queue)),
    .event (.request (.createConsumer 0 none)),
    .event (.request (.receiveFrom 0 sampleLetters)),
    .event (.request (.receiveFrom 0 sampleParcels)),
    .event (.request (.createConsumer 0 (some sampleLetters))),
    .event (.request (.createProducer 0 none)),
    sampleSend sampleLetters "first", .event .turn, .event .turn, .event .turn,
    .event (.request (.setListener 0 (some 7))), sampleSend sampleLetters "second"]

/-- The listener removes itself and sends a parcel; afterwards a third letter is sent, and both
consumers receive. -/
def sampleMailAfterwards : List (Move Nat) :=
  [.event .turn, .event (.request (.setListener 0 none)), sampleSend sampleParcels "parcel",
    .event .turn, .event .turn, .event .turn, .event .turn,
    sampleSend sampleLetters "third", .event .turn, .event .turn, .event .turn,
    .event (.request (.receiveFrom 0 sampleLetters)),
    .event (.request (.receiveFrom 0 sampleParcels)), .event (.request (.receive 1))]

def sampleText (m : Message) : Option String :=
  match m.body with
  | .text body => body.text
  | _ => none

/-- The first and the third letter were kept for the unbound consumer, the second one was not. -/
theorem mailbox_conserves_letters :
    ((played (sampleMail ++ sampleMailAfterwards)).consumer 0).closed = false ∧
    unheard (handed 0 sampleLetters (sampleMail ++ sampleMailAfterwards)) =
      received 0 sampleLetters (sampleMail ++ sampleMailAfterwards) ++
        ((played (sampleMail ++ sampleMailAfterwards)).consumer 0).queue sampleLetters ∧
    (received 0 sampleLetters (sampleMail ++ sampleMailAfterwards)).map sampleText =
      [some "first"] ∧
    (((played (sampleMail ++ sampleMailAfterwards)).consumer 0).queue sampleLetters).map sampleText =
      [some "third"] ∧
    ∃ m x, sampleText m = some "second" ∧ (played sampleMail).advance = some (.notified 7 m, x) ∧
      x.consumer 0 = (played sampleMail).consumer 0 := by
  -- Each of the two runs is evaluated once.
  obtain ⟨opened, first, third⟩ :
      ((played (sampleMail ++ sampleMailAfterwards)).consumer 0).closed = false ∧
      (received 0 sampleLetters (sampleMail ++ sampleMailAfterwards)).map sampleText =
        [some "first"] ∧
      (((played (sampleMail ++ sampleMailAfterwards)).consumer 0).queue sampleLetters).map
        sampleText = [some "third"] := by
    decide +kernel
  obtain ⟨opened', listener, next⟩ : ((played sampleMail).consumer 0).closed = false ∧
      ((played sampleMail).consumer 0).listener = some 7 ∧
      (played sampleMail).nextCall.map (fun x => (x.1.consumer?, sampleText x.2)) =
        some (some 0, some "second") := by
    decide +kernel
  refine ⟨opened, (mailbox_conserves _ 0).1 sampleLetters opened, first, third, ?_⟩
  obtain ⟨⟨e, m⟩, call, same⟩ := Option.map_eq_some_iff.mp next
  cases e with
  | listener l => cases same
  | consumer k source =>
    obtain ⟨here, text⟩ := Prod.mk.inj same
    cases here
    obtain ⟨-, -, -, told, -⟩ := mailbox_conserves sampleMail 0
    obtain ⟨x, advance, kept⟩ := told source m 7 call opened' listener
    exact ⟨m, x, text, advance, kept⟩

end Hub

end Courier
