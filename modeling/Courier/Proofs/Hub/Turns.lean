import Mathlib.Algebra.GroupWithZero.Nat
import Courier.Proofs.Hub.Moves

/-!
# Turns

The innermost delivery calls its endpoints one by one, a turn for each. Between two turns anything
may be asked for, and sends among it start deliveries that stand on top of this one until they are
finished. What a delivery still has to call is left alone.
-/

namespace Courier.Hub

set_option autoImplicit false

variable {L : Type} {h h' : Hub L} {d : Delivery L} {outer : List (Delivery L)}

/-- The endpoint that the innermost delivery calls next, and the message it hands over. -/
def nextCall (h : Hub L) : Option (Endpoint L × Message) :=
  h.deliveries.head?.bind fun d => d.waiting.head?.map (·, d.message)

/-- The consumer whose listener is done when the innermost delivery goes on. -/
def atWork (h : Hub L) : Option ConsumerId := h.deliveries.head?.bind (·.serving)

/-- The next turn leaves the brokers alone, except that the consumer closes whose listener is done,
if nobody holds it any more. -/
def TurnsAside (h : Hub L) : Prop :=
  (h.step (.event .turn)).brokers = h.brokers ∨
  ∃ k, h.atWork = some k ∧ (h.consumer k).held = false ∧
    (h.step (.event .turn)).brokers = (h.closeConsumer k).brokers

/-- If the next call is to a listener of the application, the turn notifies it. -/
def Notifies (h : Hub L) : Prop :=
  ∀ l m, h.nextCall = some (.listener l, m) → ∃ h', h.advance = some (.notified l m, h')

/-- What a move has the delivery call that stands on `n` others. -/
def called (n : Nat) (h : Hub L) : Move L → Option (Endpoint L × Message)
  | .event .turn => if h.deliveries.length = n + 1 then h.nextCall else none
  | _ => none

def calls (n : Nat) : Hub L → List (Move L) → List (Endpoint L × Message)
  | _, [] => []
  | h, move :: moves => (h.called n move).toList ++ (h.step move).calls n moves

/-- The moves carry on until only `n` deliveries are left, and stop there. -/
def Completes (n : Nat) : Hub L → List (Move L) → Prop
  | h, [] => h.deliveries.length = n
  | h, move :: moves => n < h.deliveries.length ∧ (h.step move).Completes n moves

instance decidableCompletes (n : Nat) :
    (h : Hub L) → (moves : List (Move L)) → Decidable (h.Completes n moves)
  | h, [] => inferInstanceAs (Decidable (h.deliveries.length = n))
  | h, move :: moves =>
    have := decidableCompletes n (h.step move) moves
    inferInstanceAs (Decidable (n < h.deliveries.length ∧ (h.step move).Completes n moves))

section Turns

theorem deliveries_serve (h : Hub L) (d : Delivery L) (outer : List (Delivery L))
    (e : Endpoint L) :
    ∃ serving, (h.serve d outer e).2.deliveries = { d with serving } :: outer := by
  cases e with
  | listener l => exact ⟨d.serving, rfl⟩
  | consumer k source =>
    unfold serve
    dsimp only
    split
    · exact ⟨d.serving, rfl⟩
    · split
      · exact ⟨some k, rfl⟩
      · exact ⟨d.serving, rfl⟩

theorem brokers_serve (h : Hub L) (d : Delivery L) (outer : List (Delivery L)) (e : Endpoint L) :
    (h.serve d outer e).2.brokers = h.brokers := by
  cases e with
  | listener l => rfl
  | consumer k source =>
    unfold serve
    dsimp only
    split
    · rfl
    · split <;> rfl

theorem step_turn_of_nil (none : h.deliveries = []) : h.step (.event .turn) = h := by
  rw [step, after, advance_of_nil none]

theorem step_turn_of_done (deliveries : h.deliveries = d :: outer) (done : d.waiting = []) :
    h.step (.event .turn) = { h.resumed d outer with deliveries := outer } := by
  rw [step, after, advance_of_done deliveries done]

theorem step_turn_of_waiting {e : Endpoint L} {waiting : List (Endpoint L)}
    (deliveries : h.deliveries = d :: outer) (more : d.waiting = e :: waiting) :
    h.step (.event .turn) =
      ((h.resumed d outer).serve { d with serving := none, waiting } outer e).2 := by
  rw [step, after, advance_of_waiting deliveries more]

/-- A turn ends the innermost delivery, or has it call one endpoint and wait for the others. -/
theorem deliveries_turn (deliveries : h.deliveries = d :: outer) :
    (d.waiting = [] ∧ h.nextCall = none ∧ (h.step (.event .turn)).deliveries = outer) ∨
    ∃ e waiting serving, d.waiting = e :: waiting ∧ h.nextCall = some (e, d.message) ∧
      (h.step (.event .turn)).deliveries = { d with waiting, serving } :: outer := by
  cases more : d.waiting with
  | nil =>
    left
    refine ⟨rfl, ?_, ?_⟩
    · rw [nextCall, deliveries]
      simp [more]
    · rw [step_turn_of_done deliveries more]
  | cons e waiting =>
    right
    obtain ⟨serving, served⟩ :=
      deliveries_serve (h.resumed d outer) { d with serving := none, waiting } outer e
    refine ⟨e, waiting, serving, rfl, ?_, ?_⟩
    · rw [nextCall, deliveries]
      simp [more]
    · rw [step_turn_of_waiting deliveries more, served]

theorem deliveries_turn_beneath {inner : List (Delivery L)} (busy : inner ≠ [])
    (deliveries : h.deliveries = inner ++ d :: outer) :
    ∃ inner', (h.step (.event .turn)).deliveries = inner' ++ d :: outer := by
  cases inner with
  | nil => exact absurd rfl busy
  | cons d₀ inner =>
    rcases deliveries_turn deliveries with ⟨-, -, left⟩ | ⟨e, waiting, serving, -, -, left⟩
    · exact ⟨inner, left⟩
    · exact ⟨{ d₀ with waiting, serving } :: inner, left⟩

end Turns

section Brokers

theorem withdraw_deliveries (l : Link) (id : String) (h : Hub L) (deliveries : List (Delivery L))
    (d : Destination) :
    withdraw l id { h with deliveries } d = { withdraw l id h d with deliveries } := by
  cases reached : h.linked l with
  | error e =>
    have same : withdraw l id h d = h := by
      rw [withdraw, unregister, onLink, reached]
      rfl
    have reached' : ({ h with deliveries } : Hub L).linked l = .error e := reached
    rw [same, withdraw, unregister, onLink, reached']
    rfl
  | ok b =>
    have reached' : ({ h with deliveries } : Hub L).linked l = .ok b := reached
    rw [withdraw, unregister, onLink_of_linked reached', withdraw, unregister,
      onLink_of_linked reached]
    cases taken : (h.broker b).unregister d id with
    | error e =>
      have taken' : (({ h with deliveries } : Hub L).broker b).unregister d id = .error e := taken
      rw [taken']
      rfl
    | ok x =>
      have taken' : (({ h with deliveries } : Hub L).broker b).unregister d id = .ok x := taken
      rw [taken']
      rfl

/-- Closing a consumer does not depend on what is under way. -/
theorem closeConsumer_deliveries (h : Hub L) (deliveries : List (Delivery L)) (k : ConsumerId) :
    ({ h with deliveries } : Hub L).closeConsumer k = { h.closeConsumer k with deliveries } := by
  have withdraw_all : ∀ (ds : List Destination) (h : Hub L),
      ds.foldl (withdraw (h.linkOf k) (h.consumer k).id) { h with deliveries } =
        { ds.foldl (withdraw (h.linkOf k) (h.consumer k).id) h with deliveries } := by
    intro ds h
    generalize h.linkOf k = l, (h.consumer k).id = id
    induction ds generalizing h with
    | nil => rfl
    | cons d ds ih => rw [List.foldl_cons, withdraw_deliveries, ih, List.foldl_cons]
  cases opened : (h.consumer k).closed with
  | true =>
    have opened' : (({ h with deliveries } : Hub L).consumer k).closed = true := opened
    rw [closeConsumer_of_closed opened, closeConsumer_of_closed opened']
  | false =>
    have opened' : (({ h with deliveries } : Hub L).consumer k).closed = false := opened
    rw [closeConsumer_of_open opened, closeConsumer_of_open opened']
    exact congrArg (fun h' : Hub L => h'.setConsumer k _) (withdraw_all _ h)

theorem brokers_resumed (deliveries : h.deliveries = d :: outer) :
    (h.resumed d outer).brokers = h.brokers ∨
    ∃ k, h.atWork = some k ∧ (h.consumer k).held = false ∧
      (h.resumed d outer).brokers = (h.closeConsumer k).brokers := by
  cases served : d.serving with
  | none =>
    left
    rw [resumed, served]
  | some k =>
    rw [resumed, served]
    dsimp only [reap]
    split
    · left
      rfl
    · rename_i gone
      right
      refine ⟨k, ?_, ?_, ?_⟩
      · rw [atWork, deliveries]
        exact served
      · rw [consumerLive, Bool.or_eq_true, not_or] at gone
        exact Bool.eq_false_iff.mpr gone.1
      · rw [closeConsumer_deliveries]

theorem brokers_turn (h : Hub L) : h.TurnsAside := by
  unfold TurnsAside
  cases deliveries : h.deliveries with
  | nil =>
    left
    rw [step_turn_of_nil deliveries]
  | cons d outer =>
    have same : (h.step (.event .turn)).brokers = (h.resumed d outer).brokers := by
      cases more : d.waiting with
      | nil => rw [step_turn_of_done deliveries more]
      | cons e waiting => rw [step_turn_of_waiting deliveries more, brokers_serve]
    rw [same]
    exact brokers_resumed deliveries

end Brokers

section Runs

theorem called_of_request (n : Nat) (h : Hub L) {move : Move L} (request : move ≠ .event .turn) :
    h.called n move = none := by
  unfold called
  split
  · exact absurd rfl request
  · rfl

/-- A turn of the delivery that is followed makes the first of its calls. -/
theorem nextCall_of_calls {n : Nat} {moves : List (Move L)} {call : Endpoint L × Message}
    {later : List (Endpoint L × Message)} (here : h.deliveries.length = n + 1)
    (waits : h.nextCall.isSome = true) (calls : h.calls n (.event .turn :: moves) = call :: later) :
    h.nextCall = some call ∧ (h.step (.event .turn)).calls n moves = later := by
  obtain ⟨next, known⟩ := Option.isSome_iff_exists.mp waits
  rw [Hub.calls, called, if_pos here, known] at calls
  obtain ⟨rfl, rest⟩ := List.cons.inj calls
  exact ⟨known, rest⟩

theorem eq_nil_of_completes {n : Nat} {moves : List (Move L)} (done : h.deliveries.length = n)
    (completes : h.Completes n moves) : moves = [] := by
  cases moves with
  | nil => rfl
  | cons move moves =>
    have more : n < h.deliveries.length := completes.1
    omega

/-- From any point of a delivery on, whatever stands on top of it: it calls the endpoints that
still wait, each once and in their order, and leaves what is below as it was. -/
theorem calls_of_completes (moves : List (Move L)) (inner : List (Delivery L))
    (deliveries : h.deliveries = inner ++ d :: outer) (completes : h.Completes outer.length moves) :
    h.calls outer.length moves = d.waiting.map (·, d.message) ∧
      (h.play moves).deliveries = outer := by
  -- `inner` is what nested sends have put on top by now
  induction moves generalizing h inner d with
  | nil =>
    have short : h.deliveries.length = outer.length := completes
    rw [deliveries, List.length_append, List.length_cons] at short
    omega
  | cons move moves ih =>
    obtain ⟨-, completes⟩ := completes
    rw [calls, play_cons]
    by_cases request : move ≠ .event .turn
    · -- a request only adds to `inner`
      obtain ⟨new, grown⟩ := (step_changes h request).deliveries
      rw [called_of_request _ _ request]
      rw [deliveries, ← List.append_assoc] at grown
      exact ih (new ++ inner) grown.symm completes
    · obtain rfl : move = .event .turn := not_not.mp request
      cases inner with
      | cons d₀ inner =>
        -- the turn is that of a nested delivery
        have deeper : h.deliveries.length ≠ outer.length + 1 := by
          rw [deliveries, List.length_append, List.length_cons, List.length_cons]
          omega
        obtain ⟨inner', left⟩ := deliveries_turn_beneath (List.cons_ne_nil d₀ inner) deliveries
        rw [called, if_neg deeper]
        exact ih inner' left completes
      | nil =>
        have here : h.deliveries.length = outer.length + 1 := by
          rw [deliveries, List.nil_append, List.length_cons]
        rw [called, if_pos here]
        rcases deliveries_turn deliveries with
          ⟨done, call, left⟩ | ⟨e, waiting, serving, more, call, left⟩
        · obtain rfl := eq_nil_of_completes (congrArg List.length left) completes
          rw [call, done]
          exact ⟨rfl, left⟩
        · obtain ⟨later, below⟩ := ih [] left completes
          rw [call, later, more]
          exact ⟨rfl, below⟩

theorem notifies (h : Hub L) : h.Notifies := by
  intro l m call
  cases deliveries : h.deliveries with
  | nil =>
    rw [nextCall, deliveries] at call
    cases call
  | cons d outer =>
    rcases deliveries_turn deliveries with ⟨-, none, -⟩ | ⟨e, waiting, serving, more, some, -⟩
    · rw [none] at call
      cases call
    · rw [some] at call
      cases call
      rw [advance_of_waiting deliveries more]
      exact ⟨_, rfl⟩

/-- Deliveries that are left to themselves come to their end. -/
theorem completes_turns (n : Nat) (inner : List (Delivery L))
    (deliveries : h.deliveries = inner ++ outer)
    (left : (inner.map (·.waiting.length + 1)).sum = n) :
    h.Completes outer.length (List.replicate n (.event .turn)) := by
  induction n generalizing h inner with
  | zero =>
    cases inner with
    | nil => exact congrArg List.length deliveries
    | cons d inner =>
      rw [List.map_cons, List.sum_cons] at left
      omega
  | succ n ih =>
    cases inner with
    | nil => cases left
    | cons d inner =>
      rw [List.map_cons, List.sum_cons] at left
      constructor
      · rw [deliveries, List.length_append, List.length_cons]
        omega
      · rcases deliveries_turn deliveries with
          ⟨done, -, next⟩ | ⟨e, waiting, serving, more, -, next⟩
        · apply ih inner next
          rw [done, List.length_nil] at left
          omega
        · apply ih ({ d with waiting, serving } :: inner) next
          rw [List.map_cons, List.sum_cons]
          rw [more, List.length_cons] at left
          dsimp only
          omega

end Runs

end Courier.Hub
