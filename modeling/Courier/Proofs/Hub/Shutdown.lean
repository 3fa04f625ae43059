import Courier.Proofs.Hub.Closing

/-!
# Shutting down

A session closes all its consumers, and a connection shuts its sessions before it gives up its
temporary destinations: by then nobody is left on them. The ledger stays in order at each step on
the way.
-/

namespace Courier

set_option autoImplicit false

/-- What each step achieves for its element, and no step undoes, holds in the end. -/
theorem foldl_achieves {σ α : Type} {f : σ → α → σ} {I : σ → Prop} {Q : α → σ → Prop}
    (invariant : ∀ s a, I s → I (f s a)) (achieve : ∀ s a, I s → Q a (f s a))
    (keep : ∀ s a a', I s → Q a s → Q a (f s a')) (l : List α) {s : σ} (start : I s) :
    I (l.foldl f s) ∧ ∀ a ∈ l, Q a (l.foldl f s) := by
  induction l using List.reverseRecOn with
  | nil => exact ⟨start, by intro a mem; cases mem⟩
  | append_singleton l last ih =>
    obtain ⟨holds, ih⟩ := ih
    rw [List.foldl_append, List.foldl_cons, List.foldl_nil]
    refine ⟨invariant _ last holds, ?_⟩
    intro a mem
    rw [List.mem_append, List.mem_singleton] at mem
    rcases mem with earlier | rfl
    · exact keep _ a last holds (ih a earlier)
    · exact achieve _ a holds

namespace Hub

variable {L : Type} {h h' : Hub L} {past : List (ConsumerId × Destination)}

/-- Things have closed, and nothing else has happened to sessions, consumers and deliveries. -/
structure Shrinks (h h' : Hub L) : Prop extends Still h h' where
  isOpen : ∀ s, (h'.session s).isOpen = true → (h.session s).isOpen = true
  closed : ∀ k, (h'.consumer k).closed = false → (h.consumer k).closed = false
  held : ∀ k, (h'.consumer k).held = (h.consumer k).held
  deliveries : h'.deliveries = h.deliveries

namespace Shrinks

theorem of_still (still : Still h h') (sessions : h'.sessions = h.sessions)
    (consumers : h'.consumers = h.consumers) (deliveries : h'.deliveries = h.deliveries) :
    Shrinks h h' where
  toStill := still
  isOpen s opened := by simpa only [session, sessions] using opened
  closed k opened := by simpa only [consumer, consumers] using opened
  held k := by simp only [consumer, consumers]
  deliveries := deliveries

theorem refl (h : Hub L) : Shrinks h h := of_still (.refl h) rfl rfl rfl

theorem trans {h'' : Hub L} (first : Shrinks h h') (second : Shrinks h' h'') : Shrinks h h'' where
  toStill := first.toStill.trans second.toStill
  isOpen s opened := first.isOpen s (second.isOpen s opened)
  closed k opened := first.closed k (second.closed k opened)
  held k := (second.held k).trans (first.held k)
  deliveries := second.deliveries.trans first.deliveries

theorem closed_of_closed (shrinks : Shrinks h h') {k : ConsumerId}
    (closed : (h.consumer k).closed = true) : (h'.consumer k).closed = true := by
  by_contra opened
  rw [shrinks.closed k (by simpa using opened)] at closed
  cases closed

theorem shut_of_shut (shrinks : Shrinks h h') {s : SessionId}
    (shut : (h.session s).isOpen = false) : (h'.session s).isOpen = false := by
  by_contra opened
  rw [shrinks.isOpen s (by simpa using opened)] at shut
  cases shut

end Shrinks

theorem closeConsumer_shrinks (h : Hub L) (k : ConsumerId) : Shrinks h (h.closeConsumer k) := by
  cases opened : (h.consumer k).closed with
  | true =>
    rw [closeConsumer_of_closed opened]
    exact .refl h
  | false =>
  have closes := closeConsumer_closes opened
  exact {
    toStill := closes.toStill
    isOpen := by
      intro s open_s
      rwa [session, closes.sameSessions] at open_s
    closed := by
      intro j open_j
      by_cases same : j = k
      · rw [same, closes.closed] at open_j
        cases open_j
      · rwa [closes.others j same] at open_j
    held := closes.held
    deliveries := closes.sameDeliveries }

theorem closeConsumer_closed (h : Hub L) (k : ConsumerId) :
    ((h.closeConsumer k).consumer k).closed = true := by
  cases opened : (h.consumer k).closed with
  | true => rwa [closeConsumer_of_closed opened]
  | false => exact (closeConsumer_closes opened).closed

theorem sessions_closeConsumer (h : Hub L) (k : ConsumerId) :
    (h.closeConsumer k).sessions = h.sessions := by
  cases opened : (h.consumer k).closed with
  | true => rw [closeConsumer_of_closed opened]
  | false => exact (closeConsumer_closes opened).sameSessions

/-- Closes a consumer if it is one of the session. -/
def closeIn (s : SessionId) (h : Hub L) (k : ConsumerId) : Hub L :=
  if (h.consumer k).session = s then h.closeConsumer k else h

theorem closeIn_shrinks (s : SessionId) (h : Hub L) (k : ConsumerId) :
    Shrinks h (h.closeIn s k) := by
  unfold closeIn
  split
  · exact closeConsumer_shrinks h k
  · exact .refl h

/-- A session that is shut, with its producers, but whose consumers are still open. -/
def markShut (h : Hub L) (s : SessionId) : Hub L :=
  { h.setSession s { h.session s with isOpen := false } with
    producers := h.producers.map fun p => if p.session = s then { p with closed := true } else p }

theorem session_markShut {s : SessionId} (opened : (h.session s).isOpen = true) (t : SessionId) :
    (h.markShut s).session t =
      if t = s then { h.session s with isOpen := false } else h.session t := by
  refine (session_setSession ..).trans ?_
  exact if_congr (and_iff_left (session_lt_of_open opened)) rfl rfl

theorem still_markShut (h : Hub L) (s : SessionId) : Still h (h.markShut s) :=
  have still : Still h (h.setSession s { h.session s with isOpen := false }) := .setSession rfl
  { still with }

theorem markShut_shrinks {s : SessionId} (opened : (h.session s).isOpen = true) :
    Shrinks h (h.markShut s) where
  toStill := still_markShut h s
  isOpen := by
    intro t open_t
    rw [session_markShut opened] at open_t
    split at open_t
    · cases open_t
    · exact open_t
  closed _ open_k := open_k
  held _ := rfl
  deliveries := rfl

/-- Every open consumer belongs to an open session. -/
def Sealed (h : Hub L) : Prop :=
  ∀ k, (h.consumer k).closed = false → (h.session (h.consumer k).session).isOpen = true

/-- The session has shut, with all its consumers. -/
structure Shuts (h h' : Hub L) (s : SessionId) : Prop extends Shrinks h h' where
  shut : (h'.session s).isOpen = false
  others : ∀ t, t ≠ s → h'.session t = h.session t
  emptied : ∀ k, (h'.consumer k).session = s → (h'.consumer k).closed = true

theorem shutdownSession_of_shut {s : SessionId} (shut : (h.session s).isOpen = false) :
    h.shutdownSession s = h := by
  simp only [shutdownSession, shut, Bool.false_eq_true, if_false]

theorem shutdownSession_of_open {s : SessionId} (opened : (h.session s).isOpen = true) :
    h.shutdownSession s = (List.range h.consumers.length).foldl (closeIn s) (h.markShut s) := by
  simp only [shutdownSession, opened, if_true]
  rfl

/-- Going through consumers closes those of the session, and leaves the sessions alone. -/
theorem foldl_closeIn (s : SessionId) (ks : List ConsumerId) (h : Hub L) :
    (Shrinks h (ks.foldl (closeIn s) h) ∧ (ks.foldl (closeIn s) h).sessions = h.sessions) ∧
      ∀ k ∈ ks, (h.consumer k).session = s →
        ((ks.foldl (closeIn s) h).consumer k).closed = true := by
  refine foldl_achieves (I := fun h' => Shrinks h h' ∧ h'.sessions = h.sessions)
    (Q := fun k h' => (h.consumer k).session = s → (h'.consumer k).closed = true)
    ?_ ?_ ?_ ks ⟨.refl h, rfl⟩
  · rintro h₁ k ⟨shrinks, same⟩
    refine ⟨shrinks.trans (closeIn_shrinks s h₁ k), Eq.trans ?_ same⟩
    unfold closeIn
    split
    · exact sessions_closeConsumer h₁ k
    · rfl
  · rintro h₁ k ⟨shrinks, -⟩ here
    rw [closeIn, if_pos ((shrinks.session k).trans here)]
    exact closeConsumer_closed h₁ k
  · rintro h₁ k k' - closed here
    exact (closeIn_shrinks s h₁ k').closed_of_closed (closed here)

theorem shutdownSession_shuts (sealed : Sealed h) (s : SessionId) :
    Shuts h (h.shutdownSession s) s := by
  cases opened : (h.session s).isOpen with
  | false =>
    rw [shutdownSession_of_shut opened]
    refine { Shrinks.refl h with shut := opened, others := fun _ _ => rfl, emptied := ?_ }
    intro k here
    by_contra open_k
    have open_s := sealed k (by simpa using open_k)
    rw [here, opened] at open_s
    cases open_s
  | true =>
  rw [shutdownSession_of_open opened]
  have first := markShut_shrinks opened
  obtain ⟨⟨second, same⟩, emptied⟩ :=
    foldl_closeIn s (List.range h.consumers.length) (h.markShut s)
  generalize (List.range h.consumers.length).foldl (closeIn s) (h.markShut s) = h₁ at *
  have session_same : ∀ t, h₁.session t = (h.markShut s).session t := by
    intro t
    rw [session, same, session]
  refine { first.trans second with shut := ?_, others := ?_, emptied := ?_ }
  · rw [session_same, session_markShut opened, if_pos rfl]
  · intro t other
    rw [session_same, session_markShut opened, if_neg other]
  · intro k here
    by_contra open_k
    have made := consumer_lt_of_open (by simpa using open_k)
    rw [second.consumers, first.consumers] at made
    exact open_k (emptied k (List.mem_range.mpr made) ((second.session k).symm.trans here))

theorem Consistent.shutdownSession (inv : Consistent h past) (s : SessionId) :
    Consistent (h.shutdownSession s) past := by
  cases opened : (h.session s).isOpen with
  | false => rwa [shutdownSession_of_shut opened]
  | true =>
    rw [shutdownSession_of_open opened]
    refine List.foldlRecOn (motive := fun h' => Consistent h' past) _ _ ?_ ?_
    · exact Frame.consistent (.of_still (still_markShut h s) rfl rfl) inv
    · intro h₁ inv₁ k _
      unfold closeIn
      split
      · exact inv₁.closeConsumer k
      · exact inv₁

theorem Sealed.closeConsumer (sealed : Sealed h) (k : ConsumerId) : Sealed (h.closeConsumer k) := by
  have shrinks := closeConsumer_shrinks h k
  intro j open_j
  rw [shrinks.session, session, sessions_closeConsumer]
  exact sealed j (shrinks.closed j open_j)

theorem Sealed.shutdownSession (sealed : Sealed h) (s : SessionId) :
    Sealed (h.shutdownSession s) := by
  have shuts := shutdownSession_shuts sealed s
  intro k open_k
  have elsewhere : ((h.shutdownSession s).consumer k).session ≠ s := by
    intro here
    rw [shuts.emptied k here] at open_k
    cases open_k
  rw [shuts.others _ elsewhere, shuts.session]
  exact sealed k (shuts.closed k open_k)

/-- Shuts a session if it is one of the connection. -/
def shutIn (c : ConnectionId) (h : Hub L) (s : SessionId) : Hub L :=
  if (h.session s).connection = c then h.shutdownSession s else h

/-- Going through sessions shuts those of the connection. -/
theorem foldl_shutIn (sealed : Sealed h) (c : ConnectionId) (ss : List SessionId) :
    (Shrinks h (ss.foldl (shutIn c) h) ∧ Sealed (ss.foldl (shutIn c) h)) ∧
      ∀ s ∈ ss, (h.session s).connection = c →
        ((ss.foldl (shutIn c) h).session s).isOpen = false := by
  refine foldl_achieves (I := fun h' => Shrinks h h' ∧ Sealed h')
    (Q := fun s h' => (h.session s).connection = c → (h'.session s).isOpen = false)
    ?_ ?_ ?_ ss ⟨.refl h, sealed⟩
  · rintro h₁ s ⟨shrinks, sealed₁⟩
    unfold shutIn
    split
    · exact ⟨shrinks.trans (shutdownSession_shuts sealed₁ s).toShrinks, sealed₁.shutdownSession s⟩
    · exact ⟨shrinks, sealed₁⟩
  · rintro h₁ s ⟨shrinks, sealed₁⟩ here
    rw [shutIn, if_pos ((shrinks.connection s).trans here)]
    exact (shutdownSession_shuts sealed₁ s).shut
  · rintro h₁ s s' ⟨-, sealed₁⟩ shut here
    unfold shutIn
    split
    · exact (shutdownSession_shuts sealed₁ s').shut_of_shut (shut here)
    · exact shut here

/-- A connection that is closed with its sessions, but still holds what it has on its broker. -/
def emptied (h : Hub L) (c : ConnectionId) : Hub L :=
  let h := h.setConnection c { h.connection c with state := .closed }
  let h := (List.range h.sessions.length).foldl (shutIn c) h
  h.setConnection c { h.connection c with clientId := none }

theorem closeConnection_of_closed {c : ConnectionId} (closed : (h.connection c).state = .closed) :
    h.closeConnection c = (.ok (), h) := by
  simp only [closeConnection, closed, if_true]

theorem closeConnection_of_open {c : ConnectionId} (opened : (h.connection c).state ≠ .closed) :
    (∃ h', (h.emptied c).closeLink (h.connection c).link = .ok h' ∧
      h.closeConnection c = (.ok (), h')) ∨
    ∃ e, (h.emptied c).closeLink (h.connection c).link = .error e ∧
      h.closeConnection c = (.error e, h.emptied c) := by
  generalize closing : h.closeConnection c = r
  simp only [closeConnection, if_neg opened] at closing
  split at closing
  · exact .inl ⟨_, ‹_›, closing.symm⟩
  · exact .inr ⟨_, ‹_›, closing.symm⟩

/-- What holds of a connection when it has been emptied. -/
theorem emptied_spec (sealed : Sealed h) (c : ConnectionId) :
    Shrinks h (h.emptied c) ∧ Sealed (h.emptied c) ∧
      ∀ s, (h.session s).connection = c → ((h.emptied c).session s).isOpen = false := by
  have marked : Frame h (h.setConnection c { h.connection c with state := .closed }) :=
    .setConnection rfl
  have shrinks : Shrinks h (h.setConnection c { h.connection c with state := .closed }) :=
    .of_still marked.toStill rfl rfl rfl
  have sealed' : Sealed (h.setConnection c { h.connection c with state := .closed }) := sealed
  obtain ⟨⟨emptying, sealed₁⟩, shut⟩ := foldl_shutIn sealed' c (List.range h.sessions.length)
  have forgot : Frame _ (h.emptied c) := .setConnection rfl
  have whole : Shrinks h (h.emptied c) :=
    (shrinks.trans emptying).trans (.of_still forgot.toStill rfl rfl rfl)
  refine ⟨whole, sealed₁, ?_⟩
  intro s here
  by_contra open_s
  have made := session_lt_of_open (by simpa using open_s)
  rw [whole.sessions] at made
  exact open_s (shut s (List.mem_range.mpr made) here)

namespace Consistent

theorem emptied (inv : Consistent h past) (c : ConnectionId) : Consistent (h.emptied c) past := by
  have marked : Frame h (h.setConnection c { h.connection c with state := .closed }) :=
    .setConnection rfl
  have forgot : Frame _ (h.emptied c) := .setConnection rfl
  apply forgot.consistent
  refine List.foldlRecOn (motive := fun h' => Consistent h' past) _ _ (marked.consistent inv) ?_
  intro h₁ inv₁ s _
  unfold shutIn
  split
  · exact inv₁.shutdownSession s
  · exact inv₁

/-- A connection without open consumers gives up what it holds on its broker. -/
theorem closeLink (inv : Consistent h past) {c : ConnectionId} (made : c < h.connections.length)
    (deserted : ∀ k, (h.consumer k).closed = false →
      (h.session (h.consumer k).session).connection ≠ c)
    (done : h.closeLink (h.connection c).link = .ok h') : Consistent h' past := by
  obtain ⟨b, x, reached, released, rfl⟩ := onLink_ok done
  cases released
  have found := (linked_ok.mp reached).1
  apply inv.dropSites found
  · intro d s after
    rw [Broker.releaseConnection, Table.get?_filter, Option.filter_eq_some_iff] at after
    exact after.1
  · intro d s before after
    rw [Broker.releaseConnection, Table.get?_filter, before] at after
    have owner : s.owner = some (h.connection c).link.owner := by simpa using after
    -- a consumer listed here would belong to the connection
    by_contra occupied
    obtain ⟨r, mem⟩ := List.exists_mem_of_ne_nil _ occupied
    have listed : r.id ∈ (h.broker b).consumerIds d := by
      rw [Broker.consumerIds_of_some before]
      exact List.mem_map.mpr ⟨r, mem, rfl⟩
    rw [inv.ledger.registered found] at listed
    obtain ⟨k, mem, at_b, opened, -⟩ := mem_roster.mp listed
    have attached := (inv.ledger.attached opened d).mpr mem
    have same := inv.ledger.owned before owner opened at_b attached
    exact deserted k opened (inv.named.owner_inj
      (inv.wired.connection_of_consumer_lt (consumer_lt_of_open opened)) made same)
  · rfl

theorem closeConnection (inv : Consistent h past) (sealed : Sealed h) (c : ConnectionId) :
    Consistent (h.closeConnection c).2 past := by
  by_cases closed : (h.connection c).state = .closed
  · rw [closeConnection_of_closed closed]
    exact inv
  obtain ⟨shrinks, sealed', shut⟩ := emptied_spec sealed c
  have inv' := inv.emptied c
  rcases closeConnection_of_open closed with ⟨h', done, same⟩ | ⟨e, -, same⟩
  · rw [same]
    rw [← shrinks.link] at done
    refine inv'.closeLink ?_ ?_ done
    · rw [shrinks.connections]
      exact connection_lt_of_open closed
    · intro k opened here
      rw [shrinks.connection] at here
      have open_s := sealed' k opened
      rw [shut _ here] at open_s
      cases open_s
  · rw [same]
    exact inv'

end Consistent

theorem onLink_shrinks {l : Link} {f : Broker (Endpoint L) → Except Error (Broker (Endpoint L))}
    (done : h.onLink l f = .ok h') : Shrinks h h' := by
  obtain ⟨b, x, -, -, rfl⟩ := onLink_ok done
  exact .of_still (.setBroker h b x) rfl rfl rfl

theorem closeConnection_shrinks (sealed : Sealed h) (c : ConnectionId) :
    Shrinks h (h.closeConnection c).2 := by
  by_cases closed : (h.connection c).state = .closed
  · rw [closeConnection_of_closed closed]
    exact .refl h
  have shrinks := (emptied_spec sealed c).1
  rcases closeConnection_of_open closed with ⟨h', done, same⟩ | ⟨e, -, same⟩
  · rw [same]
    exact shrinks.trans (onLink_shrinks done)
  · rw [same]
    exact shrinks

theorem Sealed.closeConnection (sealed : Sealed h) (c : ConnectionId) :
    Sealed (h.closeConnection c).2 := by
  by_cases closed : (h.connection c).state = .closed
  · rw [closeConnection_of_closed closed]
    exact sealed
  have sealed' := (emptied_spec sealed c).2.1
  rcases closeConnection_of_open closed with ⟨h', done, same⟩ | ⟨e, -, same⟩
  · rw [same]
    obtain ⟨b, x, -, -, rfl⟩ := onLink_ok done
    exact sealed'
  · rw [same]
    exact sealed'

theorem closeConnection_shut (sealed : Sealed h) {c : ConnectionId}
    (opened : (h.connection c).state ≠ .closed) {s : SessionId}
    (here : (h.session s).connection = c) :
    ((h.closeConnection c).2.session s).isOpen = false := by
  have shut := (emptied_spec sealed c).2.2 s here
  rcases closeConnection_of_open opened with ⟨h', done, same⟩ | ⟨e, -, same⟩
  · rw [same]
    obtain ⟨b, x, -, -, rfl⟩ := onLink_ok done
    exact shut
  · rw [same]
    exact shut

end Hub

end Courier
