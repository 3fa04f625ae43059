import Courier.Hub.Session
import Courier.Proofs.Broker

/-!
# The hub's lists

How a change to one of the hub's lists shows through its accessors, and when a broker is in reach
of a link.
-/

namespace Courier

set_option autoImplicit false

section Lists
variable {α : Type}

theorem getD_set (l : List α) (i : Nat) (x : α) (j : Nat) (fallback : α) :
    (l.set i x).getD j fallback = if j = i ∧ i < l.length then x else l.getD j fallback := by
  simp only [List.getD_eq_getElem?_getD, List.getElem?_set]
  by_cases same : i = j
  · subst same
    by_cases inside : i < l.length <;> simp [inside]
  · have other : ¬ j = i := fun h => same h.symm
    simp [same, other]

/-- What an update does not touch can be read before or after it. -/
theorem view_getD_set {β : Type} (view : α → β) {l : List α} {i : Nat} {x : α} {fallback : α}
    (same : view x = view (l.getD i fallback)) (j : Nat) :
    view ((l.set i x).getD j fallback) = view (l.getD j fallback) := by
  rw [getD_set]
  split
  · rename_i here
    rw [same, here.1]
  · rfl

theorem set_getD_self (l : List α) (i : Nat) (fallback : α) : l.set i (l.getD i fallback) = l := by
  apply List.ext_getElem?
  intro j
  rw [List.getElem?_set]
  split
  · rename_i here
    subst here
    split
    · rename_i inside
      rw [List.getD_eq_getElem?_getD, List.getElem?_eq_getElem inside, Option.getD_some]
    · rename_i beyond
      rw [List.getElem?_eq_none (Nat.le_of_not_lt beyond)]
  · rfl

theorem getD_append_singleton (l : List α) (x : α) (j : Nat) (fallback : α) :
    (l ++ [x]).getD j fallback = if j = l.length then x else l.getD j fallback := by
  simp only [List.getD_eq_getElem?_getD, List.getElem?_append]
  by_cases inside : j < l.length
  · have earlier : j ≠ l.length := by omega
    simp [inside, earlier]
  · by_cases last : j = l.length
    · simp [last]
    · have beyond : ¬ j - l.length = 0 := by omega
      simp [inside, last, beyond]

end Lists

namespace Hub

variable {L : Type}

@[simp] theorem broker_setBroker (h : Hub L) (b : BrokerId) (x : Broker (Endpoint L))
    (b' : BrokerId) :
    (h.setBroker b x).broker b' = if b' = b ∧ b < h.brokers.length then x else h.broker b' :=
  getD_set ..

theorem broker_setBroker_self {h : Hub L} {b : BrokerId} (inside : b < h.brokers.length)
    (x : Broker (Endpoint L)) : (h.setBroker b x).broker b = x := by
  rw [broker_setBroker, if_pos ⟨rfl, inside⟩]

theorem broker_setBroker_of_ne {h : Hub L} {b b' : BrokerId} (other : b' ≠ b)
    (x : Broker (Endpoint L)) : (h.setBroker b x).broker b' = h.broker b' := by
  rw [broker_setBroker, if_neg fun here => other here.1]

@[simp] theorem connection_setConnection (h : Hub L) (c : ConnectionId) (x : Connection)
    (c' : ConnectionId) :
    (h.setConnection c x).connection c' =
      if c' = c ∧ c < h.connections.length then x else h.connection c' :=
  getD_set ..

theorem connection_setConnection_of_lt {h : Hub L} {c : ConnectionId}
    (made : c < h.connections.length) (x : Connection) (c' : ConnectionId) :
    (h.setConnection c x).connection c' = if c' = c then x else h.connection c' := by
  rw [connection_setConnection]
  exact if_congr (and_iff_left made) rfl rfl

@[simp] theorem session_setSession (h : Hub L) (s : SessionId) (x : Session) (s' : SessionId) :
    (h.setSession s x).session s' = if s' = s ∧ s < h.sessions.length then x else h.session s' :=
  getD_set ..

@[simp] theorem consumer_setConsumer (h : Hub L) (k : ConsumerId) (x : Consumer L)
    (k' : ConsumerId) :
    (h.setConsumer k x).consumer k' =
      if k' = k ∧ k < h.consumers.length then x else h.consumer k' :=
  getD_set ..

@[simp] theorem producer_setProducer (h : Hub L) (p : ProducerId) (x : Producer) (p' : ProducerId) :
    (h.setProducer p x).producer p' =
      if p' = p ∧ p < h.producers.length then x else h.producer p' :=
  getD_set ..

theorem consumer_setConsumer_of_lt {h : Hub L} {k : ConsumerId} (made : k < h.consumers.length)
    (x : Consumer L) (j : ConsumerId) :
    (h.setConsumer k x).consumer j = if j = k then x else h.consumer j := by
  rw [consumer_setConsumer]
  exact if_congr (and_iff_left made) rfl rfl

@[simp] theorem directory_setDirectory (h : Hub L) (d : DirectoryId) (t : Table String BrokerId)
    (d' : DirectoryId) :
    (h.setDirectory d t).directory d' =
      if d' = d ∧ d < h.directories.length then t else h.directory d' :=
  getD_set ..

@[simp] theorem broker_addBroker (h : Hub L) (name : String) (b : BrokerId) :
    (h.addBroker name).2.broker b = if b = h.brokers.length then { name } else h.broker b :=
  getD_append_singleton ..

theorem connection_addConnection (h : Hub L) (x : Connection) (c : ConnectionId) :
    ({ h with connections := h.connections ++ [x] } : Hub L).connection c =
      if c = h.connections.length then x else h.connection c :=
  getD_append_singleton ..

theorem connection_addConnection_of_lt {h : Hub L} {c : ConnectionId}
    (made : c < h.connections.length) (x : Connection) :
    ({ h with connections := h.connections ++ [x] } : Hub L).connection c = h.connection c := by
  rw [connection_addConnection, if_neg (Nat.ne_of_lt made)]

theorem session_addSession (h : Hub L) (x : Session) (s : SessionId) :
    ({ h with sessions := h.sessions ++ [x] } : Hub L).session s =
      if s = h.sessions.length then x else h.session s :=
  getD_append_singleton ..

theorem producer_addProducer (h : Hub L) (x : Producer) (p : ProducerId) :
    ({ h with producers := h.producers ++ [x] } : Hub L).producer p =
      if p = h.producers.length then x else h.producer p :=
  getD_append_singleton ..

theorem consumer_addConsumer (h : Hub L) (x : Consumer L) (k : ConsumerId) :
    ({ h with consumers := h.consumers ++ [x] } : Hub L).consumer k =
      if k = h.consumers.length then x else h.consumer k :=
  getD_append_singleton ..

/-! Numbers beyond those given out stand for something empty and closed, so what is open has been
made. -/

theorem broker_of_le {h : Hub L} {b : BrokerId} (beyond : h.brokers.length ≤ b) :
    h.broker b = { name := "" } := by
  rw [broker, List.getD_eq_getElem?_getD, List.getElem?_eq_none beyond]
  rfl

theorem connection_of_le {h : Hub L} {c : ConnectionId} (beyond : h.connections.length ≤ c) :
    h.connection c =
      { link := ⟨0, "", 0, "", none⟩, defaults := {}, state := .closed, held := false } := by
  rw [connection, List.getD_eq_getElem?_getD, List.getElem?_eq_none beyond]
  rfl

theorem session_of_le {h : Hub L} {s : SessionId} (beyond : h.sessions.length ≤ s) :
    h.session s =
      { id := "", connection := 0, transacted := false, mode := .autoAcknowledge, isOpen := false,
        held := false } := by
  rw [session, List.getD_eq_getElem?_getD, List.getElem?_eq_none beyond]
  rfl

theorem producer_of_le {h : Hub L} {p : ProducerId} (beyond : h.producers.length ≤ p) :
    h.producer p =
      { session := 0, destination := none, quality := {}, closed := true, held := false } := by
  rw [producer, List.getD_eq_getElem?_getD, List.getElem?_eq_none beyond]
  rfl

theorem consumer_of_le {h : Hub L} {k : ConsumerId} (beyond : h.consumers.length ≤ k) :
    h.consumer k =
      { id := "", session := 0, destination := none, closed := true, held := false } := by
  rw [consumer, List.getD_eq_getElem?_getD, List.getElem?_eq_none beyond]
  rfl

theorem broker_lt_of_site {h : Hub L} {b : BrokerId} {d : Destination}
    {s : Site (Endpoint L)} (site : (h.broker b).destinations.get? d = some s) :
    b < h.brokers.length := by
  by_contra beyond
  rw [broker_of_le (Nat.le_of_not_lt beyond)] at site
  cases site

theorem consumer_lt_of_open {h : Hub L} {k : ConsumerId} (opened : (h.consumer k).closed = false) :
    k < h.consumers.length := by
  by_contra beyond
  rw [consumer_of_le (Nat.le_of_not_lt beyond)] at opened
  cases opened

theorem producer_lt_of_open {h : Hub L} {p : ProducerId} (opened : (h.producer p).closed = false) :
    p < h.producers.length := by
  by_contra beyond
  rw [producer_of_le (Nat.le_of_not_lt beyond)] at opened
  cases opened

theorem session_lt_of_open {h : Hub L} {s : SessionId} (opened : (h.session s).isOpen = true) :
    s < h.sessions.length := by
  by_contra beyond
  rw [session_of_le (Nat.le_of_not_lt beyond)] at opened
  cases opened

theorem connection_lt_of_open {h : Hub L} {c : ConnectionId}
    (opened : (h.connection c).state ≠ .closed) : c < h.connections.length := by
  by_contra beyond
  rw [connection_of_le (Nat.le_of_not_lt beyond)] at opened
  exact opened rfl

theorem not_mem_attached_of_le {h : Hub L} {k : ConsumerId} (beyond : h.consumers.length ≤ k)
    (d : Destination) : d ∉ (h.consumer k).attached := by
  rw [consumer_of_le beyond]
  exact List.not_mem_nil

theorem findBroker_setDirectory (h : Hub L) (d : DirectoryId) (t : Table String BrokerId)
    (dir : DirectoryId) (name : String) :
    (h.setDirectory d t).findBroker dir name =
      if dir = d ∧ d < h.directories.length then t.get? name else h.findBroker dir name := by
  rw [findBroker, directory_setDirectory]
  split <;> rfl

/-! Links. -/

theorem linked_ok {h : Hub L} {l : Link} {b : BrokerId} :
    h.linked l = .ok b ↔ h.findBroker l.directory l.brokerName = some b ∧ b = l.broker := by
  unfold linked lookup
  cases h.findBroker l.directory l.brokerName with
  | none => simp
  | some b' =>
    by_cases same : b' = l.broker
    · subst same
      simp [eq_comm]
    · simp only [if_neg same, Option.some.injEq, reduceCtorEq, false_iff, not_and]
      rintro rfl
      exact same

theorem onLink_of_linked {h : Hub L} {l : Link} {b : BrokerId} (reached : h.linked l = .ok b)
    (f : Broker (Endpoint L) → Except Error (Broker (Endpoint L))) :
    h.onLink l f = (f (h.broker b)).map (h.setBroker b) := by
  rw [onLink, reached]
  rfl

theorem onLink_ok {h h' : Hub L} {l : Link}
    {f : Broker (Endpoint L) → Except Error (Broker (Endpoint L))} (done : h.onLink l f = .ok h') :
    ∃ b x, h.linked l = .ok b ∧ f (h.broker b) = .ok x ∧ h' = h.setBroker b x := by
  obtain ⟨b, reached, done⟩ := ok_of_bind done
  obtain ⟨x, changed, rfl⟩ := ok_of_map done
  exact ⟨b, x, reached, changed, rfl⟩

end Hub

end Courier
