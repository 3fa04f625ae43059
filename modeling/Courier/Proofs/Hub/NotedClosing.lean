import Courier.Proofs.Hub.Tracking

/-!
# Closing what is noted

A connection that closes shuts the sessions it has noted, as far as they can be reached, and a
session closes such producers and consumers. Nobody can tell that from closing all there is.
-/

namespace Courier

set_option autoImplicit false

/-- What is kept when both sides go on, and when the longer list goes on alone, holds in the end. -/
theorem foldl_related {σ τ α : Type} {R : σ → τ → Prop} {f : σ → α → σ} {g : τ → α → τ}
    {l l' : List α} (sub : l.Sublist l') (distinct : l'.Nodup)
    (skip : ∀ x y a, a ∈ l' → a ∉ l → R x y → R x (g y a))
    (both : ∀ x y a, a ∈ l → R x y → R (f x a) (g y a)) {x : σ} {y : τ} (start : R x y) :
    R (l.foldl f x) (l'.foldl g y) := by
  induction sub generalizing x y with
  | slnil => exact start
  | cons a sub ih =>
    obtain ⟨new, distinct⟩ := List.nodup_cons.mp distinct
    refine ih distinct (fun x y b mem => skip x y b (List.mem_cons_of_mem a mem)) both ?_
    exact skip x y a List.mem_cons_self (fun mem => new (sub.subset mem)) start
  | cons_cons a sub ih =>
    obtain ⟨new, distinct⟩ := List.nodup_cons.mp distinct
    refine ih distinct ?_ (fun x y b mem => both x y b (List.mem_cons_of_mem a mem))
      (both x y a List.mem_cons_self start)
    intro x y b mem other
    refine skip x y b (List.mem_cons_of_mem a mem) ?_
    intro mem'
    rcases List.mem_cons.mp mem' with rfl | mem'
    · exact new mem
    · exact other mem'

def Session.shut (s : Session) : Session := { s with isOpen := false }

def Producer.shut (p : Producer) : Producer := { p with closed := true }

theorem Producer.shut_of_closed {p : Producer} (closed : p.closed = true) : p.shut = p := by
  rw [shut, ← closed]

theorem Producer.unheld_of_open {p : Producer} (unwanted : ¬ p.Wanted) (opened : p.closed = false) :
    p.held = false := Bool.eq_false_iff.mpr fun held => unwanted ⟨opened, held⟩

namespace Hub

variable {L : Type} {h x y : Hub L} {n : Notes}

/-- Shuts a session, with what it has noted and what can be reached of that. -/
def shutdownNoted (n : Notes) (h : Hub L) (s : SessionId) : Hub L :=
  if (h.session s).isOpen then
    let h := h.setSession s (h.session s).shut
    let h := ((n.producers s).filter h.producerLive).foldl closeProducer h
    ((n.consumers s).filter h.consumerLive).foldl closeConsumer h
  else h

/-- Shuts the sessions that a connection has noted and that can be reached. -/
def emptiedNoted (n : Notes) (h : Hub L) (c : ConnectionId) : Hub L :=
  let h := h.setConnection c { h.connection c with state := .closed }
  let h := ((n.sessions c).filter h.sessionLive).foldl (shutdownNoted n) h
  h.setConnection c { h.connection c with clientId := none }

def closeNoted (n : Notes) (h : Hub L) (c : ConnectionId) : Except Error Unit × Hub L :=
  if (h.connection c).state = .closed then (.ok (), h)
  else
    match (h.emptiedNoted n c).closeLink (h.connection c).link with
    | .ok h' => (.ok (), h')
    | .error e => (.error e, h.emptiedNoted n c)

/-- Sessions out of reach in `h` and producers that are not held may have closed in `y` alone. All
else is the same. -/
structure Alike (h x y : Hub L) : Prop where
  rest : y = { x with sessions := y.sessions, producers := y.producers }
  sessions : y.sessions.length = x.sessions.length
  session : ∀ s, y.session s = x.session s ∨
    h.sessionLive s = false ∧ y.session s = (x.session s).shut
  producer : ∀ p, y.producer p = x.producer p ∨
    (x.producer p).held = false ∧ y.producer p = (x.producer p).shut

namespace Alike

theorem refl (h x : Hub L) : Alike h x x := ⟨rfl, rfl, fun _ => .inl rfl, fun _ => .inl rfl⟩

theorem connection (alike : Alike h x y) (s : SessionId) :
    (y.session s).connection = (x.session s).connection := by
  rcases alike.session s with same | ⟨-, same⟩
  · rw [same]
  · rw [same]
    rfl

theorem held (alike : Alike h x y) (p : ProducerId) :
    (y.producer p).held = (x.producer p).held := by
  rcases alike.producer p with same | ⟨-, same⟩
  · rw [same]
  · rw [same]
    rfl

theorem session_of_live (alike : Alike h x y) {s : SessionId} (live : h.sessionLive s = true) :
    y.session s = x.session s := by
  rcases alike.session s with same | ⟨lost, -⟩
  · exact same
  · rw [live] at lost
    cases lost

theorem consumerLive (alike : Alike h x y) (k : ConsumerId) :
    y.consumerLive k = x.consumerLive k := by
  rw [alike.rest]
  rfl

/-- What concerns neither sessions nor producers may happen to both. -/
theorem onward (alike : Alike h x y) {x' y' : Hub L}
    (rest : y' = { x' with sessions := y.sessions, producers := y.producers })
    (sessions : x'.sessions = x.sessions) (producers : x'.producers = x.producers) :
    Alike h x' y' := by
  subst rest
  refine ⟨rfl, alike.sessions.trans (congrArg List.length sessions).symm, ?_, ?_⟩
  · intro s
    have same : x'.session s = x.session s := by rw [Hub.session, sessions, Hub.session]
    rw [same]
    exact alike.session s
  · intro p
    have same : x'.producer p = x.producer p := by rw [Hub.producer, producers, Hub.producer]
    rw [same]
    exact alike.producer p

theorem setConnection (alike : Alike h x y) (c : ConnectionId) (f : Connection → Connection) :
    Alike h (x.setConnection c (f (x.connection c))) (y.setConnection c (f (y.connection c))) := by
  refine alike.onward ?_ rfl rfl
  rw [alike.rest]
  rfl

end Alike

/-- What is done to the broker at the end of a link is done with any sessions and producers. -/
theorem onLink_swap (h : Hub L) (sessions : List Session) (producers : List Producer) (l : Link)
    (f : Broker (Endpoint L) → Except Error (Broker (Endpoint L))) :
    ({ h with sessions, producers } : Hub L).onLink l f =
      (h.onLink l f).map fun h' => { h' with sessions, producers } := by
  have same : ({ h with sessions, producers } : Hub L).linked l = h.linked l := rfl
  rw [onLink, onLink, same]
  cases h.linked l with
  | error e => rfl
  | ok b =>
    change ((f (h.broker b)).map _) = ((f (h.broker b)).map _).map _
    cases f (h.broker b) <;> rfl

theorem withdraw_swap (h : Hub L) (sessions : List Session) (producers : List Producer) (l : Link)
    (id : String) (d : Destination) :
    ({ h with sessions, producers } : Hub L).withdraw l id d =
      { h.withdraw l id d with sessions, producers } := by
  rw [withdraw, withdraw, unregister, onLink_swap, unregister]
  cases h.onLink l (·.unregister d id) <;> rfl

theorem closeConsumer_swap (h : Hub L) {sessions : List Session} (producers : List Producer)
    (same : ∀ s, (({ h with sessions, producers } : Hub L).session s).connection =
      (h.session s).connection) (k : ConsumerId) :
    ({ h with sessions, producers } : Hub L).closeConsumer k =
      { h.closeConsumer k with sessions, producers } := by
  cases opened : (h.consumer k).closed with
  | true =>
    have closed : (({ h with sessions, producers } : Hub L).consumer k).closed = true := opened
    rw [closeConsumer_of_closed closed, closeConsumer_of_closed opened]
  | false =>
    have opened' : (({ h with sessions, producers } : Hub L).consumer k).closed = false := opened
    have link : ({ h with sessions, producers } : Hub L).linkOf k = h.linkOf k := by
      rw [linkOf, sessionLink, linkOf, sessionLink]
      exact congrArg (fun c => (h.connection c).link) (same _)
    have swapped : (h.consumer k).attached.foldl (withdraw (h.linkOf k) (h.consumer k).id)
        { h with sessions, producers } =
        { (h.consumer k).attached.foldl (withdraw (h.linkOf k) (h.consumer k).id) h with
          sessions, producers } :=
      List.foldl_hom (fun h' : Hub L => { h' with sessions, producers })
        fun h' d => withdraw_swap h' sessions producers _ _ d
    rw [closeConsumer_of_open opened', closeConsumer_of_open opened, link]
    exact congrArg (fun h' : Hub L => h'.setConsumer k _) swapped

theorem producers_closeConsumer (h : Hub L) (k : ConsumerId) :
    (h.closeConsumer k).producers = h.producers := by
  cases opened : (h.consumer k).closed with
  | true => rw [closeConsumer_of_closed opened]
  | false =>
    obtain ⟨brokers, left⟩ :=
      (withdraw_all_leaves h (h.linkOf k) (h.consumer k).id (h.consumer k).attached).rest
    rw [closeConsumer_of_open opened, left]
    rfl

theorem Alike.closeConsumer (alike : Alike h x y) (k : ConsumerId) :
    Alike h (x.closeConsumer k) (y.closeConsumer k) := by
  have connection := alike.connection
  have rest := alike.rest
  refine alike.onward ?_ (sessions_closeConsumer x k) (producers_closeConsumer x k)
  rw [rest] at connection ⊢
  exact closeConsumer_swap x y.producers connection k

/-! Marking what has shut. -/

theorem producer_closeProducer (h : Hub L) (p q : ProducerId) :
    (h.closeProducer p).producer q = if q = p then (h.producer q).shut else h.producer q := by
  rw [closeProducer, producer_setProducer]
  by_cases here : q = p
  · subst here
    rw [if_pos rfl]
    split
    · rfl
    · rename_i unmade
      rw [producer_of_le (by simpa using unmade)]
      rfl
  · rw [if_neg here, if_neg fun both => here both.1]

theorem foldl_closeProducer (ps : List ProducerId) (h : Hub L) :
    (∃ producers, ps.foldl closeProducer h = { h with producers }) ∧
      ∀ p, (ps.foldl closeProducer h).producer p =
        if p ∈ ps then (h.producer p).shut else h.producer p := by
  induction ps using List.reverseRecOn with
  | nil => exact ⟨⟨h.producers, rfl⟩, fun p => (if_neg List.not_mem_nil).symm⟩
  | append_singleton ps q ih =>
    obtain ⟨⟨producers, rest⟩, each⟩ := ih
    rw [List.foldl_append, List.foldl_cons, List.foldl_nil]
    refine ⟨⟨_, by rw [rest]; rfl⟩, ?_⟩
    intro p
    rw [producer_closeProducer, each]
    by_cases last : p = q
    · subst last
      rw [if_pos rfl, if_pos (List.mem_append_right _ List.mem_cons_self)]
      split <;> rfl
    · rw [if_neg last]
      refine if_congr ?_ rfl rfl
      simp [last]

/-- Nobody can tell whether a producer that is not held has been closed. -/
theorem Alike.producer_shut {s : SessionId} {p : ProducerId} {ps : List ProducerId} {a b : Producer}
    (alike : b = a ∨ a.held = false ∧ b = a.shut) (mine : p ∈ ps → b.session = s)
    (all : b.session = s → p ∈ ps ∨ ¬ b.Wanted) :
    (if b.session = s then b.shut else b) = (if p ∈ ps then a.shut else a) ∨
      (if p ∈ ps then a.shut else a).held = false ∧
        (if b.session = s then b.shut else b) = (if p ∈ ps then a.shut else a).shut := by
  by_cases mem : p ∈ ps
  · rw [if_pos mem, if_pos (mine mem)]
    rcases alike with rfl | ⟨-, rfl⟩
    · exact .inl rfl
    · exact .inl rfl
  · rw [if_neg mem]
    split
    · rename_i here
      have unwanted := (all here).resolve_left mem
      cases opened : b.closed with
      | true => rwa [Producer.shut_of_closed opened]
      | false =>
        have unheld := Producer.unheld_of_open unwanted opened
        rcases alike with rfl | ⟨unheld, rfl⟩
        · exact .inr ⟨unheld, rfl⟩
        · exact .inr ⟨unheld, rfl⟩
    · exact alike

theorem session_markShut_shut (h : Hub L) (s t : SessionId) :
    (h.markShut s).session t =
      if t = s ∧ s < h.sessions.length then (h.session s).shut else h.session t :=
  session_setSession ..

theorem Alike.markShut (alike : Alike h x y) {s : SessionId} (same : y.session s = x.session s)
    {ps : List ProducerId} (mine : ∀ p ∈ ps, (y.producer p).session = s)
    (all : ∀ p, (y.producer p).session = s → p ∈ ps ∨ ¬ (y.producer p).Wanted) :
    Alike h (ps.foldl closeProducer (x.setSession s (x.session s).shut)) (y.markShut s) := by
  obtain ⟨⟨producers, rest⟩, each⟩ := foldl_closeProducer ps (x.setSession s (x.session s).shut)
  refine ⟨?_, ?_, ?_, ?_⟩
  · rw [rest, Hub.markShut, alike.rest]
    rfl
  · rw [rest]
    exact List.length_set.trans (alike.sessions.trans List.length_set.symm)
  · intro t
    have mine : (ps.foldl closeProducer (x.setSession s (x.session s).shut)).session t =
        if t = s ∧ s < y.sessions.length then (x.session s).shut else x.session t := by
      rw [rest, alike.sessions]
      exact session_setSession ..
    rw [mine, session_markShut_shut]
    split
    · exact .inl (congrArg Session.shut same)
    · exact alike.session t
  · intro p
    rw [each, producer_markShut]
    exact producer_shut (alike.producer p) (mine p) (all p)

/-- Nobody can tell whether a session out of reach has been shut. -/
theorem Alike.markShut_of_lost (alike : Alike h x y) {s : SessionId}
    (lost : h.sessionLive s = false)
    (unwanted : ∀ p, (y.producer p).session = s → ¬ (y.producer p).Wanted) :
    Alike h x (y.markShut s) := by
  refine ⟨?_, ?_, ?_, ?_⟩
  · rw [Hub.markShut, alike.rest]
    rfl
  · exact List.length_set.trans alike.sessions
  · intro t
    rw [session_markShut_shut]
    split
    · rename_i here
      rw [here.1]
      rcases alike.session s with same | ⟨-, same⟩
      · exact .inr ⟨lost, congrArg Session.shut same⟩
      · exact .inr ⟨lost, (congrArg Session.shut same).trans rfl⟩
    · exact alike.session t
  · intro p
    rw [producer_markShut]
    have none : p ∈ ([] : List ProducerId) → (y.producer p).session = s := by
      intro mem
      cases mem
    exact producer_shut (alike.producer p) none fun here => .inr (unwanted p here)

/-! Shutting sessions. -/

theorem Alike.markShut_noted (alike : Alike h x y) (tracks : Tracks y n) {s : SessionId}
    (same : y.session s = x.session s) :
    Alike h (((n.producers s).filter (x.setSession s (x.session s).shut).producerLive).foldl
      closeProducer (x.setSession s (x.session s).shut)) (y.markShut s) := by
  apply alike.markShut same
  · intro p mem
    exact tracks.producers.parent_of_mem (List.mem_filter.mp mem).1 _
  · intro p here
    by_cases wanted : (y.producer p).Wanted
    · have noted := tracks.producers.mem (producer_lt_of_open wanted.1) wanted
      have held : (x.producer p).held = true := (alike.held p).symm.trans wanted.2
      have live : x.producerLive p = true := Bool.or_eq_true_iff.mpr (.inl held)
      exact .inl (List.mem_filter.mpr ⟨here ▸ noted, live⟩)
    · exact .inr wanted

/-- Consumers that are passed over are closed already. -/
theorem Alike.closeIn_noted {s : SessionId} (alike : Alike h x (y.markShut s)) (tracks : Tracks y n)
    (tended : Tended y) :
    Alike h (((n.consumers s).filter x.consumerLive).foldl Hub.closeConsumer x)
      ((List.range y.consumers.length).foldl (closeIn s) (y.markShut s)) := by
  have sub : ((n.consumers s).filter x.consumerLive).Sublist (List.range y.consumers.length) :=
    List.filter_sublist.trans (tracks.consumers.made s)
  -- on the way, whoever was closed in `y` is still closed
  refine (foldl_related (R := fun x' y' => Alike h x' y' ∧ Shrinks (y.markShut s) y') sub
    List.nodup_range ?_ ?_ ⟨alike, .refl _⟩).1
  · rintro x' y' k - passed ⟨alike', shrinks⟩
    refine ⟨?_, shrinks.trans (closeIn_shrinks s y' k)⟩
    unfold closeIn
    split
    · rename_i here
      have here : (y.consumer k).session = s := (shrinks.session k).symm.trans here
      have closed : (y.consumer k).closed = true := by
        by_contra opened
        have opened : (y.consumer k).closed = false := by simpa using opened
        have noted := tracks.consumers.mem (consumer_lt_of_open opened) opened
        have live := (alike.consumerLive k).symm.trans (tended k opened)
        exact passed (List.mem_filter.mpr ⟨here ▸ noted, live⟩)
      rwa [closeConsumer_of_closed (shrinks.closed_of_closed closed)]
    · exact alike'
  · rintro x' y' k mem ⟨alike', shrinks⟩
    have here : (y.consumer k).session = s :=
      tracks.consumers.parent_of_mem (List.mem_filter.mp mem).1 _
    rw [closeIn, if_pos ((shrinks.session k).trans here)]
    exact ⟨alike'.closeConsumer k, shrinks.trans (closeConsumer_shrinks y' k)⟩

theorem Alike.shutdown (alike : Alike h x y) (tracks : Tracks y n) (tended : Tended y)
    {s : SessionId} (same : y.session s = x.session s) :
    Alike h (x.shutdownNoted n s) (y.shutdownSession s) := by
  cases opened : (y.session s).isOpen with
  | false =>
    rw [shutdownNoted, ← same, opened, shutdownSession_of_shut opened]
    exact alike
  | true =>
    rw [shutdownNoted, if_pos (same ▸ opened), shutdownSession_of_open opened]
    exact (alike.markShut_noted tracks same).closeIn_noted tracks tended

/-- A session out of reach has nothing left that can be told apart. -/
theorem Alike.shutdown_of_lost (alike : Alike h x y) {s : SessionId}
    (lost : h.sessionLive s = false)
    (producers : ∀ p, (y.producer p).session = s → ¬ (y.producer p).Wanted)
    (consumers : ∀ k, (y.consumer k).session = s → (y.consumer k).closed = true) :
    Alike h x (y.shutdownSession s) := by
  cases opened : (y.session s).isOpen with
  | false => rwa [shutdownSession_of_shut opened]
  | true =>
    have idle : (List.range y.consumers.length).foldl (closeIn s) (y.markShut s) =
        y.markShut s := by
      refine List.foldlRecOn (motive := (· = y.markShut s)) _ _ rfl ?_
      rintro y' rfl k -
      unfold closeIn
      split
      · rename_i here
        exact closeConsumer_of_closed (consumers k here)
      · rfl
    rw [shutdownSession_of_open opened, idle]
    exact alike.markShut_of_lost lost producers

/-! Closing connections. -/

theorem sessionLive_of_producer {p : ProducerId} (made : p < h.producers.length)
    (live : h.producerLive p = true) : h.sessionLive (h.producer p).session = true := by
  have listed : (List.range h.producers.length).any (fun q =>
      (h.producer q).session == (h.producer p).session && h.producerLive q) = true := by
    refine List.any_eq_true.mpr ⟨p, List.mem_range.mpr made, ?_⟩
    rw [beq_self_eq_true, live, Bool.and_true]
  rw [sessionLive, listed, Bool.or_true, Bool.true_or]

theorem sessionLive_of_consumer {k : ConsumerId} (made : k < h.consumers.length)
    (live : h.consumerLive k = true) : h.sessionLive (h.consumer k).session = true := by
  have listed : (List.range h.consumers.length).any (fun j =>
      (h.consumer j).session == (h.consumer k).session && h.consumerLive j) = true := by
    refine List.any_eq_true.mpr ⟨k, List.mem_range.mpr made, ?_⟩
    rw [beq_self_eq_true, live, Bool.and_true]
  rw [sessionLive, listed, Bool.or_true]

namespace Lulls

theorem unwanted_of_lost (lulls : Lulls h y) {s : SessionId} (lost : h.sessionLive s = false)
    {p : ProducerId} (here : (y.producer p).session = s) : ¬ (y.producer p).Wanted := by
  intro wanted
  have made := producer_lt_of_open wanted.1
  obtain ⟨same, back⟩ := lulls.producers.getD made _
  have live : h.producerLive p = true := Bool.or_eq_true_iff.mpr (.inl (back wanted).2)
  have reached := sessionLive_of_producer (lulls.producers.length ▸ made) live
  rw [← show (y.producer p).session = (h.producer p).session from same, here, lost] at reached
  cases reached

theorem closed_of_lost (lulls : Lulls h y) (tended : Tended h) {s : SessionId}
    (lost : h.sessionLive s = false) {k : ConsumerId} (here : (y.consumer k).session = s) :
    (y.consumer k).closed = true := by
  by_contra opened
  have opened : (y.consumer k).closed = false := by simpa using opened
  have made := consumer_lt_of_open opened
  obtain ⟨same, back⟩ := lulls.consumers.getD made _
  have reached := sessionLive_of_consumer (lulls.consumers.length ▸ made) (tended k (back opened))
  rw [← show (y.consumer k).session = (h.consumer k).session from same, here, lost] at reached
  cases reached

theorem shutIn (h : Hub L) (c : ConnectionId) (s : SessionId) : Lulls h (h.shutIn c s) := by
  unfold Hub.shutIn
  split
  · exact (shutdownSession_shifts h s).lulls
  · exact .refl h

end Lulls

theorem Guarded.shutIn (guarded : Guarded h) (c : ConnectionId) (s : SessionId) :
    Guarded (h.shutIn c s) := by
  unfold Hub.shutIn
  split
  · exact ⟨guarded.sealed.shutdownSession s,
      guarded.tended.shrinks (shutdownSession_shuts guarded.sealed s).toShrinks⟩
  · exact guarded

/-- Sessions that are passed over are shut, or out of reach. -/
theorem Tracks.emptied (tracks : Tracks h n) (guarded : Guarded h) (c : ConnectionId) :
    Alike h (h.emptiedNoted n c) (h.emptied c) := by
  have marked : Guarded (h.setConnection c { h.connection c with state := .closed }) :=
    ⟨guarded.sealed, guarded.tended⟩
  have sub : ((n.sessions c).filter h.sessionLive).Sublist (List.range h.sessions.length) :=
    List.filter_sublist.trans (tracks.sessions.made c)
  -- what is out of reach in `h` is idle on the way too, since nothing has come back since
  have alike := (foldl_related (R := fun x y => Alike h x y ∧ Lulls h y ∧ Guarded y)
    (f := shutdownNoted n) (g := shutIn c) sub List.nodup_range ?_ ?_
    ⟨.refl h (h.setConnection c { h.connection c with state := .closed }), .of_eq rfl rfl rfl,
      marked⟩).1
  · exact alike.setConnection c fun x => { x with clientId := none }
  · rintro x y s - passed ⟨alike, lulls, guarded'⟩
    refine ⟨?_, lulls.trans (.shutIn y c s), guarded'.shutIn c s⟩
    unfold shutIn
    split
    · rename_i here
      cases opened : (y.session s).isOpen with
      | false => rwa [shutdownSession_of_shut opened]
      | true =>
        have noted := (tracks.lulls lulls).sessions.mem (session_lt_of_open opened) opened
        have lost : h.sessionLive s = false := Bool.eq_false_iff.mpr fun live =>
          passed (List.mem_filter.mpr ⟨here ▸ noted, live⟩)
        exact alike.shutdown_of_lost lost (fun _ => lulls.unwanted_of_lost lost)
          fun _ => lulls.closed_of_lost guarded.tended lost
    · exact alike
  · rintro x y s mem ⟨alike, lulls, guarded'⟩
    obtain ⟨noted, live⟩ := List.mem_filter.mp mem
    have here : (y.session s).connection = c :=
      (tracks.lulls lulls).sessions.parent_of_mem noted _
    refine ⟨?_, lulls.trans (.shutIn y c s), guarded'.shutIn c s⟩
    rw [shutIn, if_pos here]
    exact alike.shutdown (tracks.lulls lulls) guarded'.tended (alike.session_of_live live)

theorem Tracks.closeConnection_alike (tracks : Tracks h n) (guarded : Guarded h)
    (c : ConnectionId) :
    (h.closeNoted n c).1 = (h.closeConnection c).1 ∧
      Alike h (h.closeNoted n c).2 (h.closeConnection c).2 := by
  by_cases closed : (h.connection c).state = .closed
  · rw [closeNoted, if_pos closed, closeConnection_of_closed closed]
    exact ⟨rfl, .refl h h⟩
  have alike := tracks.emptied guarded c
  have swapped : (h.emptied c).closeLink (h.connection c).link =
      ((h.emptiedNoted n c).closeLink (h.connection c).link).map fun h' =>
        { h' with sessions := (h.emptied c).sessions, producers := (h.emptied c).producers } := by
    rw [alike.rest]
    exact onLink_swap ..
  rw [closeNoted, if_neg closed]
  rcases closeConnection_of_open closed with ⟨h', done, same⟩ | ⟨e, failed, same⟩
  · rw [swapped] at done
    obtain ⟨h₁, released, rfl⟩ := ok_of_map done
    rw [released, same]
    obtain ⟨b, x, -, -, rfl⟩ := onLink_ok released
    exact ⟨rfl, alike.onward rfl rfl rfl⟩
  · rw [swapped] at failed
    cases outcome : (h.emptiedNoted n c).closeLink (h.connection c).link with
    | ok h₁ =>
      rw [outcome] at failed
      cases failed
    | error e' =>
      rw [outcome] at failed
      cases failed
      rw [same]
      exact ⟨rfl, alike⟩

/-- Closing what is noted cannot be told from closing all. -/
structure ClosesByNotes (h : Hub L) (n : Notes) : Prop where
  session : ∀ s, Alike h (h.shutdownNoted n s) (h.shutdownSession s)
  connection : ∀ c, (h.closeNoted n c).1 = (h.closeConnection c).1 ∧
    Alike h (h.closeNoted n c).2 (h.closeConnection c).2

theorem closesByNotes_reached (events : List (Event L)) :
    ClosesByNotes (reached events) (noted events) where
  session _ := (Alike.refl _ _).shutdown (tracks_reached events) (sound_reached events).tended rfl
  connection c := (tracks_reached events).closeConnection_alike (sound_reached events).guarded c

end Hub

end Courier
