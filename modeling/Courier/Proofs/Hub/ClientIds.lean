import Courier.Proofs.Hub.Holdings

/-!
# Client ids

A connection and its broker each note the client id of the connection. As long as the broker is
registered the two notes agree, whatever the connections of the broker do, so that an id belongs to
one open connection at most, and becomes free when that closes.
-/

namespace Courier.Hub

set_option autoImplicit false

variable {L : Type} {h h' h'' : Hub L} {c : ConnectionId} {id : String}

theorem clientId_ok {x : Option String} : h.clientId c = .ok x ↔
    (h.connection c).state ≠ .closed ∧ (h.connection c).clientId = x := by
  unfold clientId ensureConnectionOpen
  split
  · rename_i closed
    simp [closed, bind, Except.bind]
  · rename_i opened
    simp [opened, bind, Except.bind, pure, Except.pure]

theorem clientId_of_closed (closed : (h.connection c).state = .closed) :
    h.clientId c = .error .connectionClosed := by
  rw [clientId, ensureConnectionOpen, if_pos closed]
  rfl

/-! Setting a client id. -/

theorem setClientId_of_closed (closed : (h.connection c).state = .closed) (id : String) :
    h.setClientId c id = .error .connectionClosed := by
  rw [setClientId, ensureConnectionOpen, if_pos closed]
  rfl

theorem setClientId_of_set {existing : String} (has : h.clientId c = .ok (some existing))
    (id : String) : h.setClientId c id = .error (.clientIdAlreadySet existing) := by
  obtain ⟨opened, has⟩ := clientId_ok.mp has
  rw [setClientId, ensureConnectionOpen, if_neg opened]
  dsimp only [bind, Except.bind]
  rw [has]
  rfl

theorem setClientId_of_empty (unset : h.clientId c = .ok none) :
    h.setClientId c "" = .error .emptyClientId := by
  obtain ⟨opened, unset⟩ := clientId_ok.mp unset
  rw [setClientId, ensureConnectionOpen, if_neg opened]
  dsimp only [bind, Except.bind]
  rw [unset]
  rfl

theorem setClientId_of_unset {b : BrokerId} (unset : h.clientId c = .ok none) (given : id ≠ "")
    (reached : h.linked (h.connection c).link = .ok b) :
    h.setClientId c id = ((h.broker b).claim id (h.connection c).link.owner).map fun x =>
      (h.setBroker b x).setConnection c { h.connection c with clientId := some id } := by
  obtain ⟨opened, unset⟩ := clientId_ok.mp unset
  have nonempty : ¬ id.isEmpty = true := by simpa using given
  rw [setClientId, ensureConnectionOpen, if_neg opened]
  dsimp only [bind, Except.bind]
  rw [unset]
  dsimp only
  rw [if_neg nonempty, claim, onLink_of_linked reached]
  cases (h.broker b).claim id (h.connection c).link.owner <;> rfl

/-! Keeping it. -/

/-- No connection has gone; closed ones stay closed, open ones keep their client id. -/
structure Abides (h h' : Hub L) : Prop where
  made : h.connections.length ≤ h'.connections.length
  closed : ∀ c < h.connections.length, (h.connection c).state = .closed →
    (h'.connection c).state = .closed
  clientId : ∀ {c id}, (h.connection c).clientId = some id →
    (h'.connection c).clientId = some id ∨ (h'.connection c).state = .closed

namespace Abides
variable {past : List (ConsumerId × Destination)}

theorem of_eq (connections : h'.connections = h.connections) : Abides h h' where
  made := Nat.le_of_eq (congrArg List.length connections).symm
  closed c _ closed := by simpa only [connection, connections] using closed
  clientId has := by
    left
    simpa only [connection, connections] using has

theorem refl (h : Hub L) : Abides h h := of_eq rfl

theorem trans (first : Abides h h') (second : Abides h' h'') : Abides h h'' where
  made := Nat.le_trans first.made second.made
  closed c made closed :=
    second.closed c (Nat.lt_of_lt_of_le made first.made) (first.closed c made closed)
  clientId {c id} has := by
    rcases first.clientId has with has' | closed
    · exact second.clientId has'
    · have made := Nat.lt_of_lt_of_le (connection_lt_of_clientId has) first.made
      exact .inr (second.closed c made closed)

theorem beneath (beneath : Beneath h h') : Abides h h' where
  made := Nat.le_of_eq beneath.made.symm
  closed c _ closed := (beneath.closed c).mpr closed
  clientId {c _} has := .inl ((beneath.clientId c).trans has)

theorem assigns (assigns : Assigns h h' c id) : Abides h h' where
  made := Nat.le_of_eq assigns.made.symm
  closed c' _ closed := (assigns.closed c').mpr closed
  clientId {c' id'} has := by
    left
    rw [assigns.clientId, if_neg]
    · exact has
    · rintro rfl
      rw [assigns.unset] at has
      cases has

theorem retires (retires : Retires h h' c) : Abides h h' where
  made := Nat.le_of_eq retires.made.symm
  closed c' _ closed := by
    by_cases here : c' = c
    · rw [here]
      exact retires.closed
    · exact (retires.others here).mpr closed
  clientId {c' id'} has := by
    by_cases here : c' = c
    · right
      rw [here]
      exact retires.closed
    · left
      rw [retires.clientId here, has]

theorem addConnection (h : Hub L) (x : Connection) :
    Abides h { h with connections := h.connections ++ [x] } := by
  refine ⟨List.length_append ▸ Nat.le_add_right _ _, ?_, ?_⟩
  · intro c made closed
    rwa [connection_addConnection_of_lt made]
  · intro c id has
    rw [connection_addConnection_of_lt (connection_lt_of_clientId has)]
    exact .inl has

theorem joined (h : Hub L) (d : DirectoryId) (name : String) (username : Option String)
    (defaults : Quality) : Abides h (h.joined d name username defaults) := by
  obtain ⟨_, _, _, x, -, same⟩ := joined_rest h d name username defaults
  rw [same]
  exact (addConnection h x).trans (of_eq rfl)

theorem closeConnection (sound : Sound h past) (c : ConnectionId) :
    Abides h (h.closeConnection c).2 := by
  by_cases closed : (h.connection c).state = .closed
  · rw [closeConnection_of_closed closed]
    exact refl h
  · exact retires (closeConnection_parts sound.consistent.wired sound.sealed closed).toRetires

theorem connectAs (sound : Sound h past) (f : Factory) (username : Option String) :
    Abides h (f.connectAs h username).2 := by
  have both : Sound (f.connectAs h username).2 past ∧ Abides h (f.connectAs h username).2 := by
    refine connectAs_keeps (P := fun x => Sound x past ∧ Abides h x) ⟨sound, refl h⟩ ?_ ?_ ?_ ?_
    · intro d name
      exact ⟨sound.joined d name username f.defaults, joined h d name username f.defaults⟩
    · rintro x x' c id ⟨sound, abides⟩ done
      exact ⟨sound.setClientId done,
        abides.trans (assigns (setClientId_assigns sound.consistent.wired done))⟩
    · rintro x c ⟨sound, abides⟩
      exact ⟨sound.closeConnection c, abides.trans (closeConnection sound c)⟩
    · rintro x c ⟨sound, abides⟩
      refine ⟨sound.idle (dropConnection_idle x c), abides.trans (beneath ?_)⟩
      exact .setConnection rfl rfl rfl Iff.rfl
  exact both.2

theorem perform (sound : Sound h past) (r : Request L) : Abides h (h.perform r).2 := by
  cases r with
  | openBroker d name =>
    obtain ⟨_, _, same⟩ := getOrCreate_rest h d name
    rw [Hub.perform, same]
    exact of_eq rfl
  | connect f username => exact connectAs sound f username
  | setClientId c id =>
    refine adoptHub_of (refl h) fun _ done => ?_
    exact assigns (setClientId_assigns sound.consistent.wired done)
  | closeConnection c => exact closeConnection sound c
  | createSession c transacted mode =>
    refine adopt_of (refl h) fun _ _ done => ?_
    obtain ⟨-, x, -, rfl⟩ := createSession_ok done
    exact of_eq rfl
  | createSessionFrom c settings =>
    refine adopt_of (refl h) fun _ _ done => ?_
    obtain ⟨mode, done⟩ := createSessionFrom_ok done
    obtain ⟨-, x, -, rfl⟩ := createSession_ok done
    exact of_eq rfl
  | createTemporary s kind =>
    refine adopt_of (refl h) fun _ _ done => ?_
    obtain ⟨-, b, -, rfl⟩ := sessionTemporary_ok done
    exact of_eq rfl
  | _ => exact beneath (perform_beneath h rfl)

theorem after (sound : Sound h past) (e : Event L) : Abides h (h.after e) := by
  cases e with
  | request r => exact perform sound r
  | turn => exact beneath (turn_beneath h)

theorem follow (sound : Sound h past) (later : List (Event L)) : Abides h (h.follow later) := by
  induction later generalizing h past with
  | nil => exact refl h
  | cons e later ih => exact (after sound e).trans (ih (sound.after e))

end Abides

/-! All of it. -/

/-- How setting a client id ends for a connection of the broker `b`, in each case there is. When it
fails the hub is as it was. -/
structure SetsClientId (h : Hub L) (b : BrokerId) (c : ConnectionId) (id : String) : Prop where
  closed : (h.connection c).state = .closed →
    h.perform (.setClientId c id) = (.error .connectionClosed, h)
  again : ∀ existing, h.clientId c = .ok (some existing) →
    h.perform (.setClientId c id) = (.error (.clientIdAlreadySet existing), h)
  empty : h.clientId c = .ok none → id = "" →
    h.perform (.setClientId c id) = (.error .emptyClientId, h)
  taken : h.clientId c = .ok none → id ≠ "" → ∀ c', (h.connection c').link.broker = b →
    h.clientId c' = .ok (some id) → h.perform (.setClientId c id) = (.error (.clientIdInUse id), h)
  granted : h.clientId c = .ok none → id ≠ "" →
    (∀ c', (h.connection c').link.broker = b → h.clientId c' ≠ .ok (some id)) →
    ∃ x, h.perform (.setClientId c id) = (.ok (), x) ∧ x.clientId c = .ok (some id) ∧
      (x.broker b).clientIds.get? id = some (h.connection c).link.owner

section Agreement
variable {past : List (ConsumerId × Destination)} {dir : DirectoryId} {name : String}
  {b : BrokerId}

/-- An open connection has a client id just if the broker holds it for that connection. -/
theorem Holdings.clientId_iff (holdings : Holdings h) (named : Named h)
    (standing : h.findBroker dir name = some b) (made : c < h.connections.length)
    (at_b : (h.connection c).link.broker = b) :
    h.clientId c = .ok (some id) ↔
      (h.broker b).clientIds.get? id = some (h.connection c).link.owner := by
  constructor
  · intro has
    subst at_b
    exact holdings.claimed standing (clientId_ok.mp has).2
  · intro held
    obtain ⟨c', -, same, has⟩ := holdings.holder standing held
    rw [named.owner_inj (connection_lt_of_clientId has) made same] at has
    refine clientId_ok.mpr ⟨fun closed => ?_, has⟩
    rw [holdings.forgotten closed] at has
    cases has

theorem Holdings.exists_holder (holdings : Holdings h) (standing : h.findBroker dir name = some b)
    {owner : String} (held : (h.broker b).clientIds.get? id = some owner) :
    ∃ c, (h.connection c).link.broker = b ∧ (h.connection c).link.owner = owner ∧
      h.clientId c = .ok (some id) := by
  obtain ⟨c, at_b, same, has⟩ := holdings.holder standing held
  refine ⟨c, at_b, same, clientId_ok.mpr ⟨fun closed => ?_, has⟩⟩
  rw [holdings.forgotten closed] at has
  cases has

theorem Holdings.setsClientId (holdings : Holdings h) (sound : Sound h past)
    (standing : h.findBroker dir name = some b) (at_b : (h.connection c).link.broker = b)
    (id : String) : h.SetsClientId b c id where
  closed closed := by
    rw [Hub.perform, setClientId_of_closed closed, adoptHub]
  again existing has := by
    rw [Hub.perform, setClientId_of_set has, adoptHub]
  empty unset empty := by
    rw [empty, Hub.perform, setClientId_of_empty unset, adoptHub]
  taken unset given c' at_b' has := by
    subst at_b
    have made := connection_lt_of_open (clientId_ok.mp unset).1
    have made' := connection_lt_of_open (clientId_ok.mp has).1
    have held := (holdings.clientId_iff sound.consistent.named standing made' at_b').mp has
    have other : (h.connection c').link.owner ≠ (h.connection c).link.owner := by
      intro same
      rw [sound.consistent.named.owner_inj made' made same, unset] at has
      cases has
    have reached := sound.consistent.wired.linked made standing
    rw [Hub.perform, setClientId_of_unset unset given reached, Broker.claim_of_held given held other]
    rfl
  granted unset given free := by
    subst at_b
    have made := connection_lt_of_open (clientId_ok.mp unset).1
    have unheld : (h.broker (h.connection c).link.broker).clientIds.get? id = none := by
      rw [Option.eq_none_iff_forall_ne_some]
      intro owner held
      obtain ⟨c', at_b', -, has⟩ := holdings.exists_holder standing held
      exact free c' at_b' has
    have reached := sound.consistent.wired.linked made standing
    obtain ⟨x, done⟩ : ∃ x, h.setClientId c id = .ok x := by
      rw [setClientId_of_unset unset given reached, Broker.claim_of_free given unheld]
      exact ⟨_, rfl⟩
    have assigns := setClientId_assigns sound.consistent.wired done
    refine ⟨x, ?_, clientId_ok.mpr ⟨?_, ?_⟩, ?_⟩
    · rw [Hub.perform, done, adoptHub]
    · rw [ne_eq, assigns.closed]
      exact assigns.opened
    · rw [assigns.clientId, if_pos rfl]
    · rw [assigns.held, if_pos ⟨rfl, rfl⟩]

theorem Holdings.clientId_unique (holdings : Holdings h) (named : Named h)
    (standing : h.findBroker dir name = some b) {c' : ConnectionId}
    (at_b : (h.connection c).link.broker = b) (at_b' : (h.connection c').link.broker = b)
    (has : h.clientId c = .ok (some id)) (has' : h.clientId c' = .ok (some id)) : c' = c := by
  have made := connection_lt_of_open (clientId_ok.mp has).1
  have made' := connection_lt_of_open (clientId_ok.mp has').1
  have held := (holdings.clientId_iff named standing made at_b).mp has
  have held' := (holdings.clientId_iff named standing made' at_b').mp has'
  exact named.owner_inj made' made (Option.some.inj (held'.symm.trans held))

/-- When a connection closes, its client id is free for another one. -/
theorem Holdings.setClientId_after_close (holdings : Holdings h) (sound : Sound h past)
    (standing : h.findBroker dir name = some b) {c' : ConnectionId}
    (at_b : (h.connection c).link.broker = b) (at_b' : (h.connection c').link.broker = b)
    (has : h.clientId c = .ok (some id)) (unset : h.clientId c' = .ok none) :
    ∃ x, (h.closeConnection c).2.perform (.setClientId c' id) = (.ok (), x) ∧
      x.clientId c' = .ok (some id) := by
  obtain ⟨opened, noted⟩ := clientId_ok.mp has
  have parts := closeConnection_parts sound.consistent.wired sound.sealed opened
  have standing' := ((closeConnection_shrinks sound.sealed c).found dir name).trans standing
  have now_at_b := (congrArg Link.broker (parts.link c')).trans at_b'
  have given : id ≠ "" := by
    rintro rfl
    exact holdings.given noted
  have other : c' ≠ c := by
    rintro rfl
    rw [unset] at has
    cases has
  have unset' : (h.closeConnection c).2.clientId c' = .ok none := by
    obtain ⟨opened', unset⟩ := clientId_ok.mp unset
    refine clientId_ok.mpr ⟨?_, ?_⟩
    · rwa [ne_eq, parts.others other]
    · rw [parts.clientId other, unset]
  have free : ∀ j, ((h.closeConnection c).2.connection j).link.broker = b →
      (h.closeConnection c).2.clientId j ≠ .ok (some id) := by
    intro j at_j again
    obtain ⟨opened_j, noted_j⟩ := clientId_ok.mp again
    have other_j : j ≠ c := by
      rintro rfl
      exact opened_j parts.closed
    have has_j : h.clientId j = .ok (some id) := by
      refine clientId_ok.mpr ⟨?_, ?_⟩
      · rwa [ne_eq, ← parts.others other_j]
      · rw [← parts.clientId other_j, noted_j]
    rw [parts.link] at at_j
    exact other_j (holdings.clientId_unique sound.consistent.named standing at_b at_j has has_j)
  obtain ⟨x, done, now, -⟩ := ((holdings.closeConnection sound c).setsClientId
    (sound.closeConnection c) standing' now_at_b id).granted unset' given free
  exact ⟨x, done, now⟩

end Agreement

/-- Whatever clients have done, as long as a broker is registered: an open connection to it has a
client id just if the broker holds the id for that connection, and holds ids for open connections
only. So no two of them share one, and none has two. Setting one ends as described, and changes
nothing when it fails. A client id lasts until its connection closes, and then another connection can
have it. -/
theorem client_ids_agree {events : List (Event L)} (run : reached events = h) {dir : DirectoryId}
    {name : String} {b : BrokerId} (standing : h.findBroker dir name = some b) :
    (∀ c < h.connections.length, (h.connection c).link.broker = b → ∀ id,
      h.clientId c = .ok (some id) ↔
        (h.broker b).clientIds.get? id = some (h.connection c).link.owner) ∧
    (∀ id owner, (h.broker b).clientIds.get? id = some owner →
      ∃ c, (h.connection c).link.broker = b ∧ (h.connection c).link.owner = owner ∧
        h.clientId c = .ok (some id)) ∧
    (∀ c c' id, (h.connection c).link.broker = b → (h.connection c').link.broker = b →
      h.clientId c = .ok (some id) → h.clientId c' = .ok (some id) → c' = c) ∧
    (∀ id id' owner, (h.broker b).clientIds.get? id = some owner →
      (h.broker b).clientIds.get? id' = some owner → id' = id) ∧
    (∀ c id, (h.connection c).link.broker = b → h.SetsClientId b c id) ∧
    (∀ c id, h.clientId c = .ok (some id) → ∀ later,
      (h.follow later).clientId c = .ok (some id) ∨
        (h.follow later).clientId c = .error .connectionClosed) ∧
    ∀ c c' id, (h.connection c).link.broker = b → (h.connection c').link.broker = b →
      h.clientId c = .ok (some id) → h.clientId c' = .ok none →
      ∃ x, (h.closeConnection c).2.perform (.setClientId c' id) = (.ok (), x) ∧
        x.clientId c' = .ok (some id) := by
  subst run
  have sound := sound_reached events
  have holdings := holdings_reached events
  have named := sound.consistent.named
  refine ⟨?_, ?_, ?_, ?_, ?_, ?_, ?_⟩
  · intro c made at_b id
    exact holdings.clientId_iff named standing made at_b
  · intro id owner held
    exact holdings.exists_holder standing held
  · intro c c' id at_b at_b' has has'
    exact holdings.clientId_unique named standing at_b at_b' has has'
  · intro id id' owner held held'
    obtain ⟨c, -, same, has⟩ := holdings.exists_holder standing held
    obtain ⟨c', -, same', has'⟩ := holdings.exists_holder standing held'
    have made := connection_lt_of_open (clientId_ok.mp has).1
    have made' := connection_lt_of_open (clientId_ok.mp has').1
    rw [named.owner_inj made' made (same'.trans same.symm), has] at has'
    cases has'
    rfl
  · intro c id at_b
    exact holdings.setsClientId sound standing at_b id
  · intro c id has later
    obtain ⟨-, noted⟩ := clientId_ok.mp has
    by_cases closed : (((reached events).follow later).connection c).state = .closed
    · exact .inr (clientId_of_closed closed)
    · left
      rcases (Abides.follow sound later).clientId noted with kept | gone
      · exact clientId_ok.mpr ⟨closed, kept⟩
      · exact absurd gone closed
  · intro c c' id at_b at_b' has unset
    exact holdings.setClientId_after_close sound standing at_b at_b' has unset

def sampleReports : Factory := { registry := 0, url := "vm://main", clientId := some "reports" }

/-- The second connection asks for the client id that the first one has, so it is closed at once; the
third one has none yet. -/
def sampleClients : List (Event Nat) :=
  [.request .addRegistry, .request .addDirectory, .request (.registerProvider 0 0),
    .request (.connect sampleReports none), .request (.connect sampleReports none),
    .request (.connect { registry := 0, url := "vm://main" } none)]

/-- The third connection gets the client id when the first one has closed, and not before. -/
theorem client_ids_agree_reports :
    (reached sampleClients).findBroker 0 "main" = some 0 ∧
    ((reached sampleClients).connection 1).state = .closed ∧
    (reached sampleClients).clientId 0 = .ok (some "reports") ∧
    ((reached sampleClients).broker 0).clientIds.get? "reports" =
      some ((reached sampleClients).connection 0).link.owner ∧
    (reached sampleClients).perform (.setClientId 2 "reports") =
      (.error (.clientIdInUse "reports"), reached sampleClients) ∧
    ∃ x, ((reached sampleClients).closeConnection 0).2.perform (.setClientId 2 "reports") =
        (.ok (), x) ∧ x.clientId 2 = .ok (some "reports") := by
  obtain ⟨standing, first, third, made, opened, noted, opened', unnoted, closed⟩ :
      (reached sampleClients).findBroker 0 "main" = some 0 ∧
      ((reached sampleClients).connection 0).link.broker = 0 ∧
      ((reached sampleClients).connection 2).link.broker = 0 ∧
      0 < (reached sampleClients).connections.length ∧
      ((reached sampleClients).connection 0).state ≠ .closed ∧
      ((reached sampleClients).connection 0).clientId = some "reports" ∧
      ((reached sampleClients).connection 2).state ≠ .closed ∧
      ((reached sampleClients).connection 2).clientId = none ∧
      ((reached sampleClients).connection 1).state = .closed := by
    decide +kernel
  have has : (reached sampleClients).clientId 0 = .ok (some "reports") :=
    clientId_ok.mpr ⟨opened, noted⟩
  have unset : (reached sampleClients).clientId 2 = .ok none := clientId_ok.mpr ⟨opened', unnoted⟩
  obtain ⟨agree, -, -, -, sets, -, close⟩ :=
    client_ids_agree (rfl : reached sampleClients = _) standing
  refine ⟨standing, closed, has, ?_, ?_, ?_⟩
  · exact (agree 0 made first "reports").mp has
  · exact (sets 2 "reports" third).taken unset (by decide) 0 first has
  · exact close 0 2 "reports" first third has unset

/-! Connections let go without closing. Nothing notices when the last handle on a connection goes, so
what it holds on its broker stays taken. -/

/-- On a registered broker, a client id is refused to an open connection without one only if it is
empty or a connection that has not been closed has it, and every temporary destination belongs to a
connection that has not been closed. Whether these can still be reached is not asked. -/
theorem refused_for_unclosed {events : List (Event L)} (run : reached events = h)
    {dir : DirectoryId} {name : String} {b : BrokerId}
    (standing : h.findBroker dir name = some b) :
    (∀ c id e x, (h.connection c).link.broker = b → h.clientId c = .ok none →
      h.perform (.setClientId c id) = (.error e, x) →
      id = "" ∧ e = .emptyClientId ∨
      e = .clientIdInUse id ∧ ∃ c', c' ≠ c ∧ (h.connection c').link.broker = b ∧
        h.clientId c' = .ok (some id)) ∧
    ∀ d, (h.broker b).interned d = true → d.temporary = true →
      ∃ s c, (h.broker b).destinations.get? d = some s ∧
        s.owner = some (h.connection c).link.owner ∧ (h.connection c).link.broker = b ∧
        (h.connection c).state ≠ .closed := by
  subst run
  have sound := sound_reached events
  have holdings := holdings_reached events
  refine ⟨?_, ?_⟩
  · intro c id e x at_b unset failed
    have sets := holdings.setsClientId sound standing at_b id
    by_cases empty : id = ""
    · left
      rw [sets.empty unset empty] at failed
      cases failed
      exact ⟨empty, rfl⟩
    · right
      by_cases free : ∀ c', ((reached events).connection c').link.broker = b →
          (reached events).clientId c' ≠ .ok (some id)
      · obtain ⟨x', done, -⟩ := sets.granted unset empty free
        rw [done] at failed
        cases failed
      · simp only [not_forall, not_not] at free
        obtain ⟨c', at_b', has⟩ := free
        rw [sets.taken unset empty c' at_b' has] at failed
        cases failed
        refine ⟨rfl, c', ?_, at_b', has⟩
        rintro rfl
        rw [unset] at has
        cases has
  · intro d here temporary
    obtain ⟨s, site⟩ := Broker.interned_iff.mp here
    obtain ⟨c, opened, at_b, owner⟩ := holdings.hosted standing site temporary
    exact ⟨s, c, site, owner, at_b, opened⟩

/-- A connection with a client id and a temporary destination has been let go without closing, and so
has its session; a new connection is open. -/
def sampleAbandoned : List (Event Nat) :=
  [.request .addRegistry, .request .addDirectory, .request (.registerProvider 0 0),
    .request (.connect { registry := 0, url := "vm://test" } none),
    .request (.setClientId 0 "A"), .request (.createSession 0 false .autoAcknowledge),
    .request (.createTemporary 0 .queue), .request (.dropSession 0),
    .request (.dropConnection 0),
    .request (.connect { registry := 0, url := "vm://test" } none)]

def sampleLeftover : Destination :=
  { name := "temp-" ++ uniqueName 2, kind := .queue, temporary := true }

/-- Both connections are to the registered broker. The first one has the client id and owns the
temporary destination; only the second one is live. -/
theorem state_sampleAbandoned :
    (reached sampleAbandoned).findBroker 0 "test" = some 0 ∧
    (((reached sampleAbandoned).connection 0).link.broker = 0 ∧
      ((reached sampleAbandoned).connection 0).state ≠ .closed ∧
      ((reached sampleAbandoned).connection 0).clientId = some "A") ∧
    (((reached sampleAbandoned).connection 1).link.broker = 0 ∧
      ((reached sampleAbandoned).connection 1).state ≠ .closed ∧
      ((reached sampleAbandoned).connection 1).clientId = none) ∧
    (((reached sampleAbandoned).broker 0).destinations.get? sampleLeftover).map (·.owner) =
      some (some ((reached sampleAbandoned).connection 0).link.owner) ∧
    ((reached sampleAbandoned).connection 0).link.owner ≠
      ((reached sampleAbandoned).connection 1).link.owner ∧
    ∀ c < (reached sampleAbandoned).connections.length,
      (reached sampleAbandoned).connectionLive c = true → c = 1 := by
  decide +kernel

theorem unset_sampleAbandoned : (reached sampleAbandoned).clientId 1 = .ok none := by
  obtain ⟨-, -, ⟨-, opened, unset⟩, -⟩ := state_sampleAbandoned
  exact clientId_ok.mpr ⟨opened, unset⟩

theorem perform_sampleAbandoned : (reached sampleAbandoned).perform (.setClientId 1 "A") =
    (.error (.clientIdInUse "A"), reached sampleAbandoned) := by
  obtain ⟨standing, ⟨old_at_b, opened, noted⟩, ⟨new_at_b, -⟩, -⟩ := state_sampleAbandoned
  have has : (reached sampleAbandoned).clientId 0 = .ok (some "A") :=
    clientId_ok.mpr ⟨opened, noted⟩
  exact ((holdings_reached sampleAbandoned).setsClientId (sound_reached sampleAbandoned) standing
    new_at_b "A").taken unset_sampleAbandoned (by decide) 0 old_at_b has

/-- Both belong to a connection that has not been closed. -/
theorem refused_for_unclosed_abandoned :
    (reached sampleAbandoned).findBroker 0 "test" = some 0 ∧
    (reached sampleAbandoned).perform (.setClientId 1 "A") =
      (.error (.clientIdInUse "A"), reached sampleAbandoned) ∧
    (∃ c', c' ≠ 1 ∧ ((reached sampleAbandoned).connection c').link.broker = 0 ∧
      (reached sampleAbandoned).clientId c' = .ok (some "A")) ∧
    ∃ s c, ((reached sampleAbandoned).broker 0).destinations.get? sampleLeftover = some s ∧
      s.owner = some ((reached sampleAbandoned).connection c).link.owner ∧
      ((reached sampleAbandoned).connection c).link.broker = 0 ∧
      ((reached sampleAbandoned).connection c).state ≠ .closed := by
  obtain ⟨standing, -, ⟨at_b, -⟩, owned, -⟩ := state_sampleAbandoned
  obtain ⟨s, site, -⟩ := Option.map_eq_some_iff.mp owned
  obtain ⟨ids, sites⟩ := refused_for_unclosed (rfl : reached sampleAbandoned = _) standing
  refine ⟨standing, perform_sampleAbandoned, ?_, ?_⟩
  · rcases ids 1 "A" _ _ at_b unset_sampleAbandoned perform_sampleAbandoned with
      ⟨empty, -⟩ | ⟨-, holder⟩
    · exact absurd empty (by decide)
    · exact holder
  · obtain ⟨s, c, site, owner, at_b, opened⟩ := sites sampleLeftover
      (Broker.interned_iff.mpr ⟨s, site⟩) rfl
    exact ⟨s, c, site, owner, at_b, opened⟩

/-- That connection can no longer be reached: no live one has the client id that is refused to the
new one, and none owns the temporary destination that is still there. -/
theorem abandoned_connection_holds :
    (reached sampleAbandoned).findBroker 0 "test" = some 0 ∧
    (reached sampleAbandoned).clientId 1 = .ok none ∧
    ((reached sampleAbandoned).connection 1).link.broker = 0 ∧
    (reached sampleAbandoned).perform (.setClientId 1 "A") =
      (.error (.clientIdInUse "A"), reached sampleAbandoned) ∧
    (∀ c < (reached sampleAbandoned).connections.length,
      (reached sampleAbandoned).connectionLive c = true →
        (reached sampleAbandoned).clientId c ≠ .ok (some "A")) ∧
    sampleLeftover.temporary = true ∧
    ∃ s, ((reached sampleAbandoned).broker 0).destinations.get? sampleLeftover = some s ∧
      ∀ c < (reached sampleAbandoned).connections.length,
        (reached sampleAbandoned).connectionLive c = true →
          s.owner ≠ some ((reached sampleAbandoned).connection c).link.owner := by
  obtain ⟨standing, -, ⟨at_b, -⟩, owned, apart, live⟩ := state_sampleAbandoned
  obtain ⟨s, site, owner⟩ := Option.map_eq_some_iff.mp owned
  refine ⟨standing, unset_sampleAbandoned, at_b, perform_sampleAbandoned, ?_, rfl, s, site, ?_⟩
  · intro c made alive has
    rw [live c made alive, unset_sampleAbandoned] at has
    cases has
  · intro c made alive same
    rw [live c made alive, owner] at same
    exact apart (Option.some.inj same)

end Courier.Hub
