import Courier.Proofs.Hub.Beneath
import Courier.Proofs.Hub.Registrations

/-!
# What brokers hold for connections

A broker that is registered holds client ids and temporary destinations for connections, under the
owner name of their link. What it holds belongs to a connection that has not been closed, and for
client ids the two sides agree: the broker holds just those that its open connections have.
-/

namespace Courier.Hub

set_option autoImplicit false

variable {L : Type} {h h' : Hub L} {past : List (ConsumerId × Destination)}

/-- Client ids and temporary destinations belong to open connections, and so do open sessions. -/
structure Holdings (h : Hub L) : Prop where
  forgotten : ∀ {c}, (h.connection c).state = .closed → (h.connection c).clientId = none
  given : ∀ {c}, (h.connection c).clientId ≠ some ""
  claimed : ∀ {dir name c id}, h.findBroker dir name = some (h.connection c).link.broker →
    (h.connection c).clientId = some id →
    (h.broker (h.connection c).link.broker).clientIds.get? id = some (h.connection c).link.owner
  holder : ∀ {dir name b id owner}, h.findBroker dir name = some b →
    (h.broker b).clientIds.get? id = some owner →
    ∃ c, (h.connection c).link.broker = b ∧ (h.connection c).link.owner = owner ∧
      (h.connection c).clientId = some id
  attended : ∀ {s}, (h.session s).isOpen = true →
    (h.connection (h.session s).connection).state ≠ .closed
  hosted : ∀ {dir name b d s}, h.findBroker dir name = some b →
    (h.broker b).destinations.get? d = some s → d.temporary = true →
    ∃ c, (h.connection c).state ≠ .closed ∧ (h.connection c).link.broker = b ∧
      s.owner = some (h.connection c).link.owner

/-- A connection has retired: it is closed, has no client id any more, and no open session. -/
structure Retires (h h' : Hub L) (c : ConnectionId) : Prop where
  made : h'.connections.length = h.connections.length
  link : ∀ c', (h'.connection c').link = (h.connection c').link
  defaults : ∀ c', (h'.connection c').defaults = (h.connection c').defaults
  closed : (h'.connection c).state = .closed
  forgotten : (h'.connection c).clientId = none
  clientId : ∀ {c'}, c' ≠ c → (h'.connection c').clientId = (h.connection c').clientId
  others : ∀ {c'}, c' ≠ c →
    ((h'.connection c').state = .closed ↔ (h.connection c').state = .closed)
  found : ∀ {dir name b}, h'.findBroker dir name = some b → h.findBroker dir name = some b
  session : ∀ {s}, (h'.session s).isOpen = true → (h.session s).isOpen = true ∧
    (h'.session s).connection = (h.session s).connection ∧ (h.session s).connection ≠ c

/-- Besides, the broker holds nothing for it any more, if it could be reached. -/
structure Parts (h h' : Hub L) (c : ConnectionId) : Prop extends Retires h h' c where
  held : ∀ {b id owner}, (h'.broker b).clientIds.get? id = some owner ↔
    (h.broker b).clientIds.get? id = some owner ∧
      ¬ (h.linked (h.connection c).link = .ok b ∧ owner = (h.connection c).link.owner)
  site : ∀ {b d s}, (h'.broker b).destinations.get? d = some s → d.temporary = true →
    (∃ s', (h.broker b).destinations.get? d = some s' ∧ s'.owner = s.owner) ∧
      ¬ (h.linked (h.connection c).link = .ok b ∧ s.owner = some (h.connection c).link.owner)

/-- A connection has been given a client id, which its broker had not granted to another one. -/
structure Assigns (h h' : Hub L) (c : ConnectionId) (id : String) : Prop where
  opened : (h.connection c).state ≠ .closed
  unset : (h.connection c).clientId = none
  given : id ≠ ""
  granted : (h.broker (h.connection c).link.broker).clientIds.get? id = none ∨
    (h.broker (h.connection c).link.broker).clientIds.get? id = some (h.connection c).link.owner
  made : h'.connections.length = h.connections.length
  link : ∀ c', (h'.connection c').link = (h.connection c').link
  defaults : ∀ c', (h'.connection c').defaults = (h.connection c').defaults
  closed : ∀ c', (h'.connection c').state = .closed ↔ (h.connection c').state = .closed
  clientId : ∀ c', (h'.connection c').clientId =
    if c' = c then some id else (h.connection c').clientId
  found : ∀ {dir name b}, h'.findBroker dir name = some b → h.findBroker dir name = some b
  session : ∀ s, h'.session s = h.session s
  held : ∀ b id', (h'.broker b).clientIds.get? id' =
    if b = (h.connection c).link.broker ∧ id' = id then some (h.connection c).link.owner
    else (h.broker b).clientIds.get? id'
  destinations : ∀ b, (h'.broker b).destinations = (h.broker b).destinations

/-- A broker that holds nothing and that no connection leads to. -/
structure Vacant (h : Hub L) (b : BrokerId) : Prop where
  unlinked : ∀ c < h.connections.length, (h.connection c).link.broker ≠ b
  clientIds : ∀ id, (h.broker b).clientIds.get? id = none
  destinations : ∀ d, (h.broker b).destinations.get? d = none

theorem vacant_addBroker (wired : Wired h) (name : String) :
    (h.addBroker name).2.Vacant h.brokers.length where
  unlinked c made same := Nat.lt_irrefl _ (same ▸ wired.broker_lt made)
  clientIds id := by
    rw [broker_addBroker, if_pos rfl]
    rfl
  destinations d := by
    rw [broker_addBroker, if_pos rfl]
    rfl

theorem connection_lt_of_clientId {c : ConnectionId} {id : String}
    (has : (h.connection c).clientId = some id) : c < h.connections.length := by
  by_contra beyond
  rw [connection_of_le (Nat.le_of_not_lt beyond)] at has
  cases has

/-! Closing. -/

/-- After the connection has been marked as closed and its sessions are shut, its client id goes. -/
theorem emptied_shuts (h : Hub L) {c : ConnectionId} (made : c < h.connections.length) :
    ∃ after, Beneath (h.setConnection c { h.connection c with state := .closed }) after ∧
      c < after.connections.length ∧
      h.emptied c = after.setConnection c { after.connection c with clientId := none } := by
  have beneath := (Untouched.foldl (shutIn_untouched c)
    (List.range (h.setConnection c { h.connection c with state := .closed }).sessions.length)
    (h.setConnection c { h.connection c with state := .closed })).toBeneath
  refine ⟨_, beneath, ?_, rfl⟩
  rw [beneath.made]
  exact Nat.lt_of_lt_of_eq made List.length_set.symm

theorem emptied_hosts (h : Hub L) {c : ConnectionId} (made : c < h.connections.length)
    (b : BrokerId) : (h.broker b).Hosts ((h.emptied c).broker b) := by
  obtain ⟨after, beneath, -, emptying⟩ := emptied_shuts h made
  rw [emptying]
  exact beneath.hosts b

theorem emptied_retires (sealed : Sealed h) {c : ConnectionId}
    (opened : (h.connection c).state ≠ .closed) : Retires h (h.emptied c) c := by
  obtain ⟨shrinks, -, shut⟩ := emptied_spec sealed c
  have made := connection_lt_of_open opened
  obtain ⟨after, beneath, made', emptying⟩ := emptied_shuts h made
  have mark := connection_setConnection_of_lt made { h.connection c with state := .closed }
  have final : ∀ c', (h.emptied c).connection c' =
      if c' = c then { after.connection c with clientId := none } else after.connection c' := by
    intro c'
    rw [emptying, connection_setConnection_of_lt made']
  constructor
  case made => exact shrinks.connections
  case link => exact shrinks.link
  case defaults =>
    intro c'
    rw [final]
    split
    · rename_i here
      rw [here, beneath.defaults, mark, if_pos rfl]
    · rename_i other
      rw [beneath.defaults, mark, if_neg other]
  case closed =>
    rw [final, if_pos rfl]
    exact (beneath.closed c).mpr (by rw [mark, if_pos rfl])
  case forgotten => rw [final, if_pos rfl]
  case clientId =>
    intro c' other
    rw [final, if_neg other, beneath.clientId, mark, if_neg other]
  case others =>
    intro c' other
    rw [final, if_neg other, beneath.closed, mark, if_neg other]
  case found =>
    intro dir name b found
    exact (shrinks.found dir name).symm.trans found
  case session =>
    intro s open_s
    refine ⟨shrinks.isOpen s open_s, shrinks.connection s, ?_⟩
    intro here
    rw [shut s here] at open_s
    cases open_s

theorem closeConnection_parts (wired : Wired h) (sealed : Sealed h) {c : ConnectionId}
    (opened : (h.connection c).state ≠ .closed) : Parts h (h.closeConnection c).2 c := by
  have retires := emptied_retires sealed opened
  have hosts := emptied_hosts h (connection_lt_of_open opened)
  have reach := (emptied_spec sealed c).1.toStill.linked (h.connection c).link
  rcases closeConnection_of_open opened with ⟨h', done, same⟩ | ⟨e, failed, same⟩
  · rw [same]
    obtain ⟨b, x, reached, released, rfl⟩ := onLink_ok done
    cases released
    rw [reach] at reached
    have lt : b < (h.emptied c).brokers.length := by
      rw [(emptied_spec sealed c).1.brokers]
      exact wired.found_lt (linked_ok.mp reached).1
    have elsewhere : ∀ {b'}, b' ≠ b → h.linked (h.connection c).link ≠ .ok b' := by
      intro b' other there
      rw [reached] at there
      exact other (Except.ok.inj there).symm
    refine { retires with held := ?_, site := ?_ }
    · intro b' id owner
      by_cases here : b' = b
      · subst here
        rw [broker_setBroker_self lt, Broker.clientIds_releaseConnection, (hosts b').clientIds,
          reached]
        simp
      · rw [broker_setBroker_of_ne here, (hosts b').clientIds]
        exact (and_iff_left fun both => elsewhere here both.1).symm
    · intro b' d s site temporary
      by_cases here : b' = b
      · subst here
        rw [broker_setBroker_self lt, Broker.destinations_releaseConnection] at site
        exact ⟨(hosts b').owner site.1 temporary, fun both => site.2 both.2⟩
      · rw [broker_setBroker_of_ne here] at site
        exact ⟨(hosts b').owner site temporary, fun both => elsewhere here both.1⟩
  · rw [same]
    have unreached : ∀ b, h.linked (h.connection c).link ≠ .ok b := by
      intro b reached
      rw [closeLink, onLink_of_linked (reach.trans reached)] at failed
      cases failed
    refine { retires with held := ?_, site := ?_ }
    · intro b id owner
      rw [(hosts b).clientIds]
      exact (and_iff_left fun both => unreached b both.1).symm
    · intro b d s site temporary
      exact ⟨(hosts b).owner site temporary, fun both => unreached b both.1⟩

theorem setClientId_assigns (wired : Wired h) {c : ConnectionId} {id : String}
    (done : h.setClientId c id = .ok h') : Assigns h h' c id := by
  obtain ⟨opened, unset, b, x, reached, taken, rfl⟩ := setClientId_ok done
  obtain ⟨found, rfl⟩ := linked_ok.mp reached
  have now := connection_setConnection_of_lt (h := h.setBroker (h.connection c).link.broker x)
    (connection_lt_of_open opened) { h.connection c with clientId := some id }
  have brokers : ∀ b, ((h.setBroker (h.connection c).link.broker x).setConnection c
      { h.connection c with clientId := some id }).broker b =
        if b = (h.connection c).link.broker then x else h.broker b := by
    intro b
    refine (broker_setBroker h _ x b).trans ?_
    exact if_congr (and_iff_left (wired.found_lt found)) rfl rfl
  have view : ∀ {α : Type} (f : Connection → α),
      f { h.connection c with clientId := some id } = f (h.connection c) → ∀ c',
      f (((h.setBroker (h.connection c).link.broker x).setConnection c
        { h.connection c with clientId := some id }).connection c') = f (h.connection c') :=
    fun f same => view_getD_set f same
  constructor
  case opened => exact opened
  case unset => exact unset
  case given => exact Broker.claim_given taken
  case granted => exact Broker.claim_unheld taken
  case made => exact List.length_set
  case link => exact view Connection.link rfl
  case defaults => exact view Connection.defaults rfl
  case closed => exact fun c' => by rw [view Connection.state rfl]
  case clientId =>
    intro c'
    rw [now]
    split <;> rfl
  case found => exact fun found => found
  case session => exact fun _ => rfl
  case held =>
    intro b id'
    rw [brokers]
    by_cases here : b = (h.connection c).link.broker
    · subst here
      rw [if_pos rfl, Broker.clientIds_claim taken]
      exact if_congr (and_iff_right rfl).symm rfl rfl
    · rw [if_neg here, if_neg fun both => here both.1]
  case destinations =>
    intro b
    rw [brokers]
    split
    · rename_i here
      rw [here]
      exact (Broker.claim_ok taken).1
    · rfl

/-- A temporary destination is new on one broker, for one owner, and all else is as before. -/
theorem createTemporaryOn_lends (h : Hub L) (b : BrokerId) (kind : DestinationKind)
    (owner : String) (b' : BrokerId) :
    ((h.createTemporaryOn b kind owner).2.broker b').clientIds = (h.broker b').clientIds ∧
    ∀ {d s}, ((h.createTemporaryOn b kind owner).2.broker b').destinations.get? d = some s →
      (h.broker b').destinations.get? d = some s ∨ b' = b ∧ s.owner = some owner := by
  have made : (h.createTemporaryOn b kind owner).2.broker b' =
      if b' = b ∧ b < h.brokers.length then
        ((h.broker b).createTemporary (uniqueName h.minted) kind owner).2
      else h.broker b' := broker_setBroker h.mint.2 b _ b'
  rw [made]
  split
  · rename_i here
    rw [here.1]
    refine ⟨rfl, ?_⟩
    intro d s site
    rw [Broker.createTemporary, Table.get?_insert] at site
    split at site
    · cases site
      exact .inr ⟨rfl, rfl⟩
    · exact .inl site
  · exact ⟨rfl, .inl⟩

namespace Holdings

theorem initial : Holdings ({} : Hub L) where
  forgotten _ := rfl
  given has := by cases has
  claimed found := by cases found
  holder found := by cases found
  attended opened := by cases opened
  hosted found := by cases found

theorem beneath (holdings : Holdings h) (beneath : Beneath h h') : Holdings h' where
  forgotten {c} closed := by
    rw [beneath.clientId]
    exact holdings.forgotten ((beneath.closed c).mp closed)
  given {c} has := by
    rw [beneath.clientId] at has
    exact holdings.given has
  claimed {dir name c id} found has := by
    rw [beneath.clientId] at has
    rw [beneath.link] at found ⊢
    rw [(beneath.hosts _).clientIds]
    exact holdings.claimed (beneath.found found) has
  holder {dir name b id owner} found held := by
    rw [(beneath.hosts b).clientIds] at held
    obtain ⟨c, at_b, same, has⟩ := holdings.holder (beneath.found found) held
    refine ⟨c, ?_, ?_, ?_⟩
    · rw [beneath.link, at_b]
    · rw [beneath.link, same]
    · rw [beneath.clientId, has]
  attended {s} opened := by
    obtain ⟨opened, same⟩ := beneath.session opened
    rw [same, ne_eq, beneath.closed]
    exact holdings.attended opened
  hosted {dir name b d s} found site temporary := by
    obtain ⟨s', site', same⟩ := (beneath.hosts b).owner site temporary
    obtain ⟨c, opened, at_b, owner⟩ := holdings.hosted (beneath.found found) site' temporary
    refine ⟨c, ?_, ?_, ?_⟩
    · rwa [ne_eq, beneath.closed]
    · rw [beneath.link, at_b]
    · rw [beneath.link, ← same, owner]

/-- Whatever can be found in the changed directory was there before, or is vacant. -/
theorem setDirectory (holdings : Holdings h) {d : DirectoryId} {t : Table String BrokerId}
    (origin : ∀ {name b}, t.get? name = some b → h.findBroker d name = some b ∨ h.Vacant b) :
    Holdings (h.setDirectory d t) := by
  have origin' : ∀ {dir name b}, (h.setDirectory d t).findBroker dir name = some b →
      h.findBroker dir name = some b ∨ h.Vacant b := by
    intro dir name b found
    rw [findBroker_setDirectory] at found
    split at found
    · rename_i here
      rw [here.1]
      exact origin found
    · exact .inl found
  constructor
  case forgotten => exact holdings.forgotten
  case given => exact holdings.given
  case attended => exact holdings.attended
  case claimed =>
    intro dir name c id found has
    rcases origin' found with found | vacant
    · exact holdings.claimed found has
    · exact absurd rfl (vacant.unlinked c (connection_lt_of_clientId has))
  case holder =>
    intro dir name b id owner found held
    rcases origin' found with found | vacant
    · exact holdings.holder found held
    · exact absurd ((vacant.clientIds id).symm.trans held) (by simp)
  case hosted =>
    intro dir name b d s found site temporary
    rcases origin' found with found | vacant
    · exact holdings.hosted found site temporary
    · exact absurd ((vacant.destinations d).symm.trans site) (by simp)

theorem getOrCreate (holdings : Holdings h) (wired : Wired h) (d : DirectoryId) (name : String) :
    Holdings (h.getOrCreate d name).2 := by
  unfold Hub.getOrCreate
  split
  · exact holdings
  · apply (holdings.beneath (.addBroker h name)).setDirectory
    intro name' b found
    rw [Table.get?_insert] at found
    split at found
    · cases found
      exact .inr (vacant_addBroker wired name)
    · exact .inl found

theorem addConnection (holdings : Holdings h) {x : Connection} (unset : x.clientId = none)
    (opened : x.state ≠ .closed) : Holdings { h with connections := h.connections ++ [x] } := by
  constructor
  case forgotten =>
    intro c closed
    rw [connection_addConnection] at closed ⊢
    split at closed
    · exact absurd closed opened
    · rename_i earlier
      rw [if_neg earlier]
      exact holdings.forgotten closed
  case given =>
    intro c has
    rw [connection_addConnection] at has
    split at has
    · rw [unset] at has
      cases has
    · exact holdings.given has
  case claimed =>
    intro dir name c id found has
    rw [connection_addConnection] at found has ⊢
    split at has
    · rw [unset] at has
      cases has
    · rename_i earlier
      rw [if_neg earlier] at found ⊢
      exact holdings.claimed found has
  case holder =>
    intro dir name b id owner found held
    obtain ⟨c, at_b, same, has⟩ := holdings.holder found held
    refine ⟨c, ?_⟩
    rw [connection_addConnection_of_lt (connection_lt_of_clientId has)]
    exact ⟨at_b, same, has⟩
  case attended =>
    intro s open_s
    have attended := holdings.attended open_s
    refine fun closed => attended ?_
    rwa [← connection_addConnection_of_lt (connection_lt_of_open attended) x]
  case hosted =>
    intro dir name b d s found site temporary
    obtain ⟨c, open_c, at_b, owner⟩ := holdings.hosted found site temporary
    refine ⟨c, ?_⟩
    rw [connection_addConnection_of_lt (connection_lt_of_open open_c)]
    exact ⟨open_c, at_b, owner⟩

theorem joined (holdings : Holdings h) (wired : Wired h) (d : DirectoryId) (name : String)
    (username : Option String) (defaults : Quality) :
    Holdings (h.joined d name username defaults) := by
  have minted : Holdings (h.getOrCreate d name).2.mint.2 :=
    (holdings.getOrCreate wired d name).beneath (.of_eq rfl rfl rfl rfl)
  apply minted.addConnection
  · rfl
  · simp

theorem assigns (holdings : Holdings h) (named : Named h) {c : ConnectionId} {id : String}
    (assigns : Assigns h h' c id) : Holdings h' := by
  have made := connection_lt_of_open assigns.opened
  constructor
  case forgotten =>
    intro c' closed
    have closed' := (assigns.closed c').mp closed
    rw [assigns.clientId, if_neg]
    · exact holdings.forgotten closed'
    · rintro rfl
      exact assigns.opened closed'
  case given =>
    intro c' has
    rw [assigns.clientId] at has
    split at has
    · exact assigns.given (Option.some.inj has)
    · exact holdings.given has
  case claimed =>
    intro dir name c' id' found has
    rw [assigns.clientId] at has
    rw [assigns.link] at found ⊢
    rw [assigns.held]
    by_cases here : c' = c
    · subst here
      rw [if_pos rfl] at has
      rw [if_pos ⟨rfl, (Option.some.inj has).symm⟩]
    · rw [if_neg here] at has
      have held := holdings.claimed (assigns.found found) has
      rw [if_neg]
      · exact held
      · rintro ⟨same, rfl⟩
        rw [same] at held
        rcases assigns.granted with free | mine
        · exact absurd (free.symm.trans held) (by simp)
        · rw [mine] at held
          have owner := Option.some.inj held
          exact here (named.owner_inj (connection_lt_of_clientId has) made owner.symm)
  case holder =>
    intro dir name b id' owner found held
    rw [assigns.held] at held
    split at held
    · rename_i here
      refine ⟨c, ?_, ?_, ?_⟩
      · rw [assigns.link, here.1]
      · rw [assigns.link, Option.some.inj held]
      · rw [assigns.clientId, if_pos rfl, here.2]
    · obtain ⟨c', at_b, same, has⟩ := holdings.holder (assigns.found found) held
      refine ⟨c', ?_, ?_, ?_⟩
      · rw [assigns.link, at_b]
      · rw [assigns.link, same]
      · rw [assigns.clientId, if_neg]
        · exact has
        · rintro rfl
          rw [assigns.unset] at has
          cases has
  case attended =>
    intro s opened
    rw [assigns.session] at opened ⊢
    rw [ne_eq, assigns.closed]
    exact holdings.attended opened
  case hosted =>
    intro dir name b d s found site temporary
    rw [assigns.destinations] at site
    obtain ⟨c', opened, at_b, owner⟩ := holdings.hosted (assigns.found found) site temporary
    refine ⟨c', ?_, ?_, ?_⟩
    · rwa [ne_eq, assigns.closed]
    · rw [assigns.link, at_b]
    · rw [assigns.link, owner]

theorem parts (holdings : Holdings h) (wired : Wired h) (named : Named h) {c : ConnectionId}
    (made : c < h.connections.length) (parts : Parts h h' c) : Holdings h' := by
  -- what a broker that can still be found has left is none of this connection's
  have gone : ∀ {dir name c' owner}, h.findBroker dir name = some (h.connection c').link.broker →
      ¬ (h.linked (h.connection c).link = .ok (h.connection c').link.broker ∧
        owner = (h.connection c).link.owner) →
      owner = (h.connection c').link.owner → c' ≠ c := by
    rintro dir name c' owner found left same rfl
    exact left ⟨wired.linked made found, same⟩
  constructor
  case forgotten =>
    intro c' closed
    by_cases here : c' = c
    · rw [here]
      exact parts.forgotten
    · rw [parts.clientId here]
      exact holdings.forgotten ((parts.others here).mp closed)
  case given =>
    intro c' has
    by_cases here : c' = c
    · rw [here, parts.forgotten] at has
      cases has
    · rw [parts.clientId here] at has
      exact holdings.given has
  case claimed =>
    intro dir name c' id found has
    have other : c' ≠ c := by
      rintro rfl
      rw [parts.forgotten] at has
      cases has
    rw [parts.clientId other] at has
    rw [parts.link] at found ⊢
    refine parts.held.mpr ⟨holdings.claimed (parts.found found) has, ?_⟩
    rintro ⟨-, same⟩
    exact other (named.owner_inj (connection_lt_of_clientId has) made same)
  case holder =>
    intro dir name b id owner found held
    obtain ⟨held, left⟩ := parts.held.mp held
    have found := parts.found found
    obtain ⟨c', rfl, same, has⟩ := holdings.holder found held
    refine ⟨c', ?_, ?_, ?_⟩
    · rw [parts.link]
    · rw [parts.link, same]
    · rw [parts.clientId (gone found left same.symm), has]
  case attended =>
    intro s opened
    obtain ⟨opened, same, other⟩ := parts.session opened
    rw [same, ne_eq, parts.others other]
    exact holdings.attended opened
  case hosted =>
    intro dir name b d s found site temporary
    obtain ⟨⟨s', site', same⟩, left⟩ := parts.site site temporary
    have found := parts.found found
    obtain ⟨c', opened, rfl, owner⟩ := holdings.hosted found site' temporary
    rw [← same, owner, Option.some.injEq] at left
    refine ⟨c', ?_, ?_, ?_⟩
    · rwa [ne_eq, parts.others (gone found left rfl)]
    · rw [parts.link]
    · rw [parts.link, ← same, owner]

theorem addSession (holdings : Holdings h) {x : Session}
    (opened : (h.connection x.connection).state ≠ .closed) :
    Holdings { h with sessions := h.sessions ++ [x] } := by
  refine { holdings with attended := ?_ }
  intro s open_s
  rw [session_addSession] at open_s ⊢
  split at open_s
  · rename_i last
    rw [if_pos last]
    exact opened
  · rename_i earlier
    rw [if_neg earlier]
    exact holdings.attended open_s

/-- A temporary destination is made for the open connection of an open session. -/
theorem createTemporaryOn (holdings : Holdings h) {s : SessionId}
    (opened : (h.session s).isOpen = true) (kind : DestinationKind) :
    Holdings (h.createTemporaryOn (h.sessionLink s).broker kind (h.sessionLink s).owner).2 := by
  have lends := createTemporaryOn_lends h (h.sessionLink s).broker kind (h.sessionLink s).owner
  constructor
  case forgotten => exact holdings.forgotten
  case given => exact holdings.given
  case attended => exact holdings.attended
  case claimed =>
    intro dir name c id found has
    rw [(lends _).1]
    exact holdings.claimed found has
  case holder =>
    intro dir name b id owner found held
    rw [(lends b).1] at held
    exact holdings.holder found held
  case hosted =>
    intro dir name b d s' found site temporary
    rcases (lends b).2 site with site | ⟨rfl, owner⟩
    · exact holdings.hosted found site temporary
    · exact ⟨(h.session s).connection, holdings.attended opened, rfl, owner⟩

theorem createTemporary (holdings : Holdings h) {s : SessionId} {kind : DestinationKind}
    {d : Destination} (done : h.sessionTemporary s kind = .ok (d, h')) : Holdings h' := by
  obtain ⟨opened, b, reached, rfl⟩ := sessionTemporary_ok done
  obtain ⟨-, rfl⟩ := linked_ok.mp reached
  exact holdings.createTemporaryOn opened kind

theorem createSession (holdings : Holdings h) {c : ConnectionId} {transacted : Bool}
    {mode : AcknowledgeMode} {s : SessionId}
    (done : h.createSession c transacted mode = .ok (s, h')) : Holdings h' := by
  obtain ⟨opened, x, rfl, rfl⟩ := createSession_ok done
  have minted : Holdings h.mint.2 := holdings.beneath (.of_eq rfl rfl rfl rfl)
  exact minted.addSession opened

theorem closeConnection (holdings : Holdings h) (sound : Sound h past) (c : ConnectionId) :
    Holdings (h.closeConnection c).2 := by
  by_cases closed : (h.connection c).state = .closed
  · rw [closeConnection_of_closed closed]
    exact holdings
  · exact holdings.parts sound.consistent.wired sound.consistent.named
      (connection_lt_of_open closed)
      (closeConnection_parts sound.consistent.wired sound.sealed closed)

theorem connectAs (holdings : Holdings h) (sound : Sound h past) (f : Factory)
    (username : Option String) : Holdings (f.connectAs h username).2 := by
  have both : Sound (f.connectAs h username).2 past ∧ Holdings (f.connectAs h username).2 := by
    refine connectAs_keeps (P := fun h => Sound h past ∧ Holdings h) ⟨sound, holdings⟩ ?_ ?_ ?_ ?_
    · intro d name
      exact ⟨sound.joined d name username f.defaults,
        holdings.joined sound.consistent.wired d name username f.defaults⟩
    · rintro h h' c id ⟨sound, holdings⟩ done
      exact ⟨sound.setClientId done,
        holdings.assigns sound.consistent.named (setClientId_assigns sound.consistent.wired done)⟩
    · rintro h c ⟨sound, holdings⟩
      exact ⟨sound.closeConnection c, holdings.closeConnection sound c⟩
    · rintro h c ⟨sound, holdings⟩
      refine ⟨sound.idle (dropConnection_idle h c), holdings.beneath ?_⟩
      exact .setConnection rfl rfl rfl Iff.rfl
  exact both.2

theorem perform (holdings : Holdings h) (sound : Sound h past) (r : Request L) :
    Holdings (h.perform r).2 := by
  cases r with
  | openBroker d name => exact holdings.getOrCreate sound.consistent.wired d name
  | connect f username => exact holdings.connectAs sound f username
  | setClientId c id =>
    refine adoptHub_of holdings fun _ done => ?_
    exact holdings.assigns sound.consistent.named (setClientId_assigns sound.consistent.wired done)
  | closeConnection c => exact holdings.closeConnection sound c
  | createSession c transacted mode =>
    exact adopt_of holdings fun _ _ done => holdings.createSession done
  | createSessionFrom c settings =>
    refine adopt_of holdings fun _ _ done => ?_
    obtain ⟨mode, done⟩ := createSessionFrom_ok done
    exact holdings.createSession done
  | createTemporary s kind => exact adopt_of holdings fun _ _ done => holdings.createTemporary done
  | _ => exact holdings.beneath (perform_beneath h rfl)

theorem after (holdings : Holdings h) (sound : Sound h past) (e : Event L) :
    Holdings (h.after e) := by
  cases e with
  | request r => exact holdings.perform sound r
  | turn => exact holdings.beneath (turn_beneath h)

end Holdings

theorem holdings_reached (events : List (Event L)) : Holdings (reached events) := by
  induction events using List.reverseRecOn with
  | nil => exact .initial
  | append_singleton events e ih =>
    rw [reached_append_singleton]
    exact ih.after (sound_reached events) e

end Courier.Hub
