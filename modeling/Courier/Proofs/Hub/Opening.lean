import Courier.Hub.Factory
import Courier.Proofs.Hub.State

/-!
# Opening a connection

A connection first joins its broker without a client id and is then given the one its factory asks
for; if it cannot have that, it is closed and let go at once. What each of these steps keeps,
opening a connection keeps.
-/

namespace Courier.Hub

set_option autoImplicit false

variable {L : Type} {h h' : Hub L}

/-- The hub with one more connection, to the broker of that name. -/
def joined (h : Hub L) (d : DirectoryId) (name : String) (username : Option String)
    (defaults : Quality) : Hub L :=
  { (h.getOrCreate d name).2.mint.2 with
    connections := (h.getOrCreate d name).2.connections ++ [{
      link := ⟨d, name, (h.getOrCreate d name).1, uniqueName (h.getOrCreate d name).2.minted,
        username⟩
      defaults }] }

/-- Looking for a broker may make one and note it, and leaves all else alone. -/
theorem getOrCreate_rest (h : Hub L) (d : DirectoryId) (name : String) :
    ∃ brokers directories, (h.getOrCreate d name).2 = { h with brokers, directories } := by
  unfold getOrCreate
  split
  · exact ⟨h.brokers, h.directories, rfl⟩
  · exact ⟨_, _, rfl⟩

theorem joined_rest (h : Hub L) (d : DirectoryId) (name : String) (username : Option String)
    (defaults : Quality) :
    ∃ brokers directories minted x, x.defaults = defaults ∧
      h.joined d name username defaults =
        { h with brokers, directories, minted, connections := h.connections ++ [x] } := by
  obtain ⟨brokers, directories, same⟩ := getOrCreate_rest h d name
  rw [joined, same]
  exact ⟨_, _, _, _, rfl, rfl⟩

theorem openConnection_keeps {P : Hub L → Prop} {d : DirectoryId} {username : Option String}
    {defaults : Quality} (holds : P h) (joined : ∀ name, P (h.joined d name username defaults))
    (assigned : ∀ {h h' c id}, P h → h.setClientId c id = .ok h' → P h')
    (closed : ∀ {h} c, P h → P (h.closeConnection c).2)
    (dropped : ∀ {h} c, P h → P (h.dropConnection c)) (url : Url) (clientId : Option String) :
    P (h.openConnection d url username clientId defaults).2 := by
  unfold openConnection openLink
  cases url.host? with
  | none => exact holds
  | some name =>
    cases clientId with
    | none => exact joined name
    | some id =>
      dsimp only
      split
      · exact assigned (joined name) ‹_›
      · exact dropped _ (closed _ (joined name))

theorem connectAs_keeps {P : Hub L → Prop} {f : Factory} {username : Option String} (holds : P h)
    (joined : ∀ d name, P (h.joined d name username f.defaults))
    (assigned : ∀ {h h' c id}, P h → h.setClientId c id = .ok h' → P h')
    (closed : ∀ {h} c, P h → P (h.closeConnection c).2)
    (dropped : ∀ {h} c, P h → P (h.dropConnection c)) : P (f.connectAs h username).2 := by
  unfold Factory.connectAs
  split
  · exact holds
  · exact openConnection_keeps holds (joined _) assigned closed dropped _ _

theorem connection_open_of_ensure {c : ConnectionId} (checked : h.ensureConnectionOpen c = .ok ()) :
    (h.connection c).state ≠ .closed := by
  intro closed
  rw [ensureConnectionOpen, if_pos closed] at checked
  cases checked

/-- A client id is assigned to an open connection that has none, once its broker has granted it. -/
theorem setClientId_ok {c : ConnectionId} {id : String} (done : h.setClientId c id = .ok h') :
    (h.connection c).state ≠ .closed ∧ (h.connection c).clientId = none ∧
    ∃ b x, h.linked (h.connection c).link = .ok b ∧
      (h.broker b).claim id (h.connection c).link.owner = .ok x ∧
      h' = (h.setBroker b x).setConnection c { h.connection c with clientId := some id } := by
  obtain ⟨_, checked, done⟩ := ok_of_bind done
  dsimp only at done
  split at done
  · cases done
  · rename_i unset
    split at done
    · cases done
    · obtain ⟨h₁, claimed, done⟩ := ok_of_bind done
      obtain ⟨b, x, reached, taken, rfl⟩ := onLink_ok claimed
      exact ⟨connection_open_of_ensure checked, unset, b, x, reached, taken,
        (Except.ok.inj done).symm⟩

/-- A session is made for an open connection. -/
theorem createSession_ok {c : ConnectionId} {transacted : Bool} {mode : AcknowledgeMode}
    {s : SessionId} (done : h.createSession c transacted mode = .ok (s, h')) :
    (h.connection c).state ≠ .closed ∧ ∃ x : Session, x.connection = c ∧
      h' = { h.mint.2 with sessions := h.sessions ++ [x] } := by
  obtain ⟨_, checked, done⟩ := ok_of_bind done
  obtain ⟨mode, -, done⟩ := ok_of_bind done
  obtain ⟨b, -, done⟩ := ok_of_bind done
  cases done
  exact ⟨connection_open_of_ensure checked, _, rfl, rfl⟩

theorem createSessionFrom_ok {c : ConnectionId} {settings : SessionSettings} {s : SessionId}
    (done : h.createSessionFrom c settings = .ok (s, h')) :
    ∃ mode, h.createSession c settings.transacted mode = .ok (s, h') := by
  obtain ⟨mode, -, done⟩ := ok_of_bind done
  exact ⟨mode, done⟩

end Courier.Hub
