import Courier.Proofs.Hub.Guarding

/-!
# Soundness

Between two events the ledger is in order, and whoever is open is guarded. Each request keeps that,
with the attachment it makes, if any, on record, and so does each turn of a delivery.
-/

namespace Courier.Hub

set_option autoImplicit false

variable {L : Type} {h h' : Hub L} {past : List (ConsumerId × Destination)}

/-- What the hub keeps true between any two events. -/
structure Sound (h : Hub L) (past : List (ConsumerId × Destination)) : Prop where
  consistent : Consistent h past
  sealed : Sealed h
  tended : Tended h

namespace Sound

theorem guarded (sound : Sound h past) : Guarded h := ⟨sound.sealed, sound.tended⟩

theorem of_guarded (consistent : Consistent h past) (guarded : Guarded h) : Sound h past :=
  ⟨consistent, guarded.sealed, guarded.tended⟩

theorem steady {past' : List (ConsumerId × Destination)} (sound : Sound h past)
    (consistent : Consistent h' past') (steady : Steady h h') : Sound h' past' :=
  .of_guarded consistent (sound.guarded.steady steady)

theorem idle (sound : Sound h past) (idle : Idle h h') : Sound h' past :=
  sound.steady (idle.frame.consistent sound.consistent) idle.steady

theorem setClientId (sound : Sound h past) {c : ConnectionId} {id : String}
    (done : h.setClientId c id = .ok h') : Sound h' past := by
  obtain ⟨h₁, first, second⟩ := setClientId_idle done
  exact (sound.idle first).idle second

/-! Requests that make and close. -/

theorem getOrCreate (sound : Sound h past) (d : DirectoryId) (name : String) :
    Sound (h.getOrCreate d name).2 past :=
  sound.steady (sound.consistent.getOrCreate d name) (getOrCreate_steady h d name)

theorem closeConnection (sound : Sound h past) (c : ConnectionId) :
    Sound (h.closeConnection c).2 past :=
  .of_guarded (sound.consistent.closeConnection sound.sealed c) (sound.guarded.closeConnection c)

theorem joined (sound : Sound h past) (d : DirectoryId) (name : String)
    (username : Option String) (defaults : Quality) :
    Sound (h.joined d name username defaults) past := by
  have inv := sound.consistent.getOrCreate d name
  refine (sound.getOrCreate d name).steady (inv.mint.addConnection ?_ ?_ ?_ ?_)
    (.of_eq rfl rfl fun _ => id)
  · exact sound.consistent.getOrCreate_lt d name
  · intro dir name' found
    exact sound.consistent.getOrCreate_found found
  · exact ⟨_, Nat.lt_succ_self _, rfl⟩
  · intro c made same
    obtain ⟨n, lt, owner⟩ := inv.named.owner made
    have again := uniqueName_injective (owner.symm.trans same)
    omega

theorem connectAs (sound : Sound h past) (f : Factory) (username : Option String) :
    Sound (f.connectAs h username).2 past :=
  connectAs_keeps (P := fun h => Sound h past) sound
    (fun d name => sound.joined d name username f.defaults)
    (fun sound => sound.setClientId) (fun c sound => sound.closeConnection c)
    (fun c sound => sound.idle (dropConnection_idle _ c))

theorem addSession (sound : Sound h past) {x : Session}
    (made : x.connection < h.connections.length) :
    Sound { h with sessions := h.sessions ++ [x] } past :=
  .of_guarded (sound.consistent.addSession made) (sound.guarded.addSession x)

theorem createSession (sound : Sound h past) {c : ConnectionId} {transacted : Bool}
    {mode : AcknowledgeMode} {s : SessionId}
    (done : h.createSession c transacted mode = .ok (s, h')) : Sound h' past := by
  obtain ⟨opened, x, rfl, rfl⟩ := createSession_ok done
  exact (sound.idle (mint_idle h)).addSession (connection_lt_of_open opened)

theorem createSessionFrom (sound : Sound h past) {c : ConnectionId} {settings : SessionSettings}
    {s : SessionId} (done : h.createSessionFrom c settings = .ok (s, h')) : Sound h' past := by
  obtain ⟨mode, done⟩ := createSessionFrom_ok done
  exact sound.createSession done

theorem createDestination (sound : Sound h past) {s : SessionId} {name : String}
    {kind : DestinationKind} {d : Destination}
    (done : h.sessionDestination s name kind = .ok (d, h')) : Sound h' past := by
  obtain ⟨_, -, done⟩ := ok_of_bind done
  have consistent := sound.consistent.createDestination done
  obtain ⟨b, -, done⟩ := ok_of_bind done
  exact sound.steady consistent (createDestinationOn_steady done)

theorem createTemporary (sound : Sound h past) {s : SessionId} {kind : DestinationKind}
    {d : Destination} (done : h.sessionTemporary s kind = .ok (d, h')) : Sound h' past := by
  obtain ⟨_, -, done⟩ := ok_of_bind done
  have consistent := sound.consistent.createTemporary done
  obtain ⟨b, -, done⟩ := ok_of_bind done
  cases done
  exact sound.steady consistent (createTemporaryOn_steady h b kind _)

theorem deleteTemporary (sound : Sound h past) {s : SessionId} {d : Destination}
    (done : h.sessionDeleteTemporary s d = .ok h') : Sound h' past := by
  obtain ⟨_, -, done⟩ := ok_of_bind done
  exact sound.steady (sound.consistent.deleteTemporary done) (onLink_steady done)

theorem closeConsumer (sound : Sound h past) (k : ConsumerId) : Sound (h.closeConsumer k) past :=
  .of_guarded (sound.consistent.closeConsumer k) (sound.guarded.closeConsumer k)

theorem closeSession (sound : Sound h past) {s : SessionId} (done : h.closeSession s = .ok h') :
    Sound h' past := by
  have guarded := sound.guarded.closeSession done
  unfold Hub.closeSession at done
  split at done
  · cases done
    exact .of_guarded (sound.consistent.shutdownSession s) guarded
  · cases done

theorem attach (sound : Sound h past) {k : ConsumerId} {d : Destination}
    (opened : (h.consumer k).closed = false) (done : h.attach k d = .ok h') :
    Sound h' (past ++ [(k, d)]) :=
  sound.steady (sound.consistent.attach opened done) (attach_steady done)

/-- A new consumer, before it is attached to anything. -/
theorem addConsumer (sound : Sound h past) {s : SessionId} (destination : Option Destination)
    (opened : (h.session s).isOpen = true) :
    Sound { h.mint.2 with
      consumers := h.consumers ++
        [{ id := "consumer-" ++ uniqueName h.minted, session := s, destination }] } past := by
  generalize new : ({ id := "consumer-" ++ uniqueName h.minted, session := s, destination } :
    Consumer L) = c
  have session_c : c.session = s := by rw [← new]
  have held_c : c.held = true := by rw [← new]
  have consistent : Consistent { h.mint.2 with consumers := h.consumers ++ [c] } past := by
    refine sound.consistent.mint.addConsumer (by rw [← new]) ?_ ?_ ?_
    · rw [session_c]
      exact session_lt_of_open opened
    · exact ⟨h.minted, Nat.lt_succ_self _, by rw [← new]⟩
    · intro k made same
      obtain ⟨n, lt, id⟩ := sound.consistent.named.id made
      rw [← new] at same
      have again := uniqueName_injective ((String.append_right_inj _).mp (id.symm.trans same))
      omega
  have guarded := (sound.guarded.steady (mint_idle h).steady).addConsumer held_c
    (by rwa [session_c])
  exact .of_guarded consistent guarded

theorem createConsumer (sound : Sound h past) {s : SessionId} {destination : Option Destination}
    {k : ConsumerId} (done : h.createConsumer s destination = .ok (k, h')) :
    Sound h' (past ++ (destination.map (k, ·)).toList) := by
  obtain ⟨_, checked, done⟩ := ok_of_bind done
  have added := sound.addConsumer destination (session_open_of_ensure checked)
  cases destination with
  | none =>
    cases done
    rwa [Option.map_none, Option.toList_none, List.append_nil]
  | some d =>
    obtain ⟨h₁, attached, done⟩ := ok_of_bind done
    cases done
    refine added.attach ?_ attached
    exact congrArg Consumer.closed ((consumer_addConsumer h.mint.2 ..).trans (if_pos rfl))

theorem receiveFrom (sound : Sound h past) {k : ConsumerId} {d : Destination}
    {m : Option Message} (done : h.receiveFrom k d = .ok (m, h')) :
    Sound h' (past ++ [(k, d)]) := by
  obtain ⟨_, checked, done⟩ := ok_of_bind done
  have opened := consumer_open_of_ensure checked
  split at done
  · cases done
  · obtain ⟨h₁, attached, done⟩ := ok_of_bind done
    have idle := pop_idle h₁ k d
    rw [Except.ok.inj done] at idle
    exact (sound.attach opened attached).idle idle

/-! A consumer out of reach closes. -/

theorem reap {k : ConsumerId} (consistent : Consistent h past) (guarded : Guarded (h.reap k)) :
    Sound (h.reap k) past := by
  refine .of_guarded ?_ guarded
  unfold Hub.reap
  split
  · exact consistent
  · exact consistent.closeConsumer k

theorem dropConsumer (sound : Sound h past) (k : ConsumerId) : Sound (h.dropConsumer k) past := by
  have frame : Frame h (h.setConsumer k { h.consumer k with held := false }) :=
    .setConsumer rfl rfl rfl rfl
  exact reap (frame.consistent sound.consistent) (sound.guarded.dropConsumer k)

/-! Turns. -/

theorem resumed (sound : Sound h past) {d : Delivery L} {outer : List (Delivery L)}
    (deliveries : h.deliveries = d :: outer) : Sound (h.resumed d outer) past := by
  have frame : Frame h { h with deliveries := { d with serving := none } :: outer } :=
    .of_eq rfl rfl rfl rfl rfl (Nat.le_refl _)
  have guarded := sound.guarded.resumed deliveries
  cases served : d.serving with
  | none =>
    rw [Hub.resumed, served] at guarded ⊢
    exact .of_guarded (frame.consistent sound.consistent) guarded
  | some k =>
    rw [Hub.resumed, served] at guarded ⊢
    exact reap (frame.consistent sound.consistent) guarded

theorem serve (sound : Sound h past) (d' : Delivery L) {d : Delivery L} {outer : List (Delivery L)}
    (deliveries : h.deliveries = d :: outer) (unserving : d.serving = none) (e : Endpoint L) :
    Sound (h.serve d' outer e).2 past := by
  refine .of_guarded ?_ (sound.guarded.serve d' deliveries unserving e)
  have going : ∀ d' : Delivery L, Frame h { h with deliveries := d' :: outer } :=
    fun _ => .of_eq rfl rfl rfl rfl rfl (Nat.le_refl _)
  cases e with
  | listener l => exact (going d').consistent sound.consistent
  | consumer k source =>
    unfold Hub.serve
    dsimp only
    split
    · exact (going d').consistent sound.consistent
    · split
      · exact (going _).consistent sound.consistent
      · refine Frame.consistent ?_ ((going d').consistent sound.consistent)
        exact .setConsumer rfl rfl rfl rfl

theorem advance (sound : Sound h past) {t : Turn L} (done : h.advance = some (t, h')) :
    Sound h' past := by
  refine .of_guarded ?_ (sound.guarded.advance done)
  cases deliveries : h.deliveries with
  | nil =>
    rw [advance_of_nil deliveries] at done
    cases done
  | cons d outer =>
    have going := sound.resumed deliveries
    cases waiting : d.waiting with
    | nil =>
      rw [advance_of_done deliveries waiting] at done
      cases done
      have frame : Frame (h.resumed d outer) { h.resumed d outer with deliveries := outer } :=
        .of_eq rfl rfl rfl rfl rfl (Nat.le_refl _)
      exact frame.consistent going.consistent
    | cons e rest =>
      rw [advance_of_waiting deliveries waiting] at done
      have served := going.serve { d with serving := none, waiting := rest }
        (deliveries_resumed h d outer) rfl e
      rw [Option.some.inj done] at served
      exact served.consistent

end Sound

end Courier.Hub
