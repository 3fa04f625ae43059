import Courier.Proofs.Hub.Registrations
import Courier.Proofs.Hub.Shifts

/-!
# Keeping track

A connection notes the sessions made from it, and a session its producers and consumers, so as to
close them one day. A note keeps nothing in reach: whatever nobody can reach is passed over when it
comes to closing, and struck when something new is noted. No note is ever missing all the same, so
closing what is noted closes all there is, as far as anybody can tell.
-/

namespace Courier

set_option autoImplicit false

/-- Entries keep their places and their parents, and none is wanted that was not. -/
structure Wanes {α : Type} (parent : α → Nat) (wanted : α → Prop) (l l' : List α) : Prop where
  length : l'.length = l.length
  origin : ∀ {i : Nat} {x' : α}, l'[i]? = some x' →
    ∃ x, l[i]? = some x ∧ parent x' = parent x ∧ (wanted x' → wanted x)

theorem getD_of_some {α : Type} {l : List α} {i : Nat} {x fallback : α} (found : l[i]? = some x) :
    l.getD i fallback = x := by
  rw [List.getD_eq_getElem?_getD, found, Option.getD_some]

namespace Wanes
variable {α : Type} {parent : α → Nat} {wanted : α → Prop} {l l' l'' : List α}

theorem refl (parent : α → Nat) (wanted : α → Prop) (l : List α) : Wanes parent wanted l l :=
  ⟨rfl, fun found => ⟨_, found, rfl, id⟩⟩

theorem trans (first : Wanes parent wanted l l') (second : Wanes parent wanted l' l'') :
    Wanes parent wanted l l'' where
  length := second.length.trans first.length
  origin found := by
    obtain ⟨x', found', same', back'⟩ := second.origin found
    obtain ⟨x, found, same, back⟩ := first.origin found'
    exact ⟨x, found, same'.trans same, back ∘ back'⟩

theorem set {i : Nat} {x fallback : α} (same : parent x = parent (l.getD i fallback))
    (back : wanted x → wanted (l.getD i fallback)) : Wanes parent wanted l (l.set i x) where
  length := List.length_set
  origin {j y} found := by
    rw [List.getElem?_set] at found
    split at found
    · rename_i here
      subst here
      split at found
      · rename_i inside
        cases found
        rw [List.getD_eq_getElem?_getD, List.getElem?_eq_getElem inside] at same back
        exact ⟨_, List.getElem?_eq_getElem inside, same, back⟩
      · cases found
    · exact ⟨y, found, rfl, id⟩

theorem map {f : α → α} (same : ∀ x, parent (f x) = parent x)
    (back : ∀ x, wanted (f x) → wanted x) : Wanes parent wanted l (l.map f) where
  length := List.length_map f
  origin found := by
    rw [List.getElem?_map, Option.map_eq_some_iff] at found
    obtain ⟨x, found, rfl⟩ := found
    exact ⟨x, found, same x, back x⟩

theorem getD (wanes : Wanes parent wanted l l') {i : Nat} (made : i < l'.length) (fallback : α) :
    parent (l'.getD i fallback) = parent (l.getD i fallback) ∧
      (wanted (l'.getD i fallback) → wanted (l.getD i fallback)) := by
  obtain ⟨x, found, same⟩ := wanes.origin (List.getElem?_eq_getElem made)
  rwa [getD_of_some (List.getElem?_eq_getElem made), getD_of_some found]

end Wanes

/-- The notes of `j` list entries that belong to `j`, the oldest first, and whatever is wanted is in
the notes of its parent. -/
structure Covers {α : Type} (parent : α → Nat) (wanted : α → Prop) (l : List α)
    (notes : Nat → List Nat) : Prop where
  made : ∀ j, (notes j).Sublist (List.range l.length)
  belongs : ∀ {i j : Nat} {x : α}, l[i]? = some x → i ∈ notes j → parent x = j
  noted : ∀ {i : Nat} {x : α}, l[i]? = some x → wanted x → i ∈ notes (parent x)

namespace Covers
variable {α : Type} {parent : α → Nat} {wanted : α → Prop} {l l' : List α}
  {notes notes' : Nat → List Nat}

theorem nil (parent : α → Nat) (wanted : α → Prop) : Covers parent wanted [] fun _ => [] where
  made _ := List.nil_sublist _
  belongs found := by cases found
  noted found := by cases found

theorem lt (covers : Covers parent wanted l notes) {i j : Nat} (mem : i ∈ notes j) :
    i < l.length := List.mem_range.mp ((covers.made j).subset mem)

theorem parent_of_mem (covers : Covers parent wanted l notes) {i j : Nat} (mem : i ∈ notes j)
    (fallback : α) : parent (l.getD i fallback) = j := by
  have found := List.getElem?_eq_getElem (covers.lt mem)
  rw [getD_of_some found]
  exact covers.belongs found mem

theorem mem (covers : Covers parent wanted l notes) {i : Nat} (made : i < l.length) {fallback : α}
    (wants : wanted (l.getD i fallback)) : i ∈ notes (parent (l.getD i fallback)) := by
  have found := List.getElem?_eq_getElem made
  rw [getD_of_some found] at wants ⊢
  exact covers.noted found wants

theorem wanes (covers : Covers parent wanted l notes) (wanes : Wanes parent wanted l l') :
    Covers parent wanted l' notes where
  made j := wanes.length ▸ covers.made j
  belongs found mem := by
    obtain ⟨x, found, same, -⟩ := wanes.origin found
    exact same.trans (covers.belongs found mem)
  noted found wants := by
    obtain ⟨x, found, same, back⟩ := wanes.origin found
    rw [same]
    exact covers.noted found (back wants)

/-- Notes of what is not wanted may be struck. -/
theorem strike (covers : Covers parent wanted l notes) (fewer : ∀ j, (notes' j).Sublist (notes j))
    (kept : ∀ {i x}, l[i]? = some x → wanted x → i ∈ notes (parent x) → i ∈ notes' (parent x)) :
    Covers parent wanted l notes' where
  made j := (fewer j).trans (covers.made j)
  belongs found mem := covers.belongs found ((fewer _).subset mem)
  noted found wants := kept found wants (covers.noted found wants)

/-- What is new is noted by its parent. -/
theorem add (covers : Covers parent wanted l notes) (x : α) :
    Covers parent wanted (l ++ [x])
      (Function.update notes (parent x) (notes (parent x) ++ [l.length])) := by
  have entry : ∀ {i y}, (l ++ [x])[i]? = some y → l[i]? = some y ∨ i = l.length ∧ y = x := by
    intro i y found
    rcases Nat.lt_trichotomy i l.length with inside | rfl | beyond
    · rw [List.getElem?_append_left inside] at found
      exact .inl found
    · rw [List.getElem?_concat_length] at found
      exact .inr ⟨rfl, (Option.some.inj found).symm⟩
    · rw [List.getElem?_eq_none (List.length_append ▸ beyond)] at found
      cases found
  have note : ∀ {i j}, i ∈ Function.update notes (parent x) (notes (parent x) ++ [l.length]) j ↔
      i ∈ notes j ∨ j = parent x ∧ i = l.length := by
    intro i j
    rw [Function.update_apply]
    split
    · rename_i here
      simp [here]
    · rename_i elsewhere
      simp [elsewhere]
  refine ⟨?_, ?_, ?_⟩
  · intro j
    rw [Function.update_apply, List.length_append, List.length_singleton, List.range_succ]
    split
    · exact (covers.made _).append (List.Sublist.refl _)
    · exact (covers.made j).trans (List.sublist_append_left ..)
  · intro i j y found mem
    rcases entry found with found | ⟨rfl, rfl⟩
    · rcases note.mp mem with mem | ⟨-, rfl⟩
      · exact covers.belongs found mem
      · exact absurd (List.getElem?_eq_some_iff.mp found).1 (Nat.lt_irrefl _)
    · rcases note.mp mem with mem | ⟨rfl, -⟩
      · exact absurd (covers.lt mem) (Nat.lt_irrefl _)
      · rfl
  · intro i y found wants
    rcases entry found with found | ⟨rfl, rfl⟩
    · exact note.mpr (.inl (covers.noted found wants))
    · exact note.mpr (.inr ⟨rfl, rfl⟩)

/-- What is out of reach is struck before something new is noted. -/
theorem renew (covers : Covers parent wanted l notes) (x : α) {live : Nat → Bool}
    (kept : ∀ {i y}, l[i]? = some y → wanted y → live i = true) :
    Covers parent wanted (l ++ [x])
      (Function.update notes (parent x) ((notes (parent x)).filter live ++ [l.length])) := by
  have struck : Covers parent wanted l
      (Function.update notes (parent x) ((notes (parent x)).filter live)) := by
    refine covers.strike ?_ ?_
    · intro j
      rw [Function.update_apply]
      split
      · rename_i here
        rw [here]
        exact List.filter_sublist
      · exact List.Sublist.refl _
    · intro i y found wants mem
      rw [Function.update_apply]
      split
      · rename_i here
        rw [here] at mem
        exact List.mem_filter.mpr ⟨mem, kept found wants⟩
      · exact mem
  have added := struck.add x
  rwa [Function.update_self, Function.update_idem] at added

end Covers

/-- Open, and held by somebody. -/
def Producer.Wanted (p : Producer) : Prop := p.closed = false ∧ p.held = true

/-- What connections note of their sessions, and sessions of their producers and consumers. -/
structure Notes where
  sessions : ConnectionId → List SessionId := fun _ => []
  producers : SessionId → List ProducerId := fun _ => []
  consumers : SessionId → List ConsumerId := fun _ => []

namespace Notes

def addSession (n : Notes) (c : ConnectionId) (s : SessionId) : Notes :=
  { n with sessions := Function.update n.sessions c (n.sessions c ++ [s]) }

def setSessions (n : Notes) (c : ConnectionId) (ss : List SessionId) : Notes :=
  { n with sessions := Function.update n.sessions c ss }

theorem sessions_setSessions (n : Notes) (c : ConnectionId) (ss : List SessionId)
    (c' : ConnectionId) :
    (n.setSessions c ss).sessions c' = if c' = c then ss else n.sessions c' :=
  Function.update_apply ..

/-- Sessions that shut strike all they have noted. -/
def drain (n : Notes) (shut : List SessionId) : Notes :=
  { n with
    producers := fun s => if s ∈ shut then [] else n.producers s
    consumers := fun s => if s ∈ shut then [] else n.consumers s }

end Notes

namespace Hub

variable {L : Type} {h h' : Hub L} {n : Notes}

/-- The notes after an event. Before a producer or a consumer is noted, those out of reach are
struck. -/
def note (h : Hub L) (n : Notes) : Event L → Notes
  | .request (.createSession c transacted mode) =>
    match h.createSession c transacted mode with
    | .ok (s, _) => n.addSession c s
    | .error _ => n
  | .request (.createSessionFrom c settings) =>
    match h.createSessionFrom c settings with
    | .ok (s, _) => n.addSession c s
    | .error _ => n
  | .request (.createProducer s destination) =>
    match h.createProducer s destination with
    | .ok (p, _) => { n with
        producers := Function.update n.producers s ((n.producers s).filter h.producerLive ++ [p]) }
    | .error _ => n
  | .request (.createConsumer s destination) =>
    match h.createConsumer s destination with
    | .ok (k, _) => { n with
        consumers := Function.update n.consumers s ((n.consumers s).filter h.consumerLive ++ [k]) }
    | .error _ => n
  | .request (.closeSession s) =>
    if (h.session s).isOpen then
      (n.drain [s]).setSessions (h.session s).connection
        ((n.sessions (h.session s).connection).filter (· ≠ s))
    else n
  | .request (.closeConnection c) =>
    if (h.connection c).state = .closed then n
    else
      (n.drain ((n.sessions c).filter fun s => h.sessionLive s && (h.session s).isOpen)).setSessions
        c []
  | _ => n

def notes (h : Hub L) (n : Notes) : List (Event L) → Notes
  | [] => n
  | e :: events => (h.after e).notes (h.note n e) events

/-- The notes after a run from the first hub. -/
def noted (events : List (Event L)) : Notes := ({} : Hub L).notes {} events

theorem noted_append_singleton (events : List (Event L)) (e : Event L) :
    noted (events ++ [e]) = (reached events).note (noted events) e := by
  have going : ∀ (h : Hub L) (n : Notes),
      h.notes n (events ++ [e]) = (h.follow events).note (h.notes n events) e := by
    induction events with
    | nil => exact fun h n => rfl
    | cons e' events ih => exact fun h n => ih (h.after e') (h.note n e')
  exact going {} {}

/-! What wanes. -/

/-- Nothing was made, and nothing has come back: neither what was closed nor a producer that was let
go. -/
structure Lulls (h h' : Hub L) : Prop where
  sessions : Wanes Session.connection (·.isOpen = true) h.sessions h'.sessions
  producers : Wanes Producer.session Producer.Wanted h.producers h'.producers
  consumers : Wanes Consumer.session (·.closed = false) h.consumers h'.consumers

namespace Lulls

theorem of_eq (sessions : h'.sessions = h.sessions) (producers : h'.producers = h.producers)
    (consumers : h'.consumers = h.consumers) : Lulls h h' where
  sessions := sessions ▸ .refl _ _ _
  producers := producers ▸ .refl _ _ _
  consumers := consumers ▸ .refl _ _ _

theorem refl (h : Hub L) : Lulls h h := of_eq rfl rfl rfl

theorem trans {h'' : Hub L} (first : Lulls h h') (second : Lulls h' h'') : Lulls h h'' where
  sessions := first.sessions.trans second.sessions
  producers := first.producers.trans second.producers
  consumers := first.consumers.trans second.consumers

end Lulls

theorem Shift.lulls (shift : Shift False h h') : Lulls h h' := by
  cases shift with
  | aside _ _ _ sessions producers consumers => exact .of_eq sessions producers consumers
  | addDirectory | addConnection | setConnection => exact .of_eq rfl rfl rfl
  | enlist d name =>
    obtain ⟨brokers, directories, same⟩ := getOrCreate_rest h d name
    rw [same]
    exact .of_eq rfl rfl rfl
  | addSession allowed | addProducer allowed | addConsumer allowed => exact allowed.elim
  | setSession isOpen connection =>
    exact { Lulls.refl h with sessions := .set connection isOpen.symm.trans }
  | markShut s =>
    exact { Lulls.refl h with
      sessions := .set (Eq.refl (h.session s).connection) fun opened => by cases opened
      producers := .map (fun p => by split <;> rfl) fun p wanted => by
        split at wanted
        · cases wanted.1
        · exact wanted }
  | @setProducer p x same closed held =>
    refine { Lulls.refl h with producers := .set same ?_ }
    rintro ⟨opened, taken⟩
    exact ⟨Bool.eq_false_iff.mpr (mt closed (Bool.eq_false_iff.mp opened)), held taken⟩
  | @setConsumer k x same closed =>
    refine { Lulls.refl h with consumers := .set same ?_ }
    intro opened
    exact Bool.eq_false_iff.mpr (mt closed (Bool.eq_false_iff.mp opened))

theorem Shifts.lulls (shifts : Shifts False h h') : Lulls h h' := by
  induction shifts with
  | refl => exact .refl h
  | tail _ shift ih => exact ih.trans shift.lulls

theorem perform_lulls (h : Hub L) {r : Request L} (quiet : ¬ r.Makes) :
    Lulls h (h.perform r).2 := by
  cases removal : (Move.event (.request r)).removal? with
  | none => exact (perform_shifts h removal quiet).lulls
  | some removed =>
    obtain ⟨d, name⟩ := removed
    have same : (h.perform r).2 = (h.removeBroker d name).2 := step_of_removal removal
    rw [same]
    exact .of_eq rfl rfl rfl

/-! What is noted. -/

/-- Sessions that are open, producers that are open and held, and consumers that are open are all
noted. -/
structure Tracks (h : Hub L) (n : Notes) : Prop where
  sessions : Covers Session.connection (·.isOpen = true) h.sessions n.sessions
  producers : Covers Producer.session Producer.Wanted h.producers n.producers
  consumers : Covers Consumer.session (·.closed = false) h.consumers n.consumers

namespace Tracks

theorem initial : Tracks ({} : Hub L) {} := ⟨.nil _ _, .nil _ _, .nil _ _⟩

theorem lulls (tracks : Tracks h n) (lulls : Lulls h h') : Tracks h' n where
  sessions := tracks.sessions.wanes lulls.sessions
  producers := tracks.producers.wanes lulls.producers
  consumers := tracks.consumers.wanes lulls.consumers

theorem setSessions (tracks : Tracks h n) {c : ConnectionId} {ss : List SessionId}
    (fewer : ss.Sublist (n.sessions c))
    (kept : ∀ s, (h.session s).isOpen = true → s ∈ n.sessions c → s ∈ ss) :
    Tracks h (n.setSessions c ss) := by
  refine { tracks with sessions := tracks.sessions.strike ?_ ?_ }
  · intro c'
    rw [Notes.sessions_setSessions]
    split
    · rename_i here
      rwa [here]
    · exact List.Sublist.refl _
  · intro s x found opened mem
    rw [Notes.sessions_setSessions]
    split
    · rename_i here
      rw [here] at mem
      refine kept s ?_ mem
      rwa [session, getD_of_some found]
    · exact mem

/-- Sessions that are shut have nothing open to note. -/
theorem drain (tracks : Tracks h n) (produced : Produced h) (sealed : Sealed h)
    {shut : List SessionId} (all : ∀ s ∈ shut, (h.session s).isOpen = false) :
    Tracks h (n.drain shut) := by
  have fewer : ∀ (notes : SessionId → List Nat) s,
      (if s ∈ shut then [] else notes s).Sublist (notes s) := by
    intro notes s
    split
    · exact List.nil_sublist _
    · exact List.Sublist.refl _
  have kept : ∀ {notes : List Nat} {i : Nat} {s}, (h.session s).isOpen = true → i ∈ notes →
      i ∈ if s ∈ shut then [] else notes := by
    intro notes i s opened mem
    rwa [if_neg]
    intro drained
    rw [all s drained] at opened
    cases opened
  refine {
    sessions := tracks.sessions
    producers := tracks.producers.strike (fewer _) ?_
    consumers := tracks.consumers.strike (fewer _) ?_ }
  · intro p x found wanted
    have open_s := produced p
    rw [producer, getD_of_some found] at open_s
    exact kept (open_s wanted.1)
  · intro k x found opened
    have open_s := sealed k
    rw [consumer, getD_of_some found] at open_s
    exact kept (open_s opened)

theorem createSession (tracks : Tracks h n) {c : ConnectionId} {transacted : Bool}
    {mode : AcknowledgeMode} {s : SessionId}
    (done : h.createSession c transacted mode = .ok (s, h')) : Tracks h' (n.addSession c s) := by
  obtain ⟨_, -, done⟩ := ok_of_bind done
  obtain ⟨mode, -, done⟩ := ok_of_bind done
  obtain ⟨b, -, done⟩ := ok_of_bind done
  cases done
  exact { tracks with sessions := tracks.sessions.add _ }

theorem createProducer (tracks : Tracks h n) {s : SessionId} {destination : Option Destination}
    {p : ProducerId} (done : h.createProducer s destination = .ok (p, h')) :
    Tracks h' { n with
      producers :=
        Function.update n.producers s ((n.producers s).filter h.producerLive ++ [p]) } := by
  obtain ⟨_, -, done⟩ := ok_of_bind done
  cases done
  refine { tracks with producers := tracks.producers.renew _ ?_ }
  intro p x found wanted
  rw [producerLive, producer, getD_of_some found, wanted.2, Bool.true_or]

theorem createConsumer (tracks : Tracks h n) (tended : Tended h) {s : SessionId}
    {destination : Option Destination} {k : ConsumerId}
    (done : h.createConsumer s destination = .ok (k, h')) :
    Tracks h' { n with
      consumers :=
        Function.update n.consumers s ((n.consumers s).filter h.consumerLive ++ [k]) } := by
  obtain ⟨_, -, done⟩ := ok_of_bind done
  have reachable : ∀ {k c}, h.consumers[k]? = some c → c.closed = false →
      h.consumerLive k = true := by
    intro k c found opened
    have live := tended k
    rw [consumer, getD_of_some found] at live
    exact live opened
  have added : Tracks { h.mint.2 with consumers := h.consumers ++
      [{ id := "consumer-" ++ uniqueName h.minted, session := s, destination }] } { n with
        consumers := Function.update n.consumers s
          ((n.consumers s).filter h.consumerLive ++ [h.consumers.length]) } :=
    { tracks with consumers := tracks.consumers.renew _ reachable }
  cases destination with
  | none =>
    cases done
    exact added
  | some d =>
    obtain ⟨h₁, attached, done⟩ := ok_of_bind done
    cases done
    exact added.lulls (attach_shifts attached).lulls

theorem shutdownSession (tracks : Tracks h n) (guarded : Guarded h) (produced : Produced h)
    (s : SessionId) :
    Tracks (h.shutdownSession s) ((n.drain [s]).setSessions (h.session s).connection
      ((n.sessions (h.session s).connection).filter (· ≠ s))) := by
  have shifts : Shifts False h (h.shutdownSession s) := shutdownSession_shifts h s
  have shut := (shutdownSession_shuts guarded.sealed s).shut
  have sealed := guarded.sealed.shutdownSession s
  refine setSessions (drain (tracks.lulls shifts.lulls) (produced.shifts shifts) sealed ?_)
    List.filter_sublist ?_
  · intro t mem
    rwa [List.mem_singleton.mp mem]
  · intro t opened mem
    refine List.mem_filter.mpr ⟨mem, decide_eq_true ?_⟩
    rintro rfl
    rw [shut] at opened
    cases opened

theorem closeConnection (tracks : Tracks h n) (guarded : Guarded h) (produced : Produced h)
    {c : ConnectionId} (opened : (h.connection c).state ≠ .closed) :
    Tracks (h.closeConnection c).2 ((n.drain ((n.sessions c).filter fun s =>
      h.sessionLive s && (h.session s).isOpen)).setSessions c []) := by
  have shifts : Shifts False h (h.closeConnection c).2 := closeConnection_shifts h c
  have shut : ∀ s ∈ n.sessions c, ((h.closeConnection c).2.session s).isOpen = false := by
    intro s mem
    exact closeConnection_shut guarded.sealed opened (tracks.sessions.parent_of_mem mem _)
  have sealed := guarded.sealed.closeConnection c
  refine setSessions (drain (tracks.lulls shifts.lulls) (produced.shifts shifts) sealed ?_)
    (List.nil_sublist _) ?_
  · intro s mem
    exact shut s (List.mem_filter.mp mem).1
  · intro s opened mem
    rw [shut s mem] at opened
    cases opened

theorem after (tracks : Tracks h n) (guarded : Guarded h) (produced : Produced h) (e : Event L) :
    Tracks (h.after e) (h.note n e) := by
  cases e with
  | turn => exact tracks.lulls (turn_shifts h).lulls
  | request r =>
    cases r with
    | createSession c transacted mode =>
      dsimp only [Hub.after, perform, note]
      cases done : h.createSession c transacted mode with
      | error e => exact tracks
      | ok made => exact tracks.createSession (s := made.1) done
    | createSessionFrom c settings =>
      dsimp only [Hub.after, perform, note]
      cases done : h.createSessionFrom c settings with
      | error e => exact tracks
      | ok made =>
        obtain ⟨mode, done⟩ := createSessionFrom_ok (s := made.1) done
        exact tracks.createSession done
    | createProducer s destination =>
      dsimp only [Hub.after, perform, note]
      cases done : h.createProducer s destination with
      | error e => exact tracks
      | ok made => exact tracks.createProducer (p := made.1) done
    | createConsumer s destination =>
      dsimp only [Hub.after, perform, note]
      cases done : h.createConsumer s destination with
      | error e => exact tracks
      | ok made => exact tracks.createConsumer guarded.tended (k := made.1) done
    | closeSession s =>
      dsimp only [Hub.after, perform, note, Hub.closeSession]
      split
      · exact tracks.shutdownSession guarded produced s
      · exact tracks
    | closeConnection c =>
      dsimp only [Hub.after, perform, note]
      split
      · rename_i closed
        rw [closeConnection_of_closed closed]
        exact tracks
      · rename_i opened
        exact tracks.closeConnection guarded produced opened
    | _ => exact tracks.lulls (perform_lulls h id)

end Tracks

theorem tracks_reached (events : List (Event L)) : Tracks (reached events) (noted events) := by
  induction events using List.reverseRecOn with
  | nil => exact .initial
  | append_singleton events e ih =>
    rw [reached_append_singleton, noted_append_singleton]
    exact ih.after (sound_reached events).guarded (produced_reached events) e

/-- A producer is let go, and another one is made. -/
def sampleStruck : List (Event Nat) :=
  [.request .addRegistry, .request .addDirectory, .request (.registerProvider 0 0),
    .request (.connect { registry := 0, url := "vm://main" } none),
    .request (.createSession 0 false .autoAcknowledge), .request (.createProducer 0 none),
    .request (.dropProducer 0), .request (.createProducer 0 none)]

example : (noted sampleStruck).sessions 0 = [0] ∧ (noted sampleStruck).producers 0 = [1] := by
  decide +kernel

end Hub

end Courier
