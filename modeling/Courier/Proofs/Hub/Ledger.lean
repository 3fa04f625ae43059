import Mathlib.Data.List.Induction
import Mathlib.Data.List.Nodup
import Courier.Proofs.Hub.Wiring

/-!
# The ledger of registrations

A broker knows the consumers registered on each destination, a consumer the destinations it is
registered on. The invariant ties both to the attachments that have ever been made: what the
broker lists is the roster, those attachments whose consumer is still open, in the order in which
they were first made.
-/

namespace Courier

set_option autoImplicit false

section Lists
variable {α : Type} [BEq α] [LawfulBEq α]

theorem eraseDups_append_of_mem {l : List α} {a : α} (known : a ∈ l) :
    (l ++ [a]).eraseDups = l.eraseDups := by
  rw [List.eraseDups_append]
  simp [List.removeAll, known]

theorem eraseDups_append_of_notMem {l : List α} {a : α} (fresh : a ∉ l) :
    (l ++ [a]).eraseDups = l.eraseDups ++ [a] := by
  rw [List.eraseDups_append]
  simp [List.removeAll, fresh, List.eraseDups_cons]

theorem nodup_eraseDups (l : List α) : l.eraseDups.Nodup := by
  induction l using List.reverseRecOn with
  | nil => exact List.nodup_nil
  | append_singleton l a ih =>
    by_cases known : a ∈ l
    · rwa [eraseDups_append_of_mem known]
    · rw [eraseDups_append_of_notMem known, List.nodup_append]
      refine ⟨ih, List.nodup_singleton a, ?_⟩
      intro x earlier y last same
      rw [List.mem_singleton] at last
      subst last same
      exact known (List.mem_eraseDups.mp earlier)

end Lists

namespace Hub

variable {L : Type}

/-- Whether an attachment is one to `d` on the broker `b`, of a consumer that is still open. -/
def enrolled (h : Hub L) (b : BrokerId) (d : Destination) (a : ConsumerId × Destination) : Bool :=
  a.2 = d && (h.linkOf a.1).broker = b && !(h.consumer a.1).closed

/-- The ids that belong on `d` of the broker `b`, in the order of their first attachment. -/
def roster (h : Hub L) (past : List (ConsumerId × Destination)) (b : BrokerId) (d : Destination) :
    List String :=
  (past.eraseDups.filter (h.enrolled b d)).map fun a => (h.consumer a.1).id

structure Ledger (h : Hub L) (past : List (ConsumerId × Destination)) : Prop where
  logged : ∀ {k d}, (k, d) ∈ past → k < h.consumers.length
  attached : ∀ {k}, (h.consumer k).closed = false →
    ∀ d, d ∈ (h.consumer k).attached ↔ (k, d) ∈ past
  owned : ∀ {b d s o}, (h.broker b).destinations.get? d = some s → s.owner = some o →
    ∀ {k}, (h.consumer k).closed = false → (h.linkOf k).broker = b →
      d ∈ (h.consumer k).attached → (h.linkOf k).owner = o
  registered : ∀ {dir name b}, h.findBroker dir name = some b →
    ∀ d, (h.broker b).consumerIds d = h.roster past b d

structure Consistent (h : Hub L) (past : List (ConsumerId × Destination)) : Prop where
  wired : Wired h
  named : Named h
  ledger : Ledger h past

section Roster
variable {h h' : Hub L} {past : List (ConsumerId × Destination)} {b : BrokerId} {d : Destination}

theorem enrolled_iff {a : ConsumerId × Destination} :
    h.enrolled b d a = true ↔
      a.2 = d ∧ (h.linkOf a.1).broker = b ∧ (h.consumer a.1).closed = false := by
  simp only [enrolled, Bool.and_eq_true, decide_eq_true_eq, Bool.not_eq_true', and_assoc]

theorem mem_roster {id : String} :
    id ∈ h.roster past b d ↔ ∃ k, (k, d) ∈ past ∧ (h.linkOf k).broker = b ∧
      (h.consumer k).closed = false ∧ (h.consumer k).id = id := by
  simp only [roster, List.mem_map, List.mem_filter, List.mem_eraseDups, enrolled_iff]
  constructor
  · rintro ⟨⟨k, d'⟩, ⟨mem, rfl, at_b, opened⟩, rfl⟩
    exact ⟨k, mem, at_b, opened, rfl⟩
  · rintro ⟨k, mem, at_b, opened, rfl⟩
    exact ⟨(k, d), ⟨mem, rfl, at_b, opened⟩, rfl⟩

theorem roster_congr (enrolled : ∀ a ∈ past, h'.enrolled b d a = h.enrolled b d a)
    (id : ∀ a ∈ past, (h'.consumer a.1).id = (h.consumer a.1).id) :
    h'.roster past b d = h.roster past b d := by
  have kept : past.eraseDups.filter (h'.enrolled b d) = past.eraseDups.filter (h.enrolled b d) :=
    List.filter_congr fun a mem => enrolled a (List.mem_eraseDups.mp mem)
  rw [roster, roster, kept]
  apply List.map_congr_left
  intro a mem
  exact id a (List.mem_eraseDups.mp (List.mem_of_mem_filter mem))

/-- An attachment made again counts where it was first made. -/
theorem roster_append_of_mem {a : ConsumerId × Destination} (known : a ∈ past) :
    h.roster (past ++ [a]) b d = h.roster past b d := by
  rw [roster, eraseDups_append_of_mem known, roster]

theorem roster_append_of_notMem {a : ConsumerId × Destination} (fresh : a ∉ past) :
    h.roster (past ++ [a]) b d =
      h.roster past b d ++ if h.enrolled b d a then [(h.consumer a.1).id] else [] := by
  rw [roster, eraseDups_append_of_notMem fresh, List.filter_append, List.map_append, roster]
  by_cases here : h.enrolled b d a = true
  · simp [here]
  · simp [here]

theorem nodup_roster (named : Named h) (ledger : Ledger h past) : (h.roster past b d).Nodup := by
  apply List.Nodup.map_on
  · rintro ⟨k, d₁⟩ first ⟨k', d₂⟩ second same
    simp only [List.mem_filter, List.mem_eraseDups, enrolled_iff] at first second
    obtain ⟨mem₁, rfl, -⟩ := first
    obtain ⟨mem₂, rfl, -⟩ := second
    rw [named.id_inj (ledger.logged mem₁) (ledger.logged mem₂) same]
  · exact (nodup_eraseDups past).filter _

end Roster

/-- Nothing that a registration depends on has changed. -/
structure Frame (h h' : Hub L) : Prop extends Still h h' where
  destinations : ∀ b, (h'.broker b).destinations = (h.broker b).destinations
  names : ∀ b, (h'.broker b).names = (h.broker b).names
  closed : ∀ k, (h'.consumer k).closed = (h.consumer k).closed
  attached : ∀ k, (h'.consumer k).attached = (h.consumer k).attached

namespace Frame
variable {h h' : Hub L} {past : List (ConsumerId × Destination)}

theorem of_still (still : Still h h') (brokers : h'.brokers = h.brokers)
    (consumers : h'.consumers = h.consumers) : Frame h h' where
  toStill := still
  destinations b := by simp only [broker, brokers]
  names b := by simp only [broker, brokers]
  closed k := by simp only [consumer, consumers]
  attached k := by simp only [consumer, consumers]

theorem of_eq (brokers : h'.brokers = h.brokers) (directories : h'.directories = h.directories)
    (connections : h'.connections = h.connections) (sessions : h'.sessions = h.sessions)
    (consumers : h'.consumers = h.consumers) (minted : h.minted ≤ h'.minted) : Frame h h' :=
  of_still (.of_eq (congrArg List.length brokers) directories connections sessions consumers minted)
    brokers consumers

theorem setConnection {c : ConnectionId} {x : Connection}
    (link : x.link = (h.connection c).link) : Frame h (h.setConnection c x) :=
  of_still (.setConnection link) rfl rfl

theorem setSession {s : SessionId} {x : Session}
    (connection : x.connection = (h.session s).connection) : Frame h (h.setSession s x) :=
  of_still (.setSession connection) rfl rfl

theorem setConsumer {k : ConsumerId} {x : Consumer L} (id : x.id = (h.consumer k).id)
    (session : x.session = (h.consumer k).session) (closed : x.closed = (h.consumer k).closed)
    (attached : x.attached = (h.consumer k).attached) : Frame h (h.setConsumer k x) where
  toStill := .setConsumer id session
  destinations _ := rfl
  names _ := rfl
  closed := view_getD_set Consumer.closed closed
  attached := view_getD_set Consumer.attached attached

theorem setBroker {b : BrokerId} {x : Broker (Endpoint L)}
    (destinations : x.destinations = (h.broker b).destinations)
    (names : x.names = (h.broker b).names) : Frame h (h.setBroker b x) where
  toStill := .setBroker h b x
  destinations := view_getD_set Broker.destinations destinations
  names := view_getD_set Broker.names names
  closed _ := rfl
  attached _ := rfl

theorem mint (h : Hub L) : Frame h h.mint.2 := of_eq rfl rfl rfl rfl rfl (Nat.le_succ _)

theorem addDirectory (h : Hub L) : Frame h h.addDirectory.2 := by
  refine of_still { Still.refl h with found := ?_ } rfl rfl
  intro dir name
  have same : h.addDirectory.2.directory dir = h.directory dir := by
    rw [Hub.addDirectory, directory, getD_append_singleton]
    split
    · subst dir
      rw [directory, List.getD_eq_getElem?_getD, List.getElem?_eq_none (Nat.le_refl _)]
      rfl
    · rfl
  rw [findBroker, same, findBroker]

theorem ledger (frame : Frame h h') (ledger : Ledger h past) : Ledger h' past where
  logged mem := by
    rw [frame.consumers]
    exact ledger.logged mem
  attached {k} opened d := by
    rw [frame.closed] at opened
    rw [frame.attached]
    exact ledger.attached opened d
  owned {b d s o} found owner {k} opened at_b mem := by
    rw [frame.destinations] at found
    rw [frame.closed] at opened
    rw [frame.linkOf] at at_b ⊢
    rw [frame.attached] at mem
    exact ledger.owned found owner opened at_b mem
  registered {dir name b} found d := by
    rw [frame.found] at found
    have same : h'.roster past b d = h.roster past b d := by
      apply roster_congr
      · intro a _
        rw [enrolled, enrolled, frame.linkOf, frame.closed]
      · intro a _
        exact frame.id a.1
    have ids : (h'.broker b).consumerIds d = (h.broker b).consumerIds d :=
      Broker.consumerIds_congr (by rw [frame.destinations])
    rw [ids, same, ledger.registered found d]

theorem consistent (frame : Frame h h') (inv : Consistent h past) : Consistent h' past where
  wired := frame.wired inv.wired
  named := by
    refine frame.named inv.named ?_ frame.names
    intro b d here
    rwa [Broker.interned, frame.destinations] at here
  ledger := frame.ledger inv.ledger

end Frame

variable {h h' : Hub L} {past : List (ConsumerId × Destination)}

namespace Consistent

theorem initial : Consistent ({} : Hub L) [] where
  wired := {
    session_lt := by intro k made; cases made
    connection_lt := by intro s made; cases made
    broker_lt := by intro c made; cases made
    found_lt := by intro dir name b found; cases found
    found_once := by intro dir name dir' name' b found; cases found
    link_found := by intro c dir name made; cases made }
  named := {
    owner := by intro c made; cases made
    owner_inj := by intro c c' made; cases made
    id := by intro k made; cases made
    id_inj := by intro k k' made; cases made
    temporary := by intro b d here; cases here
    spelled := by intro b d here; cases here }
  ledger := {
    logged := by intro k d mem; cases mem
    attached := by intro k opened; cases opened
    owned := by intro b d s o found; cases found
    registered := by intro dir name b found; cases found }

theorem mint (inv : Consistent h past) : Consistent h.mint.2 past := (Frame.mint h).consistent inv

/-- An open consumer is listed wherever it is attached. -/
theorem listed (inv : Consistent h past) {k : ConsumerId} {d : Destination} {dir : DirectoryId}
    {name : String} (found : h.findBroker dir name = some (h.linkOf k).broker)
    (opened : (h.consumer k).closed = false) (mem : d ∈ (h.consumer k).attached) :
    (h.consumer k).id ∈ (h.broker (h.linkOf k).broker).consumerIds d := by
  rw [inv.ledger.registered found]
  exact mem_roster.mpr ⟨k, (inv.ledger.attached opened d).mp mem, rfl, opened, rfl⟩

end Consistent

end Hub

end Courier
