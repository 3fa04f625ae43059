import Courier.Proofs.Hub.Beneath
import Courier.Proofs.Hub.Sending

/-!
# Legal settings

A priority is at most 9 and a time to live is not negative. Producers start with the defaults of
their connection, which has them from its factory, and check whatever they are given later. So their
settings are legal as long as those of the factories are, and then no message is sent that has
expired already.
-/

namespace Courier

set_option autoImplicit false

structure Quality.Legal (q : Quality) : Prop where
  priority : q.priority.toNat ≤ 9
  timeToLive : 0 ≤ q.timeToLive.toInt

theorem Quality.legal_default : ({} : Quality).Legal := ⟨by decide, by decide⟩

/-- Settings that were asked for have been checked. -/
theorem Quality.Effective.legal {own q : Quality} {request : Option QualityRequest}
    (effective : own.Effective request q) (legal : own.Legal) : q.Legal := by
  cases effective with
  | own => exact legal
  | asked mode priority atMost timeToLive nonneg =>
    refine ⟨?_, ?_⟩
    · omega
    · rwa [timeToLive]

namespace Factory
variable {L : Type} {h : Hub L} {f f' : Factory} {r : RegistryId} {url : String}

theorem defaults_setUrl (done : f.setUrl h url = .ok f') : f'.defaults = f.defaults := by
  obtain ⟨_, -, done⟩ := ok_of_bind done
  cases done
  rfl

theorem legal_withUrl (done : withUrl h r url = .ok f) : f.defaults.Legal := by
  rw [defaults_setUrl done]
  exact Quality.legal_default

theorem legal_ofSettings {s : Settings} (done : ofSettings h r s = .ok f) : f.defaults.Legal := by
  obtain ⟨f₀, -, done⟩ := ok_of_bind done
  obtain ⟨mode, -, done⟩ := ok_of_bind done
  obtain ⟨priority, inRange, done⟩ := ok_of_bind done
  obtain ⟨ttl, lasting, done⟩ := ok_of_bind done
  cases done
  obtain ⟨same, atMost⟩ := checkPriority_ok inRange
  obtain ⟨rfl, nonneg⟩ := checkTimeToLive_ok.mp lasting
  refine ⟨?_, nonneg⟩
  show priority.toNat ≤ 9
  omega

end Factory

namespace Hub

variable {L : Type} {h h' h'' : Hub L}

/-- The defaults of connections and the settings of producers are legal. -/
structure Legal (h : Hub L) : Prop where
  defaults : ∀ c, (h.connection c).defaults.Legal
  quality : ∀ p, (h.producer p).quality.Legal

/-- They are as before. -/
structure SameTerms (h h' : Hub L) : Prop where
  defaults : ∀ c, (h'.connection c).defaults = (h.connection c).defaults
  quality : ∀ p, (h'.producer p).quality = (h.producer p).quality

namespace SameTerms

theorem of_eq (connections : h'.connections = h.connections)
    (producers : h'.producers = h.producers) : SameTerms h h' where
  defaults c := by simp only [connection, connections]
  quality p := by simp only [producer, producers]

theorem refl (h : Hub L) : SameTerms h h := of_eq rfl rfl

theorem trans (first : SameTerms h h') (second : SameTerms h' h'') : SameTerms h h'' where
  defaults c := (second.defaults c).trans (first.defaults c)
  quality p := (second.quality p).trans (first.quality p)

theorem untouched (untouched : Untouched h h') : SameTerms h h' :=
  ⟨untouched.defaults, untouched.quality⟩

theorem setConnection {c : ConnectionId} {x : Connection}
    (same : x.defaults = (h.connection c).defaults) : SameTerms h (h.setConnection c x) where
  defaults := view_getD_set Connection.defaults same
  quality _ := rfl

theorem setClientId {c : ConnectionId} {id : String} (done : h.setClientId c id = .ok h') :
    SameTerms h h' := by
  obtain ⟨-, -, b, x, -, -, rfl⟩ := setClientId_ok done
  have claimed : SameTerms h (h.setBroker b x) := of_eq rfl rfl
  exact claimed.trans (setConnection rfl)

theorem closeConnection (h : Hub L) (c : ConnectionId) :
    SameTerms h (h.closeConnection c).2 :=
  closeConnection_keeps (refl h) c (fun same terms => terms.trans (setConnection same))
    (fun shut terms => terms.trans (untouched shut)) (fun terms => terms.trans (of_eq rfl rfl))

theorem pop (h : Hub L) (k : ConsumerId) (d : Destination) : SameTerms h (h.pop k d).2 := by
  unfold Hub.pop
  dsimp only
  split
  · exact refl h
  · exact of_eq rfl rfl

theorem turn (h : Hub L) : SameTerms h (h.step (.event .turn)) :=
  ⟨(turn_beneath h).defaults, turn_quality h⟩

end SameTerms

namespace Legal

theorem initial : Legal ({} : Hub L) := ⟨fun _ => Quality.legal_default, fun _ => Quality.legal_default⟩

theorem same (legal : Legal h) (same : SameTerms h h') : Legal h' where
  defaults c := by
    rw [same.defaults]
    exact legal.defaults c
  quality p := by
    rw [same.quality]
    exact legal.quality p

theorem addConnection (legal : Legal h) {x : Connection} (given : x.defaults.Legal) :
    Legal { h with connections := h.connections ++ [x] } := by
  refine ⟨?_, legal.quality⟩
  intro c
  rw [connection_addConnection]
  split
  · exact given
  · exact legal.defaults c

theorem joined (legal : Legal h) (d : DirectoryId) (name : String) (username : Option String)
    {defaults : Quality} (given : defaults.Legal) : Legal (h.joined d name username defaults) := by
  obtain ⟨_, _, _, x, rfl, same⟩ := joined_rest h d name username defaults
  rw [same]
  exact (legal.addConnection given).same (.of_eq rfl rfl)

theorem connectAs (legal : Legal h) {f : Factory} (given : f.defaults.Legal)
    (username : Option String) : Legal (f.connectAs h username).2 :=
  connectAs_keeps legal (fun d name => legal.joined d name username given)
    (fun legal done => legal.same (.setClientId done))
    (fun c legal => legal.same (.closeConnection _ c))
    (fun _ legal => legal.same (.setConnection rfl))

theorem createProducer (legal : Legal h) {s : SessionId} {destination : Option Destination}
    {p : ProducerId} (done : h.createProducer s destination = .ok (p, h')) : Legal h' := by
  obtain ⟨x, own, rfl⟩ := createProducer_ok done
  refine ⟨legal.defaults, ?_⟩
  intro p
  rw [producer, getD_append_singleton]
  split
  · rw [own]
    exact legal.defaults _
  · exact legal.quality p

theorem adjustProducer (legal : Legal h) {p : ProducerId} {f : Producer → Except Error Producer}
    (checked : ∀ x, f (h.producer p) = .ok x → x.quality.Legal)
    (done : h.adjustProducer p f = .ok h') : Legal h' := by
  obtain ⟨x, set, rfl⟩ := adjustProducer_ok done
  refine ⟨legal.defaults, ?_⟩
  intro p'
  rw [producer, setProducer, getD_set]
  split
  · exact checked x set
  · exact legal.quality p'

/-- Every request keeps settings legal, if factories come with legal defaults. -/
theorem perform (legal : Legal h) {r : Request L}
    (given : ∀ f username, r = .connect f username → f.defaults.Legal) :
    Legal (h.perform r).2 := by
  cases r with
  | openBroker d name =>
    obtain ⟨_, _, same⟩ := getOrCreate_rest h d name
    rw [Hub.perform, same]
    exact legal.same (.of_eq rfl rfl)
  | connect f username => exact legal.connectAs (given f username rfl) username
  | setClientId c id => exact adoptHub_of legal fun _ done => legal.same (.setClientId done)
  | closeConnection c => exact legal.same (.closeConnection h c)
  | createSession c transacted mode =>
    refine adopt_of legal fun _ _ done => ?_
    obtain ⟨-, x, -, rfl⟩ := createSession_ok done
    exact legal.same (.of_eq rfl rfl)
  | createSessionFrom c settings =>
    refine adopt_of legal fun _ _ done => ?_
    obtain ⟨mode, done⟩ := createSessionFrom_ok done
    obtain ⟨-, x, -, rfl⟩ := createSession_ok done
    exact legal.same (.of_eq rfl rfl)
  | createTemporary s kind =>
    refine adopt_of legal fun _ _ done => ?_
    obtain ⟨-, b, -, rfl⟩ := sessionTemporary_ok done
    exact legal.same (.of_eq rfl rfl)
  | createProducer s destination => exact adopt_of legal fun _ _ done => legal.createProducer done
  | setDeliveryMode p mode =>
    refine adoptHub_of legal fun _ done => legal.adjustProducer ?_ done
    intro x set
    cases set
    exact ⟨(legal.quality p).priority, (legal.quality p).timeToLive⟩
  | setPriority p priority =>
    refine adoptHub_of legal fun _ done => legal.adjustProducer ?_ done
    intro x set
    obtain ⟨n, inRange, set⟩ := ok_of_bind set
    cases set
    obtain ⟨same, atMost⟩ := checkPriority_ok inRange
    refine ⟨?_, (legal.quality p).timeToLive⟩
    show n.toNat ≤ 9
    omega
  | setTimeToLive p ttl =>
    refine adoptHub_of legal fun _ done => legal.adjustProducer ?_ done
    intro x set
    obtain ⟨n, lasting, set⟩ := ok_of_bind set
    cases set
    obtain ⟨rfl, nonneg⟩ := checkTimeToLive_ok.mp lasting
    exact ⟨(legal.quality p).priority, nonneg⟩
  | configure p q =>
    refine adoptHub_of legal fun _ done => legal.adjustProducer ?_ done
    intro x set
    obtain ⟨quality, checked, set⟩ := ok_of_bind set
    cases set
    exact ((QualityRequest.check_ok {}).mp checked).legal Quality.legal_default
  | receive k =>
    refine adopt_of legal fun _ _ done => legal.same ?_
    obtain ⟨-, d, -, popped⟩ := receive_ok done
    have terms := SameTerms.pop h k d
    rwa [popped] at terms
  | receiveFrom k d =>
    refine adopt_of legal fun _ _ done => legal.same ?_
    obtain ⟨-, h₁, attached, popped⟩ := receiveFrom_ok done
    have terms := SameTerms.pop h₁ k d
    rw [popped] at terms
    exact (SameTerms.untouched (attach_untouched attached)).trans terms
  | _ => exact legal.same (.untouched (perform_untouched h rfl))

theorem after (legal : Legal h) {e : Event L}
    (given : ∀ f username, e = .request (.connect f username) → f.defaults.Legal) :
    Legal (h.after e) := by
  cases e with
  | request r =>
    apply legal.perform
    rintro f username rfl
    exact given f username rfl
  | turn => exact legal.same (.turn h)

end Legal

theorem legal_reached {events : List (Event L)}
    (given : ∀ f username, .request (.connect f username) ∈ events → f.defaults.Legal) :
    Legal (reached events) := by
  induction events using List.reverseRecOn with
  | nil => exact .initial
  | append_singleton events e ih =>
    rw [reached_append_singleton]
    apply (ih fun f username mem => given f username (List.mem_append_left _ mem)).after
    rintro f username rfl
    exact given f username (List.mem_append_right _ List.mem_cons_self)

/-! What is sent. -/

/-- The header of a message that leaves a producer at the time `now` and goes by the settings `q`. -/
structure Timely (header : Header) (now : Int64) (q : Quality) : Prop where
  priority : header.priority.toNat ≤ 9
  timestamp : header.timestamp = now
  unlimited : header.expiration = 0 ↔ q.timeToLive = 0
  lasting : q.timeToLive ≠ 0 → header.timestamp.toInt ≤ header.expiration.toInt

theorem timely_of_stamped {header stamped : Header} {token : String} {now : Int64}
    {target : Destination} {q : Quality} (spec : header.Stamped stamped token now target q)
    (legal : q.Legal) (epoch : 0 ≤ now.toInt) : Timely stamped now q := by
  have positive : q.timeToLive ≠ 0 → 0 < q.timeToLive.toInt := by
    intro limited
    have nonzero : q.timeToLive.toInt ≠ 0 := fun zero => limited (Int64.toInt_inj.mp zero)
    have nonneg := legal.timeToLive
    omega
  have bounds : q.timeToLive ≠ 0 →
      now.toInt ≤ stamped.expiration.toInt ∧ 0 < stamped.expiration.toInt := by
    intro limited
    have alive := positive limited
    have below := now.toInt_lt
    have most : maxLong = 2 ^ 63 - 1 := by decide
    rw [spec.limited limited]
    omega
  constructor
  case priority =>
    rw [spec.priority]
    exact legal.priority
  case timestamp => exact spec.timestamp
  case unlimited =>
    refine ⟨fun never => ?_, spec.unlimited⟩
    by_contra limited
    have later := (bounds limited).2
    rw [never] at later
    exact absurd later (by decide)
  case lasting =>
    intro limited
    rw [spec.timestamp]
    exact (bounds limited).1

/-- As long as factories come with legal defaults, the settings of every producer are legal, and
with the clock at the epoch or later, what a send delivers is not out of date. The defaults that a
factory has from the beginning or from a settings file are legal. -/
theorem legal_settings {events : List (Event L)} (run : reached events = h)
    (given : ∀ f username, .request (.connect f username) ∈ events → f.defaults.Legal) :
    (∀ p, (h.producer p).quality.Legal) ∧
    (∀ p goal m request now m' h', 0 ≤ now.toInt →
      h.send p goal m request now = .ok (m', h') →
      ∃ q d, (h.producer p).quality.Effective request q ∧ h'.deliveries = d :: h.deliveries ∧
        d.message.header = m'.header ∧ Timely m'.header now q) ∧
    (∀ r url f, Factory.withUrl h r url = .ok f → f.defaults.Legal) ∧
    ∀ r settings f, Factory.ofSettings h r settings = .ok f → f.defaults.Legal := by
  subst run
  have legal := legal_reached given
  refine ⟨legal.quality, ?_, fun _ _ _ => Factory.legal_withUrl,
    fun _ _ _ => Factory.legal_ofSettings⟩
  intro p goal m request now m' h' epoch done
  obtain ⟨target, q, b, sendable⟩ := sendable_of_ok done
  obtain ⟨header, copy, stamped, copied, sent⟩ := exists_send sendable now
  rw [sent] at done
  cases done
  exact ⟨q, _, sendable.quality, rfl, copied.header,
    timely_of_stamped stamped (sendable.quality.legal (legal.quality p)) epoch⟩

def sampleOutbox : Destination := { name := "outbox", kind := .queue }

def sampleSends (defaults : Quality) : List (Event Nat) :=
  [.request .addRegistry, .request .addDirectory, .request (.registerProvider 0 0),
    .request (.connect { registry := 0, url := "vm://test", defaults } none),
    .request (.createSession 0 false .autoAcknowledge),
    .request (.createDestination 0 "outbox" .queue),
    .request (.createProducer 0 (some sampleOutbox))]

theorem legal_settings_outbox :
    (∀ p, ((reached (sampleSends {})).producer p).quality.Legal) ∧
    ∃ m' h', (reached (sampleSends {})).send 0 none (.ofText (some "hello"))
        (some ⟨.persistent, 9, 1000⟩) 5000 = .ok (m', h') ∧
      ∃ q d, ((reached (sampleSends {})).producer 0).quality.Effective
          (some ⟨.persistent, 9, 1000⟩) q ∧
        h'.deliveries = d :: (reached (sampleSends {})).deliveries ∧
        d.message.header = m'.header ∧ Timely m'.header 5000 q := by
  have given : ∀ f username, .request (.connect f username) ∈ sampleSends {} →
      f.defaults.Legal := by
    intro f username mem
    simp only [sampleSends, List.mem_cons, List.not_mem_nil, Event.request.injEq,
      Request.connect.injEq, reduceCtorEq, or_false, false_or] at mem
    rw [mem.1]
    exact Quality.legal_default
  obtain ⟨legal, delivers, -, -⟩ := legal_settings (rfl : reached (sampleSends {}) = _) given
  refine ⟨legal, ?_⟩
  have sent : ((reached (sampleSends {})).send 0 none (.ofText (some "hello"))
      (some ⟨.persistent, 9, 1000⟩) 5000).toBool = true := by decide +kernel
  cases outcome : (reached (sampleSends {})).send 0 none (.ofText (some "hello"))
      (some ⟨.persistent, 9, 1000⟩) 5000 with
  | error e =>
    rw [outcome] at sent
    cases sent
  | ok r =>
    obtain ⟨m', h'⟩ := r
    exact ⟨m', h', rfl, delivers _ _ _ _ _ _ _ (by decide) outcome⟩

/-- Nothing checks the defaults that a factory is given by its user. With a negative time to live
among them a producer has it too, and its message goes out when it has already expired. -/
theorem expired_when_sent :
    ((reached (sampleSends { timeToLive := -1000 })).producer 0).closed = false ∧
    ((reached (sampleSends { timeToLive := -1000 })).producer 0).quality.timeToLive.toInt = -1000 ∧
    ∃ m' h' d, (reached (sampleSends { timeToLive := -1000 })).send 0 none
        (.ofText (some "hello")) none 5000 = .ok (m', h') ∧
      h'.deliveries = [d] ∧ d.message.header.timestamp.toInt = 5000 ∧
      d.message.header.expiration.toInt = 4000 := by
  have sent : ((reached (sampleSends { timeToLive := -1000 })).send 0 none
      (.ofText (some "hello")) none 5000).toOption.map (fun r => r.2.deliveries.map fun d =>
        (d.message.header.timestamp.toInt, d.message.header.expiration.toInt)) =
      some [(5000, 4000)] := by decide +kernel
  refine ⟨by decide +kernel, by decide +kernel, ?_⟩
  cases outcome : (reached (sampleSends { timeToLive := -1000 })).send 0 none
      (.ofText (some "hello")) none 5000 with
  | error e =>
    rw [outcome] at sent
    cases sent
  | ok r =>
    obtain ⟨m', h'⟩ := r
    rw [outcome] at sent
    obtain ⟨d, deliveries, header⟩ := List.map_eq_singleton_iff.mp (Option.some.inj sent)
    obtain ⟨timestamp, expiration⟩ := Prod.mk.inj header
    exact ⟨m', h', d, rfl, deliveries, timestamp, expiration⟩

end Hub

end Courier
