import Courier.Hub.Session
import Courier.Proofs.Body.Progress
import Courier.Proofs.Hub.Sending
import Courier.Proofs.Message.Frozen

/-!
# Envelopes

A message may be filled in, cleared, sent and delivered in any order, and what has been done with it
may have failed. Its priority and its id are always in form, its properties and the entries of a map
have names, and it has the kind it was made with. What fails leaves no trace.
-/

namespace Courier

set_option autoImplicit false

open Use (left)

namespace Use

variable {σ α : Type}

/-- A use that fails leaves the state as it was. -/
def Traceless (use : EStateM Error σ α) : Prop := ∀ s e s', use s = .error e s' → s' = s

end Use

/-! ## Headers -/

namespace Header

/-- Everything that sets a field of a header. -/
inductive Setter
  | messageId (id : Option String)
  | correlationId (id : Option String)
  | correlationBytes (bytes : Option (List UInt8))
  | deliveryMode (mode : DeliveryMode)
  | priority (priority : Int)
  | expiration (time : Int64)
  | timestamp (time : Int64)
  | redelivered (flag : Bool)
  | type (name : Option String)
  | destination (d : Option Destination)
  | replyTo (d : Option Destination)

def Setter.apply : Setter → Header → Except Error Header
  | messageId id, h => h.setMessageId id
  | correlationId id, h => .ok { h with correlationId := id }
  | correlationBytes bytes, h => h.setCorrelationBytes bytes
  | deliveryMode mode, h => .ok { h with deliveryMode := mode }
  | priority n, h => h.setPriority n
  | expiration time, h => .ok { h with expiration := time }
  | timestamp time, h => .ok { h with timestamp := time }
  | redelivered flag, h => .ok { h with redelivered := flag }
  | type name, h => .ok { h with type := name }
  | destination d, h => .ok { h with destination := d }
  | replyTo d, h => .ok { h with replyTo := d }

structure Proper (h : Header) : Prop where
  priority : h.priority.toNat ≤ 9
  messageId : ∀ id, h.messageId = some id → ∃ token, id = "ID:" ++ token

theorem exists_token {id : String} (marked : idMark.isPrefixOf id.toList = true) :
    ∃ token, id = "ID:" ++ token := by
  obtain ⟨rest, whole⟩ := List.isPrefixOf_iff_prefix.mp marked
  refine ⟨String.ofList rest, String.toList_inj.mp ?_⟩
  rw [String.toList_append, ← whole]
  exact congrArg (idMark ++ ·) String.toList_ofList.symm

theorem proper_default : Proper {} where
  priority := by decide
  messageId _ none := by cases none

section Setters
variable {h h' : Header} (proper : h.Proper)
include proper

theorem Proper.setMessageId {id : Option String} (set : h.setMessageId id = .ok h') :
    h'.Proper := by
  unfold Header.setMessageId at set
  split at set
  · split at set
    · rename_i marked
      cases set
      refine ⟨proper.priority, ?_⟩
      intro id same
      cases same
      exact exists_token marked
    · cases set
  · cases set
    refine ⟨proper.priority, ?_⟩
    intro id absent
    cases absent

theorem Proper.setCorrelationBytes {bytes : Option (List UInt8)}
    (set : h.setCorrelationBytes bytes = .ok h') : h'.Proper := by
  unfold Header.setCorrelationBytes at set
  split at set
  · split at set
    · cases set
      exact ⟨proper.priority, proper.messageId⟩
    · cases set
  · cases set
    exact ⟨proper.priority, proper.messageId⟩

theorem Proper.setPriority {n : Int} (set : h.setPriority n = .ok h') : h'.Proper := by
  obtain ⟨priority, checked, set⟩ := ok_of_bind set
  cases set
  have inRange := checkPriority_ok checked
  refine ⟨?_, proper.messageId⟩
  show priority.toNat ≤ 9
  omega

theorem Proper.apply {s : Setter} (set : s.apply h = .ok h') : h'.Proper := by
  cases s with
  | messageId id => exact proper.setMessageId set
  | correlationBytes bytes => exact proper.setCorrelationBytes set
  | priority n => exact proper.setPriority set
  | _ =>
    cases set
    exact ⟨proper.priority, proper.messageId⟩

end Setters

/-- Whatever the settings are that a header is stamped with, they have been checked. -/
theorem Stamped.proper {header stamped : Header} {token : String} {now : Int64}
    {target : Destination} {q : Quality} (spec : header.Stamped stamped token now target q)
    (atMost : q.priority.toNat ≤ 9) : stamped.Proper where
  priority := by rwa [spec.priority]
  messageId id same := by
    rw [spec.messageId] at same
    cases same
    exact ⟨token, rfl⟩

end Header

/-! ## Properties -/

namespace Properties

structure Proper (p : Properties) : Prop where
  named : ∀ name v, p.get? name = some v → name ≠ ""
  noChar : ∀ name c, p.get? name ≠ some (.char c)
  noBytes : ∀ name bytes, p.get? name ≠ some (.bytes bytes)

theorem proper_default : Proper {} where
  named _ _ found := by cases found
  noChar _ _ found := by cases found
  noBytes _ _ found := by cases found

theorem Proper.of_values {p p' : Properties} (proper : p.Proper) (same : p'.values = p.values) :
    p'.Proper := by
  have lookup (name : String) : p'.get? name = p.get? name := by rw [get?, same, get?]
  refine ⟨?_, ?_, ?_⟩
  · intro name v
    rw [lookup]
    exact proper.named name v
  · intro name c
    rw [lookup]
    exact proper.noChar name c
  · intro name bytes
    rw [lookup]
    exact proper.noBytes name bytes

theorem Proper.insert {p : Properties} (proper : p.Proper) {name : String} (named : name ≠ "")
    {v : Value} (admitted : admits v = true) :
    Proper { p with values := p.values.insert name v } := by
  have lookup (name' : String) :
      get? { p with values := p.values.insert name v } name' =
        if name' = name then some v else p.get? name' :=
    p.values.get?_insert name v name'
  refine ⟨?_, ?_, ?_⟩
  · intro name' v' found
    rw [lookup] at found
    split at found
    · rename_i same
      rwa [same]
    · exact proper.named name' v' found
  · intro name' c found
    rw [lookup] at found
    split at found
    · cases found
      cases admitted
    · exact proper.noChar name' c found
  · intro name' bytes found
    rw [lookup] at found
    split at found
    · cases found
      cases admitted
    · exact proper.noBytes name' bytes found

theorem Proper.set {p : Properties} (proper : p.Proper) (name : String) (v : Value) :
    (left (Properties.set name v p)).Proper := by
  unfold Properties.set
  split
  · exact proper
  · rename_i named
    split
    · exact proper
    · split
      · rename_i admitted
        exact proper.insert (by simpa using named) admitted
      · exact proper

theorem traceless_set (name : String) (v : Value) : Use.Traceless (set name v) :=
  fun _ _ _ failed => (guarded_set name v).keeps failed

end Properties

/-! ## Bodies -/

namespace MapBody

/-- Every entry has a name. -/
def Named (b : MapBody) : Prop := ∀ name v, b.get? name = some v → name ≠ ""

theorem Named.set {b : MapBody} (named : b.Named) (name : String) (v : Value) :
    (left (MapBody.set name v b)).Named := by
  unfold MapBody.set
  split
  · exact named
  · rename_i full
    split
    · exact named
    · intro name' v' found
      have lookup : (if name' = name then some v else b.get? name') = some v' :=
        (b.entries.get?_insert name v name').symm.trans found
      split at lookup
      · rename_i same
        simpa [same] using full
      · exact named name' v' lookup

/-- A part of a buffer is set as bytes are, provided that there is such a part. -/
theorem setRange_cases (name : String) (buffer : List UInt8) (offset length : Nat) (b : MapBody) :
    (∃ e, setRange name buffer offset length b = .error e b) ∨
      ∃ bytes, setRange name buffer offset length b = set name (.bytes bytes) b := by
  by_cases empty : name.isEmpty
  · refine .inl ⟨.emptyEntryName, ?_⟩
    simp only [setRange, if_pos empty]
    rfl
  · have rest : setRange name buffer offset length b =
        (MonadExcept.ofExcept (subrange buffer offset length) >>= fun bytes =>
          set name (.bytes bytes)) b := by
      simp only [setRange, if_neg empty]
    cases inside : subrange buffer offset length with
    | ok bytes => exact .inr ⟨bytes, rest.trans (Use.ofExcept_ok inside _ _)⟩
    | error e => exact .inl ⟨e, rest.trans (Use.ofExcept_error inside _ _)⟩

theorem Named.setRange {b : MapBody} (named : b.Named) (name : String) (buffer : List UInt8)
    (offset length : Nat) : (left (MapBody.setRange name buffer offset length b)).Named := by
  obtain ⟨e, refused⟩ | ⟨bytes, whole⟩ := setRange_cases name buffer offset length b
  · rw [refused]
    exact named
  · rw [whole]
    exact named.set name _

end MapBody

namespace Body

/-- What is found under a name, which can only be an entry of a map. -/
def entry? : Body → String → Option Value
  | map b, name => b.get? name
  | _, _ => none

/-- Every entry has a name. -/
def Named (b : Body) : Prop := ∀ name v, b.entry? name = some v → name ≠ ""

theorem named_of_kind {b : Body} (other : b.kind ≠ .map) : b.Named := by
  intro name v found
  cases b with
  | map b => exact absurd rfl other
  | _ => cases found

theorem named_fresh (kind : MessageKind) : (fresh kind).Named := by
  intro name v found
  cases kind <;> cases found

theorem SameContent.entry? {b b' : Body} (same : SameContent b b') (name : String) :
    b'.entry? name = b.entry? name := by
  cases same with
  | map get size => exact get name
  | _ => rfl

theorem Named.of_sameContent {b b' : Body} (named : b.Named) (same : SameContent b b') :
    b'.Named := by
  intro name v found
  rw [same.entry?] at found
  exact named name v found

section Kinds
variable {α : Type} (b : Body)

theorem kind_onBytes (use : EStateM Error BytesBody α) : (left (onBytes use b)).kind = b.kind := by
  cases b with
  | bytes b =>
    rw [onBytes, left_within]
    rfl
  | _ => rfl

theorem kind_onStream (use : EStateM Error StreamBody α) :
    (left (onStream use b)).kind = b.kind := by
  cases b with
  | stream b =>
    rw [onStream, left_within]
    rfl
  | _ => rfl

theorem Setter.kind_use (s : Setter) : (left (s.use b)).kind = b.kind := by
  by_cases same : b.kind = s.kind
  · obtain ⟨β, whole, readOnly, use, part, rfl, works⟩ := exists_works same
    rw [works.use, left_within, works.kind, works.kind]
  · rw [use_otherKind same]
    rfl

theorem Reader.kind_use (r : Reader) : (left (r.use b)).kind = b.kind := by
  cases r with
  | bytesReset | bytes | bytesUpTo => exact kind_onBytes b _
  | stream | streamBytes => exact kind_onStream b _

theorem Operation.kind_use (o : Operation) : (left (o.use b)).kind = b.kind := by
  cases o with
  | set s => exact s.kind_use b
  | read r => exact r.kind_use b

end Kinds

theorem Named.operate {b : Body} (named : b.Named) (o : Operation) : (left (o.use b)).Named := by
  by_cases other : b.kind = .map
  · cases b with
    | map b =>
      -- nothing but the two setters of entries does anything to a map
      cases o with
      | read r => cases r <;> exact named
      | set s =>
        cases s with
        | entry name v =>
          rw [Operation.use, Setter.use, onMap, left_within]
          exact MapBody.Named.set named name v
        | entryRange name buffer offset length =>
          rw [Operation.use, Setter.use, onMap, left_within]
          exact MapBody.Named.setRange named name buffer offset length
        | _ => exact named
    | _ => cases other
  · refine named_of_kind ?_
    rwa [o.kind_use]

theorem Setter.traceless (s : Setter) : Use.Traceless s.use := by
  intro b e b' failed
  by_cases same : b.kind = s.kind
  · obtain ⟨β, whole, readOnly, use, part, rfl, works⟩ := exists_works same
    rw [works.use] at failed
    cases result : use part with
    | ok a part' =>
      rw [result] at failed
      cases failed
    | error e' part' =>
      rw [result] at failed
      cases failed
      exact congrArg whole (works.guarded.keeps result)
  · rw [use_otherKind same] at failed
    cases failed
    rfl

/-- Going back to the start fails for bodies of other kinds only, and reads leave no trace. -/
theorem Reader.traceless (r : Reader) : Use.Traceless r.use := by
  cases r with
  | bytesReset =>
    intro b e b' failed
    cases b with
    | bytes b => cases failed
    | _ => cases failed; rfl
  | bytes g =>
    cases g with
    | one type =>
      exact (forward_onBytes (((BytesBody.forward_read type.advances).map _).map _)).traceless
    | part buffer =>
      have forward := BytesBody.forward_read (Wire.Read.advances_into buffer)
      exact (forward_onBytes ((forward.map _).map _)).traceless
  | bytesUpTo buffer length =>
    exact (forward_onBytes ((BytesBody.forward_readBytesUpTo buffer length).map _)).traceless
  | stream g =>
    cases g with
    | reset =>
      intro b e b' failed
      cases b with
      | stream b => cases failed
      | _ => cases failed; rfl
    | read wanted =>
      exact (forward_onStream (((StreamBody.forward_read _).map _).map _)).traceless
  | streamBytes buffer =>
    exact (forward_onStream ((StreamBody.forward_readBytes buffer).map _)).traceless

theorem Operation.traceless (o : Operation) : Use.Traceless o.use := by
  cases o with
  | set s => exact s.traceless
  | read r => exact r.traceless

end Body

/-! ## Messages -/

namespace Hub

variable {L : Type} {h h' : Hub L} {p : ProducerId} {goal : Option Destination} {m m' : Message}
  {request : Option QualityRequest} {now : Int64}

/-- A send gives the message a header that is in form, whatever its producer was set to, and
starts the delivery of a copy. -/
theorem proper_of_send (sent : h.send p goal m request now = .ok (m', h')) :
    ∃ header d, header.Proper ∧ m' = { m with header } ∧ Message.CopyOf m' d.message ∧
      h'.deliveries = d :: h.deliveries := by
  obtain ⟨target, q, b, sendable⟩ := sendable_of_ok sent
  obtain ⟨header, copy, stamped, copied, sent'⟩ := exists_send sendable now
  rw [sent] at sent'
  cases sent'
  exact ⟨header, _, stamped.proper sendable.priority, rfl, copied, rfl⟩

end Hub

namespace Message

/-- What is true of every message of the kind, whatever has been done with it. -/
structure Proper (kind : MessageKind) (m : Message) : Prop where
  kind : m.kind = kind
  header : m.header.Proper
  properties : m.properties.Proper
  entries : m.body.Named

/-- Everything that is done with a message. A send may go by any hub, so its producer may be set to
anything. -/
inductive Action (L : Type)
  | header (s : Header.Setter)
  | content (o : Operation)
  | clearProperties
  | clearBody
  | send (h : Hub L) (p : ProducerId) (goal : Option Destination)
    (request : Option QualityRequest) (now : Int64)

def onHeader (set : Header → Except Error Header) : EStateM Error Message Unit := fun m =>
  match set m.header with
  | .ok header => .ok () { m with header }
  | .error e => .error e m

variable {L : Type}

/-- What a send comes to for the message alone. -/
def sendBy (h : Hub L) (p : ProducerId) (goal : Option Destination)
    (request : Option QualityRequest) (now : Int64) : EStateM Error Message Unit := fun m =>
  match h.sendInPlace p goal m request now with
  | (.ok (), m', _) => .ok () m'
  | (.error e, m', _) => .error e m'

def Action.use : Action L → EStateM Error Message Unit
  | header s => onHeader s.apply
  | content o => o.use
  | clearProperties => fun m => .ok () m.clearProperties
  | clearBody => fun m => .ok () m.clearBody
  | send h p goal request now => sendBy h p goal request now

/-- How messages of a kind come about: they are made, things are done with them, and they are
copied and delivered. -/
inductive Arises (L : Type) : MessageKind → Message → Prop
  | fresh (kind : MessageKind) : Arises L kind (.fresh kind)
  | default : Arises L .plain {}
  | ofText (text : Option String) : Arises L .text (.ofText text)
  | ofObject {document : Json} {m : Message} (made : Message.ofObject document = .ok m) :
      Arises L .object m
  | created {h : Hub L} {s : SessionId} {kind : MessageKind} {m : Message}
      (made : h.createMessage s kind = .ok m) : Arises L kind m
  | createdText {h : Hub L} {s : SessionId} {text : Option String} {m : Message}
      (made : h.createTextMessage s text = .ok m) : Arises L .text m
  | used {kind : MessageKind} {m : Message} (arises : Arises L kind m) (a : Action L) :
      Arises L kind (left (a.use m))
  | copied {kind : MessageKind} {m copy : Message} (arises : Arises L kind m)
      (copied : m.deliveryCopy = .ok copy) : Arises L kind copy
  | delivered {kind : MessageKind} {m m' : Message} (arises : Arises L kind m) {h h' : Hub L}
      {p : ProducerId} {goal : Option Destination} {request : Option QualityRequest} {now : Int64}
      (sent : h.send p goal m request now = .ok (m', h')) {d : Delivery L}
      (begun : h'.deliveries = d :: h.deliveries) : Arises L kind d.message

section Outcomes
variable {m m' : Message} {e : Error}

theorem onHeader_ok {set : Header → Except Error Header} {header : Header}
    (done : set m.header = .ok header) : onHeader set m = .ok () { m with header } := by
  rw [onHeader, done]

theorem onHeader_error {set : Header → Except Error Header} (failed : set m.header = .error e) :
    onHeader set m = .error e m := by
  rw [onHeader, failed]

variable {h h' : Hub L} {p : ProducerId} {goal : Option Destination}
  {request : Option QualityRequest} {now : Int64}

theorem sendBy_ok (sent : h.send p goal m request now = .ok (m', h')) :
    sendBy h p goal request now m = .ok () m' := by
  rw [sendBy, Hub.sendInPlace, sent]

theorem sendBy_error (failed : h.send p goal m request now = .error e) :
    sendBy h p goal request now m = .error e m := by
  rw [sendBy, Hub.sendInPlace, failed]

end Outcomes

theorem proper_fresh (kind : MessageKind) : Proper kind (.fresh kind) where
  kind := fresh_kind kind
  header := Header.proper_default
  properties := Properties.proper_default
  entries := Body.named_fresh kind

theorem proper_ofText (text : Option String) : Proper .text (.ofText text) where
  kind := rfl
  header := Header.proper_default
  properties := Properties.proper_default
  entries := Body.named_of_kind MessageKind.noConfusion

theorem proper_ofObject {document : Json} {m : Message} (made : ofObject document = .ok m) :
    Proper .object m := by
  cases made
  exact ⟨rfl, Header.proper_default, Properties.proper_default,
    Body.named_of_kind MessageKind.noConfusion⟩

section Steps
variable {kind : MessageKind} {m : Message} (proper : Proper kind m)
include proper

theorem Proper.withHeader {header : Header} (fine : header.Proper) :
    Proper kind { m with header } :=
  ⟨proper.kind, fine, proper.properties, proper.entries⟩

theorem Proper.operate (o : Operation) : Proper kind (left (o.use m)) := by
  cases o with
  | property name v =>
    rw [Operation.use, left_onProperties]
    exact ⟨proper.kind, proper.header, proper.properties.set name v, proper.entries⟩
  | body o =>
    rw [Operation.use, left_onBody]
    exact ⟨(o.kind_use m.body).trans proper.kind, proper.header, proper.properties,
      proper.entries.operate o⟩

theorem Proper.sendBy (h : Hub L) (p : ProducerId) (goal : Option Destination)
    (request : Option QualityRequest) (now : Int64) :
    Proper kind (left (Message.sendBy h p goal request now m)) := by
  cases outcome : h.send p goal m request now with
  | error e =>
    rw [sendBy_error outcome]
    exact proper
  | ok sent =>
    obtain ⟨header, d, fine, changed, -⟩ := Hub.proper_of_send outcome
    rw [sendBy_ok outcome]
    show Proper kind sent.1
    rw [changed]
    exact proper.withHeader fine

theorem Proper.onHeader (s : Header.Setter) :
    Proper kind (left (Message.onHeader s.apply m)) := by
  cases set : s.apply m.header with
  | error e =>
    rw [onHeader_error set]
    exact proper
  | ok header =>
    rw [onHeader_ok set]
    exact proper.withHeader (proper.header.apply set)

theorem Proper.use (a : Action L) : Proper kind (left (a.use m)) := by
  cases a with
  | header s => exact proper.onHeader s
  | content o => exact proper.operate o
  | clearProperties =>
    exact ⟨proper.kind, proper.header, Properties.proper_default, proper.entries⟩
  | clearBody =>
    exact ⟨(fresh_kind _).trans proper.kind, proper.header, proper.properties,
      Body.named_fresh _⟩
  | send h p goal request now => exact proper.sendBy h p goal request now

theorem Proper.copy {again : Message} (copied : CopyOf m again) : Proper kind again where
  kind := copied.body.kind.trans proper.kind
  header := by
    rw [copied.header]
    exact proper.header
  properties := proper.properties.of_values copied.values
  entries := proper.entries.of_sameContent copied.body.content

end Steps

theorem Arises.proper {kind : MessageKind} {m : Message} (arises : Arises L kind m) :
    Proper kind m := by
  induction arises with
  | fresh kind => exact proper_fresh kind
  | default => exact proper_fresh .plain
  | ofText text => exact proper_ofText text
  | ofObject made => exact proper_ofObject made
  | created made =>
    obtain ⟨_, -, made⟩ := ok_of_bind made
    cases made
    exact proper_fresh _
  | createdText made =>
    obtain ⟨_, -, made⟩ := ok_of_bind made
    cases made
    exact proper_ofText _
  | used _ a proper => exact proper.use a
  | copied _ copied proper => exact proper.copy (deliveryCopy_ok copied).2
  | delivered _ sent begun proper =>
    obtain ⟨header, d, fine, rfl, copied, begun'⟩ := Hub.proper_of_send sent
    rw [begun] at begun'
    cases begun'
    exact (proper.withHeader fine).copy copied

/-! Failures -/

theorem traceless_onHeader (set : Header → Except Error Header) :
    Use.Traceless (onHeader set) := by
  intro m e m' failed
  cases outcome : set m.header with
  | ok header =>
    rw [onHeader_ok outcome] at failed
    cases failed
  | error e' =>
    rw [onHeader_error outcome] at failed
    cases failed
    rfl

theorem traceless_onProperties {α : Type} {use : EStateM Error Properties α}
    (traceless : Use.Traceless use) : Use.Traceless (onProperties use) := by
  intro m e m' failed
  unfold onProperties at failed
  split at failed
  · cases failed
  · rename_i result
    cases failed
    rw [traceless _ _ _ result]

theorem traceless_onBody {α : Type} {use : EStateM Error Body α}
    (traceless : Use.Traceless use) : Use.Traceless (onBody use) := by
  intro m e m' failed
  unfold onBody at failed
  split at failed
  · cases failed
  · rename_i result
    cases failed
    rw [traceless _ _ _ result]

theorem traceless_sendBy (h : Hub L) (p : ProducerId) (goal : Option Destination)
    (request : Option QualityRequest) (now : Int64) :
    Use.Traceless (sendBy h p goal request now) := by
  intro m e m' failed
  cases outcome : h.send p goal m request now with
  | ok sent =>
    rw [sendBy_ok outcome] at failed
    cases failed
  | error e' =>
    rw [sendBy_error outcome] at failed
    cases failed
    rfl

theorem Action.traceless (a : Action L) : Use.Traceless a.use := by
  cases a with
  | header s => exact traceless_onHeader s.apply
  | content o =>
    cases o with
    | property name v => exact traceless_onProperties (Properties.traceless_set name v)
    | body o => exact traceless_onBody o.traceless
  | clearProperties =>
    intro m e m' failed
    cases failed
  | clearBody =>
    intro m e m' failed
    cases failed
  | send h p goal request now => exact traceless_sendBy h p goal request now

/-- However a message of a kind came about and whatever has been done with it: it still is of that
kind, its priority is 9 at most, its id starts with the mark if there is one, its properties have
names and are neither characters nor bytes, and the entries of a map have names. What fails leaves
the message as it was. -/
theorem stays_proper (L : Type) :
    (∀ (kind : MessageKind) (m : Message), Arises L kind m → Proper kind m) ∧
    ∀ (a : Action L) (m m' : Message) (e : Error), a.use m = .error e m' → m' = m :=
  ⟨fun _ _ arises => arises.proper, fun a m m' e failed => a.traceless m e m' failed⟩

/-- The last two of these are refused. -/
def sampleActions : List (Action Nat) :=
  [.content (.body (.set (.entry "a" (.int 1)))), .content (.property "colour" (.string "red")),
    .content (.body (.set (.entry "" .null))), .header (.priority 12)]

/-- A map is filled in, sent, delivered and, as it cannot have a priority of 12, left alone. -/
theorem stays_proper_delivered :
    ∃ m' h' d, Hub.sampleOffice.send 0 (some Hub.sampleInbox)
        (Use.after Action.use sampleActions (.fresh .map)) none 5 = .ok (m', h') ∧
      h'.deliveries = d :: Hub.sampleOffice.deliveries ∧ Proper .map d.message ∧
      ∃ e later, (Action.header (.priority 12) : Action Nat).use d.message = .error e later ∧
        later = d.message := by
  have filled : Arises Nat .map (Use.after Action.use sampleActions (.fresh .map)) :=
    Use.after_induct (fun a _ arises => .used arises a) (.fresh .map)
  have goes : (Hub.sampleOffice.send 0 (some Hub.sampleInbox)
      (Use.after Action.use sampleActions (.fresh .map)) none 5).isOk = true := by decide +kernel
  cases sent : Hub.sampleOffice.send 0 (some Hub.sampleInbox)
      (Use.after Action.use sampleActions (.fresh .map)) none 5 with
  | error e =>
    rw [sent] at goes
    cases goes
  | ok result =>
    obtain ⟨header, d, -, -, -, begun⟩ := Hub.proper_of_send sent
    exact ⟨result.1, result.2, d, rfl, begun,
      (stays_proper Nat).1 .map d.message (.delivered filled sent begun), _, _, rfl,
      (stays_proper Nat).2 (.header (.priority 12)) d.message _ _ rfl⟩

end Message

end Courier
