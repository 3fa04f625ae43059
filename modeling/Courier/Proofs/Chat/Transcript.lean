import Courier.Proofs.Chat.Joining
import Courier.Proofs.Hub.Legality
import Courier.Proofs.Text.Trimming

/-!
# The transcript of a chat

Both participants hear every line the user says, the user first, until a line says to leave. Then,
or at the end of the input, both connections close.
-/

namespace Courier

set_option autoImplicit false

/-! ## Deliveries to listeners -/

namespace Hub
variable {L : Type} {h : Hub L}

/-- The endpoint is an open consumer that the application holds, with this listener. -/
inductive Listens (h : Hub L) : Endpoint L → L → Prop
  | consumer {k : ConsumerId} {source : Destination} {l : L}
    (opened : (h.consumer k).closed = false) (listener : (h.consumer k).listener = some l)
    (held : (h.consumer k).held = true) : Listens h (.consumer k source) l

section Turns
variable {d : Delivery L} {outer : List (Delivery L)}

/-- The consumer whose listener is done, if there is one, is still held. -/
def Attended (h : Hub L) (d : Delivery L) : Prop :=
  ∀ k, d.serving = some k → (h.consumer k).held = true

theorem resumed_of_attended (attended : h.Attended d) :
    ({ h with deliveries := d :: outer } : Hub L).resumed d outer =
      { h with deliveries := { d with serving := none } :: outer } := by
  cases served : d.serving with
  | none => simp only [resumed, served]
  | some k =>
    have live : ({ h with deliveries := { d with serving := none } :: outer } : Hub L).consumerLive
        k = true := by
      rw [consumerLive, Bool.or_eq_true]
      exact .inl (attended k served)
    simp only [resumed, served, reap, if_pos live]

theorem advance_finishes (attended : h.Attended d) (done : d.waiting = []) :
    ({ h with deliveries := d :: outer } : Hub L).advance =
      some (.finished, { h with deliveries := outer }) := by
  rw [advance_of_done rfl done, resumed_of_attended attended]

/-- Its next turn notifies the next listener, whose consumer is attended to then. -/
theorem advance_notifies (outer : List (Delivery L)) (attended : h.Attended d) {e : Endpoint L}
    {waiting : List (Endpoint L)} {l : L} (more : d.waiting = e :: waiting)
    (listens : h.Listens e l) :
    ∃ k, (h.consumer k).held = true ∧
      ({ h with deliveries := d :: outer } : Hub L).advance = some (.notified l d.message,
        { h with deliveries := { d with waiting, serving := some k } :: outer }) := by
  rw [advance_of_waiting rfl more, resumed_of_attended attended]
  cases listens with
  | @consumer k source l opened listener held =>
    refine ⟨k, held, ?_⟩
    unfold serve
    dsimp only
    split
    · rename_i closed
      exact absurd (opened.symm.trans closed) Bool.false_ne_true
    · split
      · rename_i l' other
        cases listener.symm.trans other
        rfl
      · rename_i other
        cases listener.symm.trans other

end Turns

/-- A delivery to consumers that listen notifies each of them and leaves the hub as it was. -/
theorem advanceBy_of_listening {m : Message} {sender : Option ProducerId}
    {outer : List (Delivery L)} {waiting : List (Endpoint L)} {listeners : List L}
    (listening : List.Forall₂ h.Listens waiting listeners) {serving : Option ConsumerId}
    (attended : h.Attended { message := m, waiting, serving, sender }) :
    advanceBy (waiting.length + 1)
        { h with deliveries := { message := m, waiting, serving, sender } :: outer } =
      (listeners.map (·, m), { h with deliveries := outer }) := by
  -- every turn leaves the consumer it served to the next one to look after
  induction listening generalizing serving with
  | nil =>
    rw [List.length_nil, advanceBy, advance_finishes attended rfl]
    rfl
  | @cons e l waiting listeners listens rest ih =>
    obtain ⟨k, held, next⟩ := advance_notifies outer attended rfl listens
    have attended' : h.Attended { message := m, waiting, serving := some k, sender } := by
      intro k' same
      cases same
      exact held
    rw [List.length_cons, advanceBy, next]
    simp only [ih attended']
    rfl

end Hub

namespace Chat

/-! ## Saying a line -/

/-- What both participants show of a line. -/
def echo (user line : String) : List String :=
  [user ++ " heard '" ++ user ++ " said '" ++ line ++ "''",
    "ChatBot heard '" ++ user ++ " said '" ++ line ++ "''"]

namespace Venue
variable (v : Venue)

/-- A chat of which as many lines have been said. -/
def chat (user : String) (sent : Nat) : Chat :=
  ⟨v.hub [user, botName] sent, seat 0 user, seat 1 botName⟩

end Venue

section Say
variable {v : Venue} {user : String}

theorem sendable_hub (legal : v.defaults.Legal) (sent : Nat) (text : Option String) :
    (v.hub [user, botName] sent).Sendable 0 none (.ofText text) none v.destination v.defaults
      0 where
  opened := rfl
  session := rfl
  towards := .inl ⟨rfl, rfl⟩
  quality := .own
  priority := legal.priority
  fits := id
  reached := Hub.linked_ok.mpr ⟨findBroker_hub v _ sent, rfl⟩
  known := Broker.interned_iff.mpr ⟨_, Table.get?_insert_self ..⟩

theorem listens_hub (v : Venue) (user : String) (sent : Nat) :
    List.Forall₂ (v.hub [user, botName] sent).Listens
      ((v.registrations [user, botName]).map (·.endpoint)) [user, botName] :=
  .cons (.consumer rfl rfl rfl) (.cons (.consumer rfl rfl rfl) .nil)

/-- What is heard of a copy is the text of the message. -/
theorem heard_copy {header : Header} {copy : Message} {text : String} (name : String)
    (copied : Message.CopyOf { Message.ofText (some text) with header } copy) :
    heard name copy = some (name ++ " heard '" ++ text ++ "'") := by
  have same : Body.SameContent (.text { text := some text }) copy.body := copied.body.content
  generalize body : copy.body = held at same
  cases same with
  | text kept => simp only [heard, body, kept]

theorem say_of_settled {c : Chat} {line : String} {now : Int64} {m m' : Message} {h h' : ChatHub}
    {notified : List (String × Message)}
    (written : c.hub.createTextMessage c.user.session
      (some (c.user.name ++ " said '" ++ line ++ "'")) = .ok m)
    (sent : c.hub.send c.user.producer none m none now = .ok (m', h))
    (settled : h.settle = (notified, h')) :
    c.say line now = .ok (notified.filterMap fun n => heard n.1 n.2, { c with hub := h' }) := by
  show (c.hub.createTextMessage _ _ >>= _) = _
  rw [written]
  show (c.hub.send _ _ _ _ _ >>= _) = _
  rw [sent]
  show Except.ok ((h.settle).1.filterMap _, { c with hub := (h.settle).2 }) = _
  rw [settled]

theorem say_eq (legal : v.defaults.Legal) (sent : Nat) (line : String) (now : Int64) :
    (v.chat user sent).say line now = .ok (echo user line, v.chat user (sent + 1)) := by
  obtain ⟨header, copy, -, copied, delivered⟩ :=
    Hub.exists_send (sendable_hub legal sent (some (user ++ " said '" ++ line ++ "'"))) now
  rw [registrations_hub] at delivered
  have settled : ((v.hub [user, botName] sent).mint.2.starting copy
      ((v.registrations [user, botName]).map (·.endpoint)) (some 0)).settle =
      ([(user, copy), (botName, copy)], v.hub [user, botName] (sent + 1)) :=
    Hub.advanceBy_of_listening (listens_hub v user (sent + 1)) (fun _ unserved => nomatch unserved)
  have shown : [(user, copy), (botName, copy)].filterMap (fun n => heard n.1 n.2) =
      echo user line := by
    have quotes : "'" ++ "'" = "''" := by decide
    have bot : "ChatBot" ++ " heard '" = "ChatBot heard '" := by decide
    simp only [List.filterMap_cons, List.filterMap_nil, heard_copy _ copied, echo, botName,
      String.append_assoc, quotes, ← bot]
  rw [← shown]
  exact say_of_settled (c := v.chat user sent) rfl delivered settled

end Say

/-! ## Going on and leaving -/

/-- Says one line after another. -/
def talk (c : Chat) : List (String × Int64) → Except Error (List String × Chat)
  | [] => .ok ([], c)
  | (line, now) :: rest => do
    let (shown, c) ← c.say line now
    let (more, c) ← talk c rest
    return (shown ++ more, c)

/-- All that a chat shows for lines each of which is read at a time of its own. -/
def runAt (c : Chat) : List (String × Int64) → List String
  | [] => c.leave
  | (line, now) :: rest =>
    match c.step line now with
    | (shown, some c) => shown ++ runAt c rest
    | (shown, none) => shown

theorem run_eq_runAt (now : Int64) (c : Chat) (lines : List String) :
    c.run now lines = c.runAt (lines.map (·, now)) := by
  induction lines generalizing c with
  | nil => rfl
  | cons line rest ih =>
    rw [List.map_cons, run, runAt]
    obtain ⟨shown, next⟩ := c.step line now
    cases next with
    | none => rfl
    | some c' => exact congrArg (shown ++ ·) (ih c')

/-- A chat closes when the connection of the user does, and then that of the other. -/
theorem close_of_closes {c : Chat} (first : (c.hub.closeConnection c.user.connection).1 = .ok ())
    (second : ((c.hub.closeConnection c.user.connection).2.closeConnection c.bot.connection).1 =
      .ok ()) : c.close = .ok () := by
  rw [close]
  dsimp only
  rw [first]
  exact second

theorem leave_of_close {c : Chat} (closed : c.close = .ok ()) : c.leave = [] := by
  rw [leave, closed]

section Run
variable {c final : Chat} {shown : List String} {said rest : List (String × Int64)}

theorem runAt_of_exit (ends : ∀ timed ∈ rest.head?, isExit timed.1 = true) :
    c.runAt rest = c.leave := by
  cases rest with
  | nil => rfl
  | cons timed rest =>
    simp only [runAt, step, if_pos (ends timed rfl)]

/-- A chat goes on for as long as lines can be said, and is left then. -/
theorem runAt_of_talk (talked : c.talk said = .ok (shown, final))
    (speaks : ∀ timed ∈ said, isExit timed.1 = false)
    (ends : ∀ timed ∈ rest.head?, isExit timed.1 = true) :
    c.runAt (said ++ rest) = shown ++ final.leave := by
  induction said generalizing c shown with
  | nil =>
    cases talked
    exact runAt_of_exit ends
  | cons timed said ih =>
    obtain ⟨⟨heard, c'⟩, told, talked⟩ := ok_of_bind talked
    obtain ⟨⟨more, final'⟩, talked', same⟩ := ok_of_bind talked
    cases same
    have goes : isExit timed.1 = false := speaks timed List.mem_cons_self
    have next : c.step timed.1 timed.2 = (heard, some c') := by
      simp only [step, goes, Bool.false_eq_true, if_false, told]
    rw [List.cons_append, runAt, next, List.append_assoc]
    simp only [ih talked' fun timed mem => speaks timed (List.mem_cons_of_mem _ mem)]

end Run

section Whole
variable {v : Venue} {user : String}

theorem talk_eq (legal : v.defaults.Legal) (sent : Nat) (said : List (String × Int64)) :
    (v.chat user sent).talk said =
      .ok (said.flatMap (fun timed => echo user timed.1), v.chat user (sent + said.length)) := by
  induction said generalizing sent with
  | nil => rfl
  | cons timed said ih =>
    show ((v.chat user sent).say _ _ >>= _) = _
    rw [say_eq legal]
    show ((v.chat user (sent + 1)).talk said >>= _) = _
    rw [ih, Nat.add_right_comm]
    rfl

theorem sealed_hub (v : Venue) (names : List String) (sent : Nat) : (v.hub names sent).Sealed := by
  intro k opened
  have present : k < names.length := by
    simpa [Venue.hub] using Hub.consumer_lt_of_open opened
  rw [consumer_hub v sent present]
  show ((v.hub names sent).session k).isOpen = true
  rw [session_hub v sent present]
  rfl

theorem linked_hub (v : Venue) {names : List String} (sent : Nat) {i : Nat}
    (present : i < names.length) :
    (v.hub names sent).linked ((v.hub names sent).connection i).link = .ok 0 := by
  rw [connection_hub v sent present]
  exact Hub.linked_ok.mpr ⟨findBroker_hub v names sent, rfl⟩

/-- The connection of the user closes, and then that of the other does. -/
theorem closes_hub (v : Venue) (user : String) (sent : Nat) :
    ((v.hub [user, botName] sent).closeConnection 0).1 = .ok () ∧
      (((v.hub [user, botName] sent).closeConnection 0).2.closeConnection 1).1 = .ok () :=
  ⟨Hub.closeConnection_of_linked (sealed_hub v _ sent) (linked_hub v sent (by simp)),
    Hub.closeConnection_of_linked_after (sealed_hub v _ sent) (linked_hub v sent (by simp)) 0⟩

theorem leave_eq (v : Venue) (user : String) (sent : Nat) : (v.chat user sent).leave = [] := by
  obtain ⟨first, second⟩ := closes_hub v user sent
  exact leave_of_close (close_of_closes (c := v.chat user sent) first second)

/-- The lines before the first that says to leave. -/
def spoken (lines : List (String × Int64)) : List (String × Int64) :=
  lines.takeWhile fun timed => !isExit timed.1

theorem runAt_eq (legal : v.defaults.Legal) (sent : Nat) (lines : List (String × Int64)) :
    (v.chat user sent).runAt lines = (spoken lines).flatMap fun timed => echo user timed.1 := by
  have parts : lines = spoken lines ++ lines.dropWhile fun timed => !isExit timed.1 :=
    List.takeWhile_append_dropWhile.symm
  have speaks : ∀ timed ∈ spoken lines, isExit timed.1 = false := by
    intro timed mem
    simpa using List.mem_takeWhile_imp mem
  have ends : ∀ timed ∈ (lines.dropWhile fun timed => !isExit timed.1).head?,
      isExit timed.1 = true := by
    intro timed first
    have stops := List.head?_dropWhile_not (fun timed => !isExit timed.1) lines
    rw [Option.mem_def.mp first] at stops
    simpa using stops
  calc (v.chat user sent).runAt lines
      = (v.chat user sent).runAt (spoken lines ++ lines.dropWhile fun timed => !isExit timed.1) :=
        congrArg _ parts
    _ = _ ++ (v.chat user (sent + (spoken lines).length)).leave :=
        runAt_of_talk (talk_eq legal sent (spoken lines)) speaks ends
    _ = _ := by rw [leave_eq, List.append_nil]

theorem start_eq {f : Factory} {settings : Settings}
    (accepted : Factory.ofSettings fresh 0 settings = .ok f) (suits : v.Suits f settings.session)
    (unasked : v.clientId = none) (user : String) :
    start settings v.topic user = .ok (v.chat user 0) := by
  rw [start_of_joins accepted (join_first suits user), join_next suits unasked]
  rfl

end Whole

/-- The lines that say to leave. -/
theorem isExit_iff (line : String) : isExit line = true ↔ ∃ before word after,
    line.toList = before ++ word ++ after ∧ Text.Blank before ∧ Text.Blank after ∧
      word.map Char.toLower = ['e', 'x', 'i', 't'] := by
  have letters : ∀ c ∈ ['e', 'x', 'i', 't'], Text.Letter c := by simp [Text.Letter]
  rw [← Text.trimmed_iff letters, isExit, beq_iff_eq, ← String.toList_inj]
  rfl

/-- Without a client id, settings that get a user a connection and a session are all that a chat on
a topic takes. Whatever is said in it, at whatever times, both hear each line, and then both
connections close. So this is what the command shows of its input, up to the first line that comes
down to `exit`. -/
theorem transcript_of_chat {settings : Settings} {f : Factory} {topic user : String}
    {c : ConnectionId} {s : SessionId} {h : ChatHub} (unasked : settings.connection.clientId = none)
    (accepted : Factory.ofSettings fresh 0 settings = .ok f)
    (connected : (f.connectAs fresh (some user)).1 = .ok c)
    (session : (f.connectAs fresh (some user)).2.createSessionFrom c settings.session = .ok (s, h))
    (given : topic ≠ "") :
    (∃ chat, start settings topic user = .ok chat ∧ ∀ lines, ∃ final,
      chat.talk (spoken lines) =
        .ok ((spoken lines).flatMap fun timed => echo user timed.1, final) ∧
      (final.hub.closeConnection final.user.connection).1 = .ok () ∧
      ((final.hub.closeConnection final.user.connection).2.closeConnection
        final.bot.connection).1 = .ok () ∧
      chat.runAt lines = (spoken lines).flatMap fun timed => echo user timed.1) ∧
    (∀ arguments password, Invocation.parse? arguments = some (.chat ⟨topic, user, password⟩) →
      ∀ input now, runProgram arguments settings input now =
        ⟨0, ((inputLines input).takeWhile (!isExit ·)).flatMap (echo user)⟩) ∧
    ∀ line, isExit line = true ↔ ∃ before word after,
      line.toList = before ++ word ++ after ∧ Text.Blank before ∧ Text.Blank after ∧
        word.map Char.toLower = ['e', 'x', 'i', 't'] := by
  obtain ⟨v, rfl, same, suits⟩ := suits_of_accepted connected session given
  rw [ofSettings_clientId accepted, unasked] at same
  have started := start_eq accepted suits same user
  have legal : v.defaults.Legal := suits.defaults ▸ Factory.legal_ofSettings accepted
  refine ⟨⟨v.chat user 0, started, fun lines => ?_⟩, ?_, isExit_iff⟩
  · obtain ⟨first, second⟩ := closes_hub v user (0 + (spoken lines).length)
    exact ⟨_, talk_eq legal 0 _, first, second, runAt_eq legal 0 lines⟩
  · intro arguments password asked input now
    have begun : (Invocation.chat ⟨v.topic, user, password⟩).begin settings =
      .chat (v.chat user 0) := begin_of_start started
    simp only [runProgram, asked, begun]
    rw [run_eq_runAt, runAt_eq legal, spoken, List.takeWhile_map, List.flatMap_map]
    rfl

/-- Whatever is typed after a line like this is not heard by anybody. -/
theorem transcript_of_chat_exit :
    runProgram ["chat", "--user", "a"] (sampleSettings none) "hi\n EXIT \nlater" 0 =
      ⟨0, ["a heard 'a said 'hi''", "ChatBot heard 'a said 'hi''"]⟩ := by
  obtain ⟨f, p, h, accepted, joined⟩ := exists_first none (by simp)
  obtain ⟨c, s, h₁, connected, session, given⟩ := accepted_of_join joined
  obtain ⟨-, shown, -⟩ := transcript_of_chat rfl accepted connected session given
  have asked : Invocation.parse? ["chat", "--user", "a"] = some (.chat ⟨"chat", "a", none⟩) := by
    simp [Invocation.parse?, Invocation.ofChat, Invocation.asksHelp, Invocation.longOption,
      Invocation.isValue, ChatOptions.set, ChatOptions.finish]
  have heard : ((inputLines "hi\n EXIT \nlater").takeWhile (!isExit ·)).flatMap (echo "a") =
      ["a heard 'a said 'hi''", "ChatBot heard 'a said 'hi''"] := by
    decide +kernel
  rw [shown _ _ asked, heard]

end Chat

end Courier
