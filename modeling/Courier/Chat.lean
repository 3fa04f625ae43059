import Courier.Hub.Factory
import Courier.Text.Terminal

/-!
# The chat

Two participants on one topic, each on a connection of its own: what the user types is published
and heard by the user and by `ChatBot`, in this order.
-/

namespace Courier

set_option autoImplicit false

/-- Listeners go by the names of the participants. -/
abbrev ChatHub := Hub String

structure Participant where
  name : String
  connection : ConnectionId
  session : SessionId
  producer : ProducerId
  consumer : ConsumerId

structure Chat where
  hub : ChatHub
  user : Participant
  bot : Participant

namespace Chat

def botName : String := "ChatBot"

/-- The log line of an error that ends the program. -/
def failure (e : Error) : String := "ERROR minijms failed: " ++ Text.forTerminal e.message

/-- What a participant shows of a message. -/
def heard (name : String) (m : Message) : Option String :=
  match m.body with
  | .text b =>
    match b.text with
    | some text => some (name ++ " heard '" ++ text ++ "'")
    | none => some (name ++ " heard an empty message")
  | _ => none

def join (h : ChatHub) (f : Factory) (settings : SessionSettings) (topic name : String) :
    Except Error (Participant × ChatHub) := do
  let (opened, h) := f.connectAs h (some name)
  let c ← opened
  let (s, h) ← h.createSessionFrom c settings
  let (d, h) ← h.sessionDestination s topic .topic
  let (p, h) ← h.createProducer s (some d)
  let (k, h) ← h.createConsumer s (some d)
  let h ← h.setListener k (some name)
  let h ← h.startConnection c
  return (⟨name, c, s, p, k⟩, h)

def start (settings : Settings) (topic user : String) : Except Error Chat := do
  let (r, h) := ({} : ChatHub).addDefaultRegistry
  let f ← Factory.ofSettings h r settings
  let (user, h) ← join h f settings.session topic user
  let (bot, h) ← join h f settings.session topic botName
  return ⟨h, user, bot⟩

/-- Publishes a line of the user; the lines that come back are what was heard. -/
def say (c : Chat) (line : String) (now : Int64) : Except Error (List String × Chat) := do
  let text := c.user.name ++ " said '" ++ line ++ "'"
  let m ← c.hub.createTextMessage c.user.session (some text)
  let (_, h) ← c.hub.send c.user.producer none m none now
  let (notified, h) := h.settle
  return (notified.filterMap fun n => heard n.1 n.2, { c with hub := h })

def close (c : Chat) : Except Error Unit := do
  let (left, h) := c.hub.closeConnection c.user.connection
  left
  (h.closeConnection c.bot.connection).1

/-- The lines shown when the chat is over. -/
def leave (c : Chat) : List String :=
  match c.close with
  | .ok _ => []
  | .error e => [failure e]

def isExit (line : String) : Bool := Text.asciiLower (Text.trim line) == "exit"

/-- Takes one line of input: the lines shown, and the chat unless it is over. -/
def step (c : Chat) (line : String) (now : Int64) : List String × Option Chat :=
  if isExit line then (c.leave, none)
  else match c.say line now with
    | .ok (shown, c) => (shown, some c)
    | .error e => ([failure e], none)

/-- All that a chat shows for the lines of an input. -/
def run (now : Int64) (c : Chat) : List String → List String
  | [] => c.leave
  | line :: rest =>
    match c.step line now with
    | (shown, some c) => shown ++ run now c rest
    | (shown, none) => shown

end Chat

/-- Facts about the broker that the settings lead to. -/
def describeBroker (settings : Settings) : Except Error (List String) := do
  let (r, h) := ({} : ChatHub).addDefaultRegistry
  let f ← Factory.ofSettings h r settings
  let (opened, h) := f.connect h
  let c ← opened
  let m ← h.metadata c
  (h.closeConnection c).1
  return [
    "broker:   " ++ (h.connection c).link.brokerName,
    s!"jms:      {m.version} ({m.majorVersion}.{m.minorVersion})",
    s!"provider: {m.providerName} {m.providerVersion} ({m.providerMajorVersion}.{m.providerMinorVersion})"]

end Courier
