import Courier.Hub.Session

/-!
# Descriptions

Structural texts that show the parts of a thing by name.
-/

namespace Courier

set_option autoImplicit false

variable {L : Type}

/-- A type name with named parts. -/
def describeRecord (name : String) (parts : List (String × String)) : String :=
  name ++ " \x7b " ++ ", ".intercalate (parts.map fun p => p.1 ++ ": " ++ p.2) ++ " \x7d"

def describeFlag (v : Bool) : String := if v then "true" else "false"

def ValueType.describe : ValueType → String
  | .null => "Null"
  | .boolean => "Boolean"
  | .byte => "Byte"
  | .char => "Char"
  | .short => "Short"
  | .int => "Int"
  | .long => "Long"
  | .float => "Float"
  | .double => "Double"
  | .string => "String"
  | .bytes => "ByteArray"

def DestinationKind.describe : DestinationKind → String
  | .queue => "Queue"
  | .topic => "Topic"

def Destination.describe (d : Destination) : String :=
  describeRecord "Destination" [("name", Text.quote d.name), ("kind", d.kind.describe),
    ("temporary", describeFlag d.temporary)]

def describeTarget : Option Destination → String
  | none => "None"
  | some d => "Some(" ++ d.describe ++ ")"

def ConnectionState.describe : ConnectionState → String
  | .unstarted => "Unstarted"
  | .started => "Started"
  | .stopped => "Stopped"
  | .closed => "Closed"

def AcknowledgeMode.describe : AcknowledgeMode → String
  | .sessionTransacted => "SessionTransacted"
  | .autoAcknowledge => "AutoAcknowledge"
  | .clientAcknowledge => "ClientAcknowledge"
  | .dupsOkAcknowledge => "DupsOkAcknowledge"

def Connection.describe (c : Connection) : String :=
  describeRecord "Connection" [("id", Text.quote c.link.owner),
    ("broker", Text.quote c.link.brokerName), ("state", c.state.describe)]

def Session.describe (s : Session) : String :=
  describeRecord "Session" [("id", Text.quote s.id), ("transacted", describeFlag s.transacted),
    ("acknowledge_mode", s.mode.describe), ("open", describeFlag s.isOpen)]

def Producer.describe (p : Producer) : String :=
  describeRecord "MessageProducer" [("destination", describeTarget p.destination),
    ("closed", describeFlag p.closed)]

def Consumer.describe (c : Consumer L) : String :=
  describeRecord "MessageConsumer" [("id", Text.quote c.id),
    ("destination", describeTarget c.destination), ("closed", describeFlag c.closed)]

def Hub.describeRegistry (h : Hub L) (r : RegistryId) : String :=
  describeRecord "ProviderRegistry"
    [("schemes", "[" ++ ", ".intercalate ((h.schemes r).map Text.quote) ++ "]")]

end Courier
