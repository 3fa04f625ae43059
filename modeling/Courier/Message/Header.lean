import Courier.Error
import Courier.Text.Utf8

/-!
# Headers

The header block of a message. Times are milliseconds since the epoch, and an expiration of zero
means never.
-/

namespace Courier

set_option autoImplicit false

inductive DeliveryMode
  | nonPersistent | persistent
  deriving DecidableEq, Repr

namespace DeliveryMode

def code : DeliveryMode → Int
  | nonPersistent => 1
  | persistent => 2

def ofCode (code : Int) : Except Error DeliveryMode :=
  if code = 1 then .ok nonPersistent
  else if code = 2 then .ok persistent
  else .error (.illegalDeliveryMode code)

def name : DeliveryMode → String
  | nonPersistent => "non_persistent"
  | persistent => "persistent"

end DeliveryMode

/-- Mode names ignore ASCII case, and a dash may stand for an underscore. -/
def foldName (name : String) : String :=
  name.map fun c => if c = '-' then '_' else c.toLower

def DeliveryMode.ofName (name : String) : Except Error DeliveryMode :=
  match foldName name with
  | "persistent" => .ok persistent
  | "non_persistent" => .ok nonPersistent
  | other => .error (.unknownDeliveryMode other)

def checkPriority (priority : Int) : Except Error UInt8 :=
  if 0 ≤ priority && priority ≤ 9 then .ok (UInt8.ofNat priority.toNat)
  else .error (.priorityOutOfRange priority)

structure Header where
  messageId : Option String := none
  correlationId : Option String := none
  deliveryMode : DeliveryMode := .persistent
  priority : UInt8 := 4
  expiration : Int64 := 0
  timestamp : Int64 := 0
  redelivered : Bool := false
  type : Option String := none
  destination : Option Destination := none
  replyTo : Option Destination := none
  deriving DecidableEq

namespace Header

/-- What every message id starts with. -/
def idMark : List Char := ['I', 'D', ':']

def setMessageId (h : Header) : Option String → Except Error Header
  | some id =>
    if idMark.isPrefixOf id.toList then .ok { h with messageId := some id }
    else .error (.badMessageId id)
  | none => .ok { h with messageId := none }

def correlationBytes (h : Header) : Option (List UInt8) :=
  h.correlationId.map Text.Utf8.encode

/-- A correlation id given as bytes is kept as text. -/
def setCorrelationBytes (h : Header) : Option (List UInt8) → Except Error Header
  | some bytes =>
    match Text.Utf8.decode bytes with
    | .ok id => .ok { h with correlationId := some id }
    | .error fault => .error (.correlationNotUtf8 fault)
  | none => .ok { h with correlationId := none }

def setPriority (h : Header) (priority : Int) : Except Error Header := do
  return { h with priority := ← checkPriority priority }

end Header

end Courier
