import Courier.Body
import Courier.Message.Header
import Courier.Message.Properties

/-!
# Messages

A header, properties and a body. What a consumer receives is a copy rebuilt from the encoded
body, which is frozen until it is cleared.
-/

namespace Courier

set_option autoImplicit false

structure Message where
  header : Header := {}
  properties : Properties := {}
  body : Body := .empty

namespace Message

def fresh (kind : MessageKind) : Message := { body := .fresh kind }

def ofText (text : Option String) : Message := { body := .text { text } }

def ofObject (document : Json) : Except Error Message :=
  match ObjectBody.set (some document) {} with
  | .ok _ b => .ok { body := .object b }
  | .error e _ => .error e

def kind (m : Message) : MessageKind := m.body.kind

section Uses
variable {α : Type}

def onBody (use : EStateM Error Body α) : EStateM Error Message α := fun m =>
  match use m.body with
  | .ok a body => .ok a { m with body }
  | .error e body => .error e { m with body }

def onProperties (use : EStateM Error Properties α) : EStateM Error Message α := fun m =>
  match use m.properties with
  | .ok a properties => .ok a { m with properties }
  | .error e properties => .error e { m with properties }

end Uses

def clearBody (m : Message) : Message := { m with body := m.body.clear }

def clearProperties (m : Message) : Message := { m with properties := m.properties.clear }

/-- The copy a consumer receives. -/
def deliveryCopy (m : Message) : Except Error Message := do
  let encoded ← m.body.encode
  let body ← Body.decode m.kind encoded
  return { m with properties := { m.properties with readOnly := true }, body }

end Message

end Courier
