import Courier.Body.Bytes
import Courier.Body.Map
import Courier.Body.Object
import Courier.Body.Stream
import Courier.Body.Text

/-!
# Bodies

A body has one of six shapes, each with an encoded form. A decoded body is frozen. What is done
with a body leaves a body behind also when it fails.
-/

namespace Courier

set_option autoImplicit false

inductive Body
  | empty
  | text (b : TextBody)
  | bytes (b : BytesBody)
  | stream (b : StreamBody)
  | map (b : MapBody)
  | object (b : ObjectBody)

namespace Body

/-- An empty, writable body. -/
def fresh : MessageKind → Body
  | .plain => empty
  | .text => text {}
  | .bytes => bytes .fresh
  | .stream => stream .fresh
  | .map => map {}
  | .object => object {}

def kind : Body → MessageKind
  | empty => .plain
  | text _ => .text
  | bytes _ => .bytes
  | stream _ => .stream
  | map _ => .map
  | object _ => .object

def readOnly : Body → Bool
  | empty => false
  | text b => b.readOnly
  | bytes b => b.readOnly
  | stream b => b.readOnly
  | map b => b.readOnly
  | object b => b.readOnly

def clear (b : Body) : Body := fresh b.kind

/-- The encoded content; there is none for an empty body, an unset text or an unset object. -/
def encode : Body → Except Error (Option (List UInt8))
  | empty => .ok none
  | text b => .ok b.encode
  | bytes b => .ok (some b.encode)
  | stream b => .ok (some b.encode)
  | map b => b.encode.map some
  | object b => .ok b.data

def decode (kind : MessageKind) (data : Option (List UInt8)) : Except Error Body :=
  match kind with
  | .plain => .ok empty
  | .text => (TextBody.decode data).map text
  | .bytes => .ok (bytes (.decode data))
  | .stream => .ok (stream (.decode data))
  | .map => (MapBody.decode data).map map
  | .object => .ok (object (.decode data))

/-- The body itself, provided it has the shape wanted. -/
def expect (b : Body) (wanted : MessageKind) : Except Error Body :=
  if b.kind = wanted then .ok b else .error (.wrongShape wanted b.kind)

/-- What was done with the part of a body, as done with the body. -/
def within {β α : Type} (whole : β → Body) : EStateM.Result Error β α → EStateM.Result Error Body α
  | .ok a part => .ok a (whole part)
  | .error e part => .error e (whole part)

/-! Each shape of body has uses of its own. A body of another shape refuses them. -/

variable {α : Type}

def onText (use : EStateM Error TextBody α) : EStateM Error Body α
  | text b => within text (use b)
  | b => .error (.wrongShape .text b.kind) b

def onBytes (use : EStateM Error BytesBody α) : EStateM Error Body α
  | bytes b => within bytes (use b)
  | b => .error (.wrongShape .bytes b.kind) b

def onStream (use : EStateM Error StreamBody α) : EStateM Error Body α
  | stream b => within stream (use b)
  | b => .error (.wrongShape .stream b.kind) b

def onMap (use : EStateM Error MapBody α) : EStateM Error Body α
  | map b => within map (use b)
  | b => .error (.wrongShape .map b.kind) b

def onObject (use : EStateM Error ObjectBody α) : EStateM Error Body α
  | object b => within object (use b)
  | b => .error (.wrongShape .object b.kind) b

end Body

end Courier
