import Courier.Error
import Courier.Json.Parse

/-!
# Object bodies

One document, kept in its JSON text. Each reader decodes a copy of its own, in the form it asks
for.
-/

namespace Courier

set_option autoImplicit false

structure ObjectBody where
  data : Option (List UInt8) := none
  readOnly : Bool := false

namespace ObjectBody

/-- Stores a document; `none` stands for data that has no JSON form. -/
def set (document : Option Json) : EStateM Error ObjectBody Unit := fun b =>
  if b.readOnly then .error .bodyReadOnly b
  else match document with
    | some v => .ok () { b with data := some (Text.Utf8.encode v.render) }
    | none => .error .objectSerialization b

def unset : EStateM Error ObjectBody Unit := fun b =>
  if b.readOnly then .error .bodyReadOnly b else .ok () { b with data := none }

/-- Decodes the document, as it is written, and reads it in the form wanted. -/
def get {α : Type} (b : ObjectBody) (form : Json → Option α) : Except Error (Option α) :=
  match b.data with
  | none => .ok none
  | some bytes =>
    match (Json.ofBytes? bytes).bind form with
    | some a => .ok (some a)
    | none => .error .objectSerialization

def decode (data : Option (List UInt8)) : ObjectBody := ⟨data, true⟩

end ObjectBody

end Courier
