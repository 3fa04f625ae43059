import Courier.Error
import Courier.Text.Utf8

/-!
# Text bodies
-/

namespace Courier

set_option autoImplicit false

structure TextBody where
  text : Option String := none
  readOnly : Bool := false

namespace TextBody

def set (text : Option String) : EStateM Error TextBody Unit := fun b =>
  if b.readOnly then .error .bodyReadOnly b else .ok () { b with text }

def encode (b : TextBody) : Option (List UInt8) := b.text.map Text.Utf8.encode

def decode : Option (List UInt8) → Except Error TextBody
  | none => .ok ⟨none, true⟩
  | some bytes =>
    match Text.Utf8.decode bytes with
    | .ok text => .ok ⟨some text, true⟩
    | .error fault => .error (.textNotUtf8 fault)

end TextBody

end Courier
