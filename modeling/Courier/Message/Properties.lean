import Courier.Conversion
import Courier.Table

/-!
# Properties

Named values that applications attach to a message. The copy a consumer receives is read-only
until it is cleared.
-/

namespace Courier

set_option autoImplicit false

structure Properties where
  values : Table String Value := ∅
  readOnly : Bool := false

namespace Properties

/-- Neither a char nor a byte array may be a property. -/
def admits : Value → Bool
  | .char _ | .bytes _ => false
  | _ => true

def set (name : String) (v : Value) : EStateM Error Properties Unit := fun p =>
  if name.isEmpty then .error .emptyPropertyName p
  else if p.readOnly then .error (.propertiesReadOnly name) p
  else if admits v then .ok () { p with values := p.values.insert name v }
  else .error (.notPropertyType v.type) p

def get? (p : Properties) (name : String) : Option Value := p.values.get? name

/-- Reads a property by a conversion; an absent one is null. -/
def read {α : Type} (p : Properties) (name : String) (convert : Value → Except Error α) :
    Except Error α :=
  convert ((p.get? name).getD .null)

def contains (p : Properties) (name : String) : Bool := p.values.contains name

def clear (_ : Properties) : Properties := {}

end Properties

end Courier
