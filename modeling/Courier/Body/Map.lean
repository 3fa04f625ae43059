import Courier.Body.Range
import Courier.Conversion
import Courier.Wire.Encoding

/-!
# Map bodies

Named values of any wire type, read through the conversions.
-/

namespace Courier

set_option autoImplicit false

structure MapBody where
  entries : Table String Value := ∅
  readOnly : Bool := false

namespace MapBody

/-- The name is checked before the body. -/
def set (name : String) (v : Value) : EStateM Error MapBody Unit := fun b =>
  if name.isEmpty then .error .emptyEntryName b
  else if b.readOnly then .error .bodyReadOnly b
  else .ok () { b with entries := b.entries.insert name v }

def setRange (name : String) (buffer : List UInt8) (offset length : Nat) :
    EStateM Error MapBody Unit := do
  if name.isEmpty then throw .emptyEntryName
  let bytes ← MonadExcept.ofExcept (subrange buffer offset length)
  set name (.bytes bytes)

def get? (b : MapBody) (name : String) : Option Value := b.entries.get? name

/-- Reads an entry by a conversion; an absent one is null. -/
def read {α : Type} (b : MapBody) (name : String) (convert : Value → Except Error α) :
    Except Error α :=
  convert ((b.get? name).getD .null)

def contains (b : MapBody) (name : String) : Bool := b.entries.contains name

def encode (b : MapBody) : Except Error (List UInt8) := Wire.encodeMap b.entries

def decode : Option (List UInt8) → Except Error MapBody
  | none => .ok ⟨∅, true⟩
  | some bytes => (Wire.decodeMap bytes).map fun entries => ⟨entries, true⟩

end MapBody

end Courier
