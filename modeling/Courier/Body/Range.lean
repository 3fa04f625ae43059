import Courier.Error

/-!
# Ranges of buffers
-/

namespace Courier

set_option autoImplicit false

/-- `length` bytes of `buffer` from `offset`. -/
def subrange (buffer : List UInt8) (offset length : Nat) : Except Error (List UInt8) :=
  if offset + length ≤ buffer.length then .ok ((buffer.drop offset).take length)
  else .error (.rangeOutside offset length buffer.length)

end Courier
