/-!
# Big-endian numbers

Fixed-width numbers as bytes, most significant first.
-/

namespace Courier.Wire.BigEndian

set_option autoImplicit false

/-- The `n` low bytes of `w`. -/
def encode : Nat → Nat → List UInt8
  | 0, _ => []
  | n + 1, w => UInt8.ofNat (w / Nat.pow 256 n) :: encode n w

def decode (bytes : List UInt8) : Nat := bytes.foldl (fun w b => w * 256 + b.toNat) 0

@[simp] theorem length_encode (n w : Nat) : (encode n w).length = n := by
  induction n with
  | zero => rfl
  | succ n ih => simp [encode, ih]

theorem foldl_encode (a n w : Nat) :
    (encode n w).foldl (fun w b => w * 256 + b.toNat) a =
      a * Nat.pow 256 n + w % Nat.pow 256 n := by
  induction n generalizing a with
  | zero => simp [encode, Nat.mod_one]
  | succ n ih =>
    have step : Nat.pow 256 (n + 1) = Nat.pow 256 n * 256 := rfl
    have split : w % Nat.pow 256 (n + 1) =
        w / Nat.pow 256 n % 256 * Nat.pow 256 n + w % Nat.pow 256 n := by
      rw [step, Nat.mod_mul, Nat.add_comm, Nat.mul_comm]
    have shift : a * Nat.pow 256 (n + 1) = a * 256 * Nat.pow 256 n := by
      rw [step, Nat.mul_assoc, Nat.mul_comm 256]
    have byte : (UInt8.ofNat (w / Nat.pow 256 n)).toNat = w / Nat.pow 256 n % 256 :=
      UInt8.toNat_ofNat'
    rw [encode, List.foldl_cons, ih, byte, split, shift, Nat.add_mul, Nat.add_assoc]

theorem decode_encode (n w : Nat) : decode (encode n w) = w % Nat.pow 256 n := by
  simp only [decode, foldl_encode, Nat.zero_mul, Nat.zero_add]

end Courier.Wire.BigEndian
