import Courier.Error
import Courier.Text.Utf16

/-!
# Modified UTF-8

Each UTF-16 unit of a string becomes a group of one to three bytes. The unit zero takes two
bytes, so encoded text has no zero byte, and a surrogate takes three like any other unit.
Decoding reads groups first and pairs surrogates afterwards; it also accepts overlong groups.
-/

namespace Courier.Wire.ModifiedUtf8

set_option autoImplicit false

def encodeUnit (u : UInt16) : List UInt8 :=
  let n := u.toNat
  if n ≠ 0 && n < 0x80 then [UInt8.ofNat n]
  else if n < 0x800 then [UInt8.ofNat (0xC0 + n / 64), UInt8.ofNat (0x80 + n % 64)]
  else
    [UInt8.ofNat (0xE0 + n / 4096), UInt8.ofNat (0x80 + n / 64 % 64), UInt8.ofNat (0x80 + n % 64)]

def encode (s : String) : List UInt8 := (Text.Utf16.encode s).flatMap encodeUnit

/-- A byte `10xxxxxx`. -/
def isContinuation (b : UInt8) : Bool := 0x80 ≤ b && b < 0xC0

/-- Reads the groups of `bytes`, the first of which stands at `index`. -/
def decodeUnits (index : Nat) (done : List UInt16) : List UInt8 → Except Error (List UInt16)
  | [] => .ok done.reverse
  | b :: rest =>
    if b < 0x80 then decodeUnits (index + 1) (b.toUInt16 :: done) rest
    else if 0xC0 ≤ b && b < 0xE0 then
      match rest with
      | [] => .error .truncatedGroup
      | b₂ :: rest =>
        if isContinuation b₂ then
          decodeUnits (index + 2) (UInt16.ofNat (b.toNat % 32 * 64 + b₂.toNat % 64) :: done) rest
        else .error (.malformedContinuation (index + 1))
    else if 0xE0 ≤ b && b < 0xF0 then
      match rest with
      | [] => .error .truncatedGroup
      | b₂ :: rest =>
        if isContinuation b₂ then
          match rest with
          | [] => .error .truncatedGroup
          | b₃ :: rest =>
            if isContinuation b₃ then
              decodeUnits (index + 3)
                (UInt16.ofNat (b.toNat % 16 * 4096 + b₂.toNat % 64 * 64 + b₃.toNat % 64) :: done)
                rest
            else .error (.malformedContinuation (index + 2))
        else .error (.malformedContinuation (index + 1))
    else .error (.malformedGroup index)

def decode (bytes : List UInt8) : Except Error String := do
  let units ← decodeUnits 0 [] bytes
  match Text.Utf16.decode? units with
  | some s => return s
  | none => throw .unpairedSurrogate

end Courier.Wire.ModifiedUtf8
