import Courier.Wire.BigEndian
import Courier.Wire.ModifiedUtf8

/-!
# Writing bytes

A write appends to the bytes written so far. The encodings that can fail are functions of their
own; a failed one appends nothing.
-/

namespace Courier.Wire

set_option autoImplicit false

/-- The longest byte array or map that a signed 32-bit count can announce. -/
def maxCount : Nat := 2147483647

def encodeByte (v : Int8) : List UInt8 := BigEndian.encode 1 v.toBitVec.toNat

def encodeBoolean (v : Bool) : List UInt8 := BigEndian.encode 1 v.toNat

def encodeShort (v : Int16) : List UInt8 := BigEndian.encode 2 v.toBitVec.toNat

def encodeInt (v : Int32) : List UInt8 := BigEndian.encode 4 v.toBitVec.toNat

def encodeLong (v : Int64) : List UInt8 := BigEndian.encode 8 v.toBitVec.toNat

def encodeFloat (bits : UInt32) : List UInt8 := BigEndian.encode 4 bits.toNat

def encodeDouble (bits : UInt64) : List UInt8 := BigEndian.encode 8 bits.toNat

/-- One UTF-16 unit; characters above U+FFFF have no such form. -/
def encodeChar (c : Char) : Except Error (List UInt8) :=
  if c.toNat ≤ 0xFFFF then .ok (BigEndian.encode 2 c.toNat) else .error (.charTooWide c)

def encodeString (s : String) : Except Error (List UInt8) :=
  let bytes := ModifiedUtf8.encode s
  if bytes.length ≤ 0xFFFF then .ok (BigEndian.encode 2 bytes.length ++ bytes)
  else .error (.stringTooLong bytes.length)

/-- A write returns nothing or an error, and in both cases the bytes it leaves behind. -/
abbrev Write := EStateM Error (List UInt8) Unit

namespace Write

def raw (bytes : List UInt8) : Write := modify (· ++ bytes)

def encoded : Except Error (List UInt8) → Write
  | .ok bytes => raw bytes
  | .error e => throw e

/-- The outcome alone, from empty output. -/
def collect (w : Write) : Except Error (List UInt8) :=
  match w [] with
  | .ok _ bytes => .ok bytes
  | .error e _ => .error e

end Write

end Courier.Wire
