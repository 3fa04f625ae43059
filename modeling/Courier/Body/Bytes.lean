import Courier.Body.Range
import Courier.Wire.Encoding

/-!
# Bytes bodies

An untagged sequence of primitive values. It is written first; `reset` turns it over to reading
from the start. Reading values in the order and with the types of the writes gives them back.
What is done with a body returns something or an error, and in both cases leaves a body behind.
-/

namespace Courier

set_option autoImplicit false

inductive BytesBody
  | writing (written : List UInt8)
  | reading (cursor : Wire.Cursor)

namespace BytesBody

def fresh : BytesBody := .writing []

def readOnly : BytesBody → Bool
  | writing _ => false
  | reading _ => true

def encode : BytesBody → List UInt8
  | writing written => written
  | reading c => c.data

def decode (data : Option (List UInt8)) : BytesBody := .reading (.start (data.getD []))

def reset (b : BytesBody) : BytesBody := .reading (.start b.encode)

def length : BytesBody → Except Error Nat
  | writing _ => .error .bodyWriteOnly
  | reading c => .ok c.data.length

variable {α : Type}

/-- A failed read leaves the body as it was. -/
def read (r : Wire.Read α) : EStateM Error BytesBody α
  | writing written => .error .bodyWriteOnly (writing written)
  | reading c =>
    match r c with
    | .ok a c' => .ok a (reading c')
    | .error e _ => .error e (reading c)

/-- Copies what is left to the front of `buffer`: the count, `none` at the end, and the buffer. -/
def readBytes (buffer : List UInt8) : EStateM Error BytesBody (Option Nat × List UInt8) :=
  read (.into buffer)

/-- Like `readBytes`, into the first `length` bytes only. -/
def readBytesUpTo (buffer : List UInt8) (length : Nat) :
    EStateM Error BytesBody (Option Nat × List UInt8) := do
  if buffer.length < length then throw (.lengthExceeds length buffer.length)
  let (count, front) ← readBytes (buffer.take length)
  return (count, front ++ buffer.drop length)

/-- A body that is being read refuses before the writer runs. -/
def write (w : Wire.Write) : EStateM Error BytesBody Unit
  | writing written =>
    match w written with
    | .ok _ written => .ok () (writing written)
    | .error e written => .error e (writing written)
  | reading c => .error .bodyReadOnly (reading c)

def writeBoolean (v : Bool) : EStateM Error BytesBody Unit := write (.raw (Wire.encodeBoolean v))

def writeByte (v : Int8) : EStateM Error BytesBody Unit := write (.raw (Wire.encodeByte v))

def writeShort (v : Int16) : EStateM Error BytesBody Unit := write (.raw (Wire.encodeShort v))

def writeChar (c : Char) : EStateM Error BytesBody Unit := write (.char c)

def writeInt (v : Int32) : EStateM Error BytesBody Unit := write (.raw (Wire.encodeInt v))

def writeLong (v : Int64) : EStateM Error BytesBody Unit := write (.raw (Wire.encodeLong v))

def writeFloat (bits : UInt32) : EStateM Error BytesBody Unit :=
  write (.raw (Wire.encodeFloat bits))

def writeDouble (bits : UInt64) : EStateM Error BytesBody Unit :=
  write (.raw (Wire.encodeDouble bits))

def writeText (s : String) : EStateM Error BytesBody Unit := write (.string s)

/-- The bytes as they are, without their number. -/
def writeBytes (bytes : List UInt8) : EStateM Error BytesBody Unit := write (.raw bytes)

def writeRange (buffer : List UInt8) (offset length : Nat) : EStateM Error BytesBody Unit := do
  let bytes ← MonadExcept.ofExcept (subrange buffer offset length)
  writeBytes bytes

/-- Writes a value by the writer of its type; null has none, whether or not the body can be
written. -/
def writeValue : Value → EStateM Error BytesBody Unit
  | .null => throw .nullInBytes
  | .boolean v => writeBoolean v
  | .byte v => writeByte v
  | .char c => writeChar c
  | .short v => writeShort v
  | .int v => writeInt v
  | .long v => writeLong v
  | .float bits => writeFloat bits
  | .double bits => writeDouble bits
  | .string s => writeText s
  | .bytes bytes => writeBytes bytes

end BytesBody

end Courier
