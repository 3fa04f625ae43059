import Courier.Body.Range
import Courier.Conversion
import Courier.Wire.Encoding

/-!
# Stream bodies

A sequence of tagged values. After `reset` each typed read converts the next entry and moves past
it; a read that fails stays where it was. A byte array may also be read in chunks, and until its
end has been reported nothing else can be read.
-/

namespace Courier

set_option autoImplicit false

/-- A byte array being handed out: what is left of it, and whether a chunk was handed out yet. -/
structure Chunk where
  rest : List UInt8
  started : Bool

inductive StreamBody
  | writing (written : List UInt8)
  | reading (cursor : Wire.Cursor) (chunk : Option Chunk)

namespace StreamBody

def fresh : StreamBody := .writing []

def readOnly : StreamBody → Bool
  | writing _ => false
  | reading .. => true

def encode : StreamBody → List UInt8
  | writing written => written
  | reading c _ => c.data

def decode (data : Option (List UInt8)) : StreamBody := .reading (.start (data.getD [])) none

def reset (b : StreamBody) : StreamBody := .reading (.start b.encode) none

variable {α : Type}

/-- A body that is being read refuses before the writer runs. -/
def write (w : Wire.Write) : EStateM Error StreamBody Unit
  | writing written =>
    match w written with
    | .ok _ written => .ok () (writing written)
    | .error e written => .error e (writing written)
  | reading c chunk => .error .bodyReadOnly (reading c chunk)

def writeValue (v : Value) : EStateM Error StreamBody Unit := write (.value v)

def writeBytes (bytes : List UInt8) : EStateM Error StreamBody Unit := write (.byteArray bytes)

def writeRange (buffer : List UInt8) (offset length : Nat) : EStateM Error StreamBody Unit := do
  let bytes ← MonadExcept.ofExcept (subrange buffer offset length)
  writeBytes bytes

/-- Moves past the next entry when its conversion succeeds too. -/
def read (convert : Value → Except Error α) : EStateM Error StreamBody α
  | writing written => .error .bodyWriteOnly (writing written)
  | reading c (some chunk) => .error .arrayReadInProgress (reading c (some chunk))
  | reading c none =>
    match Wire.Read.value c with
    | .error e _ => .error e (reading c none)
    | .ok v c' =>
      match convert v with
      | .ok a => .ok a (reading c' none)
      | .error e => .error e (reading c none)

/-- Hands out the next part of a chunked array, or reports its end. -/
def handOut (c : Wire.Cursor) (chunk : Chunk) (buffer : List UInt8) :
    (Option Nat × List UInt8) × StreamBody :=
  if chunk.started && chunk.rest.isEmpty then ((none, buffer), reading c none)
  else
    let part := chunk.rest.take buffer.length
    ((some part.length, part ++ buffer.drop part.length),
      reading c (some ⟨chunk.rest.drop part.length, true⟩))

/-- Copies the next part of a byte array to the front of `buffer`. A null entry counts as an array
at its end. -/
def readBytes (buffer : List UInt8) : EStateM Error StreamBody (Option Nat × List UInt8)
  | writing written => .error .bodyWriteOnly (writing written)
  | reading c (some chunk) =>
    let (part, b) := handOut c chunk buffer
    .ok part b
  | reading c none =>
    match Wire.Read.value c with
    | .error e _ => .error e (reading c none)
    | .ok .null c' => .ok (none, buffer) (reading c' none)
    | .ok (.bytes bytes) c' =>
      let (part, b) := handOut c' ⟨bytes, false⟩ buffer
      .ok part b
    | .ok v _ => .error (.notArrayEntry v.type) (reading c none)

end StreamBody

end Courier
