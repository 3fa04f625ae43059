import Courier.Wire.BigEndian
import Courier.Wire.ModifiedUtf8

/-!
# Reading bytes

A cursor is a place in a byte sequence. A read that runs out of data leaves the cursor alone; one
that finds broken data has moved past it.
-/

namespace Courier.Wire

set_option autoImplicit false

structure Cursor where
  data : List UInt8
  rest : List UInt8
  suffix : rest <:+ data

namespace Cursor

def start (data : List UInt8) : Cursor := ⟨data, data, List.suffix_refl data⟩

def position (c : Cursor) : Nat := c.data.length - c.rest.length

def remaining (c : Cursor) : Nat := c.rest.length

def exhausted (c : Cursor) : Bool := c.rest.isEmpty

/-- Past the end means the end. -/
def seek (c : Cursor) (position : Nat) : Cursor :=
  ⟨c.data, c.data.drop position, List.drop_suffix position c.data⟩

def skip (c : Cursor) (n : Nat) : Cursor :=
  ⟨c.data, c.rest.drop n, (List.drop_suffix n c.rest).trans c.suffix⟩

/-- Copies as much as fits to the front of `buffer`; `none` when a buffer with room meets the end
of the data. -/
def fill (c : Cursor) (buffer : List UInt8) : Option Nat × List UInt8 × Cursor :=
  if buffer.isEmpty then (some 0, buffer, c)
  else if c.exhausted then (none, buffer, c)
  else
    let copied := c.rest.take buffer.length
    (some copied.length, copied ++ buffer.drop copied.length, c.skip copied.length)

end Cursor

/-- A read returns a value or an error, and in both cases the cursor it leaves behind. -/
abbrev Read := EStateM Error Cursor

namespace Read

def take (n : Nat) (what : String) : Read (List UInt8) := fun c =>
  let head := c.rest.take n
  if head.length < n then .error (.shortInput n what c.remaining) c
  else .ok head (c.skip n)

def number (n : Nat) (what : String) : Read Nat := BigEndian.decode <$> take n what

def unsignedByte : Read UInt8 := UInt8.ofNat <$> number 1 "byte"

def byte : Read Int8 := Int8.ofNat <$> number 1 "byte"

def boolean : Read Bool := (· != 0) <$> number 1 "boolean"

def short : Read Int16 := Int16.ofNat <$> number 2 "short"

def unsignedShort : Read UInt16 := UInt16.ofNat <$> number 2 "unsigned short"

/-- One UTF-16 unit. -/
def char : Read Char := do
  let unit := UInt16.ofNat (← number 2 "char")
  if Text.Utf16.isHigh unit || Text.Utf16.isLow unit then throw (.loneSurrogate unit)
  return Char.ofNat unit.toNat

def int : Read Int32 := Int32.ofNat <$> number 4 "int"

def long : Read Int64 := Int64.ofNat <$> number 8 "long"

def float : Read UInt32 := UInt32.ofNat <$> number 4 "float"

def double : Read UInt64 := UInt64.ofNat <$> number 8 "double"

def exact (n : Nat) : Read (List UInt8) := take n "byte array"

/-- Copies what is left to the front of `buffer`: the count, `none` at the end, and the buffer. -/
def into (buffer : List UInt8) : Read (Option Nat × List UInt8) := fun c =>
  let (count, buffer, c) := c.fill buffer
  .ok (count, buffer) c

/-- A string with its length in front. When the string itself is cut off the length is not
consumed either. -/
def string : Read String := fun c =>
  match unsignedShort c with
  | .error e c => .error e c
  | .ok length c' =>
    match take length.toNat "string" c' with
    | .error e _ => .error e c
    | .ok bytes c'' =>
      match ModifiedUtf8.decode bytes with
      | .ok s => .ok s c''
      | .error e => .error e c''

/-- The outcome alone, from the start of `data`. -/
def runOn {α : Type} (r : Read α) (data : List UInt8) : Except Error α :=
  match r (Cursor.start data) with
  | .ok a _ => .ok a
  | .error e _ => .error e

end Read

end Courier.Wire
