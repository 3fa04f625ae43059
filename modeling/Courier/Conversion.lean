import Courier.Error
import Courier.Number.Read

/-!
# Conversions

How a stored value is read as another type. Integers widen, texts are read as numbers, and
nothing narrows. Null reads as the text `null`, hence as `false` and as no number.
-/

namespace Courier.Value

set_option autoImplicit false

def nullText : String := "null"

def unsupported {α : Type} (target : ValueType) (v : Value) : Except Error α :=
  .error (.unsupportedConversion target v.type)

/-- Reads a text by `read`; a text it does not take is reported with the type asked for. -/
def fromText {α : Type} (target : ValueType) (read : String → Option α) (s : String) :
    Except Error α :=
  match read s with
  | some a => .ok a
  | none => .error (.unreadable s target)

def readByte (s : String) : Option Int8 :=
  (Number.readBounded s (-128) 127).map Int8.ofInt

def readShort (s : String) : Option Int16 :=
  (Number.readBounded s (-32768) 32767).map Int16.ofInt

def readInt (s : String) : Option Int32 :=
  (Number.readBounded s (-2147483648) 2147483647).map Int32.ofInt

def readLong (s : String) : Option Int64 :=
  (Number.readBounded s (-9223372036854775808) 9223372036854775807).map Int64.ofInt

def toBoolean : Value → Except Error Bool
  | boolean v => .ok v
  | string s => .ok (s.map Char.toLower == "true")
  | null => .ok false
  | v => unsupported .boolean v

def toByte : Value → Except Error Int8
  | byte v => .ok v
  | string s => fromText .byte readByte s
  | null => fromText .byte readByte nullText
  | v => unsupported .byte v

def toShort : Value → Except Error Int16
  | short v => .ok v
  | byte v => .ok v.toInt16
  | string s => fromText .short readShort s
  | null => fromText .short readShort nullText
  | v => unsupported .short v

def toInt : Value → Except Error Int32
  | int v => .ok v
  | short v => .ok v.toInt32
  | byte v => .ok v.toInt32
  | string s => fromText .int readInt s
  | null => fromText .int readInt nullText
  | v => unsupported .int v

def toLong : Value → Except Error Int64
  | long v => .ok v
  | int v => .ok v.toInt64
  | short v => .ok v.toInt64
  | byte v => .ok v.toInt64
  | string s => fromText .long readLong s
  | null => fromText .long readLong nullText
  | v => unsupported .long v

def toFloat : Value → Except Error UInt32
  | float bits => .ok bits
  | string s => fromText .float Number.readSingle s
  | null => fromText .float Number.readSingle nullText
  | v => unsupported .float v

def toDouble : Value → Except Error UInt64
  | double bits => .ok bits
  | float bits => .ok (Number.widen bits)
  | string s => fromText .double Number.readDouble s
  | null => fromText .double Number.readDouble nullText
  | v => unsupported .double v

/-- Only a char is a char. -/
def toChar : Value → Except Error Char
  | char c => .ok c
  | null => .error .nullChar
  | v => unsupported .char v

/-- Every value but a byte array has a text; null has none to give. -/
def toText : Value → Except Error (Option String)
  | null => .ok none
  | bytes b => unsupported .string (bytes b)
  | v => .ok (some v.text)

def toBytes : Value → Except Error (Option (List UInt8))
  | null => .ok none
  | bytes b => .ok (some b)
  | v => unsupported .bytes v

/-- A value as one of the type wanted. A text or a byte array may turn out to be null. -/
def convert (v : Value) : ValueType → Except Error Value
  | .null => if v.isNull then .ok null else unsupported .null v
  | .boolean => v.toBoolean.map boolean
  | .byte => v.toByte.map byte
  | .char => v.toChar.map char
  | .short => v.toShort.map short
  | .int => v.toInt.map int
  | .long => v.toLong.map long
  | .float => v.toFloat.map float
  | .double => v.toDouble.map double
  | .string => v.toText.map fun s => (s.map string).getD null
  | .bytes => v.toBytes.map fun b => (b.map bytes).getD null

end Courier.Value
