import Courier.Table
import Courier.Wire.Cursor
import Courier.Wire.Output

/-!
# Values and maps on the wire

A value is a tag byte and a payload. A map is the number of its entries and then each key and
value; when entries share a key the last one wins.
-/

namespace Courier.Wire

set_option autoImplicit false

def encodeArray (bytes : List UInt8) : Except Error (List UInt8) :=
  if bytes.length ≤ maxCount then .ok (BigEndian.encode 4 bytes.length ++ bytes)
  else .error (.arrayTooLong bytes.length)

def encodePayload : Value → Except Error (List UInt8)
  | .null => .ok []
  | .boolean v => .ok (encodeBoolean v)
  | .byte v => .ok (encodeByte v)
  | .char c => encodeChar c
  | .short v => .ok (encodeShort v)
  | .int v => .ok (encodeInt v)
  | .long v => .ok (encodeLong v)
  | .float bits => .ok (encodeFloat bits)
  | .double bits => .ok (encodeDouble bits)
  | .string s => encodeString s
  | .bytes b => encodeArray b

def encodeValue (v : Value) : Except Error (List UInt8) :=
  (encodePayload v).map (v.type.tag :: ·)

namespace Write

def char (c : Char) : Write := encoded (encodeChar c)

def string (s : String) : Write := encoded (encodeString s)

def value (v : Value) : Write := encoded (encodeValue v)

/-- A byte array as a value, written in its place. The length is checked before anything goes
out. -/
def byteArray (bytes : List UInt8) : Write := do
  if maxCount < bytes.length then throw (.arrayTooLong bytes.length)
  raw [ValueType.bytes.tag]
  raw (BigEndian.encode 4 bytes.length)
  raw bytes

def entries : List (String × Value) → Write
  | [] => pure ()
  | (k, v) :: rest => do
    string k
    value v
    entries rest

/-- Entries go out one after the other, so a failure leaves the count and the entries before the
bad one behind. -/
def map (table : Table String Value) : Write := do
  if maxCount < table.size then throw (.mapTooLarge table.size)
  raw (BigEndian.encode 4 table.size)
  entries table.entries

end Write

def encodeMap (table : Table String Value) : Except Error (List UInt8) :=
  (Write.map table).collect

namespace Read

def array : Read (List UInt8) := do
  let length ← int
  if length.toInt < 0 then throw (.negativeArrayLength length.toInt)
  exact length.toInt.toNat

def payload : ValueType → Read Value
  | .null => return .null
  | .boolean => .boolean <$> boolean
  | .byte => .byte <$> byte
  | .char => .char <$> char
  | .short => .short <$> short
  | .int => .int <$> int
  | .long => .long <$> long
  | .float => .float <$> float
  | .double => .double <$> double
  | .string => .string <$> string
  | .bytes => .bytes <$> array

def value : Read Value := do
  let tag ← unsignedByte
  match ValueType.ofTag? tag with
  | some type => payload type
  | none => throw (.unknownTag tag)

def entries : Nat → Table String Value → Read (Table String Value)
  | 0, table => return table
  | n + 1, table => do
    let k ← string
    let v ← value
    entries n (table.insert k v)

def map : Read (Table String Value) := do
  let count ← int
  if count.toInt < 0 then throw (.negativeMapSize count.toInt)
  entries count.toInt.toNat ∅

end Read

def decodeValue (bytes : List UInt8) : Except Error Value := Read.value.runOn bytes

def decodeMap (bytes : List UInt8) : Except Error (Table String Value) := Read.map.runOn bytes

end Courier.Wire
