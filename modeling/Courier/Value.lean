import Courier.Number.FloatText

/-!
# Tagged scalars

The values that properties, map entries and stream entries hold. Floating-point numbers are kept
as bit patterns, so equality of values is equality of what travels.
-/

namespace Courier

set_option autoImplicit false

inductive ValueType
  | null | boolean | byte | char | short | int | long | float | double | string | bytes
  deriving DecidableEq, Repr

namespace ValueType

/-- The byte that announces a value of this type on the wire. -/
def tag : ValueType → UInt8
  | null => 0
  | boolean => 1
  | byte => 2
  | char => 3
  | short => 4
  | int => 5
  | long => 6
  | float => 7
  | double => 8
  | string => 9
  | bytes => 10

def all : List ValueType :=
  [null, boolean, byte, char, short, int, long, float, double, string, bytes]

def ofTag? (t : UInt8) : Option ValueType := all.find? (·.tag == t)

theorem ofTag?_tag (t : ValueType) : ofTag? t.tag = some t := by cases t <;> rfl

def name : ValueType → String
  | null => "null"
  | boolean => "boolean"
  | byte => "byte"
  | char => "char"
  | short => "short"
  | int => "int"
  | long => "long"
  | float => "float"
  | double => "double"
  | string => "string"
  | bytes => "byte[]"

end ValueType

inductive Value
  | null
  | boolean (v : Bool)
  | byte (v : Int8)
  | char (v : Char)
  | short (v : Int16)
  | int (v : Int32)
  | long (v : Int64)
  | float (bits : UInt32)
  | double (bits : UInt64)
  | string (v : String)
  | bytes (v : List UInt8)
  deriving DecidableEq

namespace Value

def type : Value → ValueType
  | null => .null
  | boolean _ => .boolean
  | byte _ => .byte
  | char _ => .char
  | short _ => .short
  | int _ => .int
  | long _ => .long
  | float _ => .float
  | double _ => .double
  | string _ => .string
  | bytes _ => .bytes

def isNull (v : Value) : Bool := v.type == .null

/-- The display text. A byte array shows its length only. -/
def text : Value → String
  | null => "null"
  | boolean v => if v then "true" else "false"
  | byte v => toString v.toInt
  | char c => c.toString
  | short v => toString v.toInt
  | int v => toString v.toInt
  | long v => toString v.toInt
  | float bits => Number.Layout.scalar.text Number.single bits.toNat
  | double bits => Number.Layout.scalar.text Number.double bits.toNat
  | string s => s
  | bytes b => s!"byte[{b.length}]"

end Value

end Courier
