import Courier.Json.Basic
import Courier.Table

/-!
# Typed reading of documents

The forms in which a document can be asked for. None of them converts between types.
-/

namespace Courier.Json

set_option autoImplicit false

def asBool : Json → Option Bool
  | .bool v => some v
  | _ => none

def asString : Json → Option String
  | .string s => some s
  | _ => none

/-- A whole number within the bounds. -/
def asInteger (low high : Int) : Json → Option Int
  | .integer n => if low ≤ n && n ≤ high then some n else none
  | _ => none

def asInt : Json → Option Int := asInteger (-2147483648) 2147483647

def asLong : Json → Option Int := asInteger (-9223372036854775808) 9223372036854775807

def asUnsignedByte : Json → Option Int := asInteger 0 255

def asList {α : Type} (item : Json → Option α) : Json → Option (List α)
  | .array items => items.mapM item
  | _ => none

/-- An object whose members all have the form; also one that a later member replaces. -/
def asRecord {α : Type} (value : Json → Option α) : Json → Option (Table String α)
  | .object members => (members.mapM fun m => (value m.2).map (m.1, ·)).map Table.ofList
  | _ => none

end Courier.Json
