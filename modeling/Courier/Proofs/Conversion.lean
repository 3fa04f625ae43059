import Courier.Conversion

/-!
# Conversions that fail

A value that cannot be read as another type is a format error, whatever the type.
-/

namespace Courier.Value

set_option autoImplicit false

variable {α β : Type}

/-- Unless there is a result, the format is at fault. -/
def FailsInFormat (x : Except Error α) : Prop := ∀ e, x = .error e → e.kind = .format

namespace FailsInFormat

theorem ok (a : α) : FailsInFormat (.ok a) := by
  intro e failed
  cases failed

theorem unsupported (target : ValueType) (v : Value) :
    FailsInFormat (Value.unsupported target v : Except Error α) := by
  intro e failed
  cases failed
  rfl

theorem fromText (target : ValueType) (read : String → Option α) (s : String) :
    FailsInFormat (Value.fromText target read s) := by
  intro e failed
  unfold Value.fromText at failed
  split at failed
  · cases failed
  · cases failed
    rfl

theorem map {x : Except Error α} (f : α → β) (h : FailsInFormat x) : FailsInFormat (x.map f) := by
  intro e failed
  cases x with
  | ok a => cases failed
  | error e' =>
    cases failed
    exact h e rfl

end FailsInFormat

theorem toBoolean_fails (v : Value) : FailsInFormat v.toBoolean := by
  cases v with
  | boolean _ | string _ | null => exact .ok _
  | _ => exact .unsupported _ _

theorem toByte_fails (v : Value) : FailsInFormat v.toByte := by
  cases v with
  | byte _ => exact .ok _
  | string s => exact .fromText .byte readByte s
  | null => exact .fromText .byte readByte nullText
  | _ => exact .unsupported _ _

theorem toShort_fails (v : Value) : FailsInFormat v.toShort := by
  cases v with
  | short _ | byte _ => exact .ok _
  | string s => exact .fromText .short readShort s
  | null => exact .fromText .short readShort nullText
  | _ => exact .unsupported _ _

theorem toInt_fails (v : Value) : FailsInFormat v.toInt := by
  cases v with
  | int _ | short _ | byte _ => exact .ok _
  | string s => exact .fromText .int readInt s
  | null => exact .fromText .int readInt nullText
  | _ => exact .unsupported _ _

theorem toLong_fails (v : Value) : FailsInFormat v.toLong := by
  cases v with
  | long _ | int _ | short _ | byte _ => exact .ok _
  | string s => exact .fromText .long readLong s
  | null => exact .fromText .long readLong nullText
  | _ => exact .unsupported _ _

theorem toFloat_fails (v : Value) : FailsInFormat v.toFloat := by
  cases v with
  | float _ => exact .ok _
  | string s => exact .fromText .float Number.readSingle s
  | null => exact .fromText .float Number.readSingle nullText
  | _ => exact .unsupported _ _

theorem toDouble_fails (v : Value) : FailsInFormat v.toDouble := by
  cases v with
  | double _ | float _ => exact .ok _
  | string s => exact .fromText .double Number.readDouble s
  | null => exact .fromText .double Number.readDouble nullText
  | _ => exact .unsupported _ _

theorem toChar_fails (v : Value) : FailsInFormat v.toChar := by
  cases v with
  | char _ => exact .ok _
  | null =>
    intro e failed
    cases failed
    rfl
  | _ => exact .unsupported _ _

theorem toText_fails (v : Value) : FailsInFormat v.toText := by
  cases v with
  | bytes _ => exact .unsupported _ _
  | _ => exact .ok _

theorem toBytes_fails (v : Value) : FailsInFormat v.toBytes := by
  cases v with
  | null | bytes _ => exact .ok _
  | _ => exact .unsupported _ _

theorem convert_fails (v : Value) (type : ValueType) : FailsInFormat (v.convert type) := by
  cases type with
  | null =>
    show FailsInFormat (if v.isNull then .ok Value.null else Value.unsupported .null v)
    split
    · exact .ok _
    · exact .unsupported _ _
  | boolean => exact v.toBoolean_fails.map _
  | byte => exact v.toByte_fails.map _
  | char => exact v.toChar_fails.map _
  | short => exact v.toShort_fails.map _
  | int => exact v.toInt_fails.map _
  | long => exact v.toLong_fails.map _
  | float => exact v.toFloat_fails.map _
  | double => exact v.toDouble_fails.map _
  | string => exact v.toText_fails.map _
  | bytes => exact v.toBytes_fails.map _

end Courier.Value
