import Courier.Proofs.Conversion
import Courier.Proofs.Number.Numerals
import Mathlib.Algebra.Group.Int.Defs

/-!
# Reading integers

A value is read as an integer of some width when it is an integer of that width or less, or the
text of a number that the width has room for. The number stays the same, so that whatever can be
read with one width can be read with every wider one.
-/

namespace Courier

set_option autoImplicit false

/-- The widths of integers. -/
inductive Width
  | byte | short | int | long
  deriving DecidableEq, Repr

namespace Width

def bits : Width → Nat
  | byte => 8
  | short => 16
  | int => 32
  | long => 64

/-- The type of the values of this width. -/
def type : Width → ValueType
  | byte => .byte
  | short => .short
  | int => .int
  | long => .long

/-- The number has a two's complement of this width. -/
def Fits (w : Width) (n : Int) : Prop := -2 ^ (w.bits - 1) ≤ n ∧ n < 2 ^ (w.bits - 1)

instance (w : Width) (n : Int) : Decidable (w.Fits n) := by
  unfold Fits
  infer_instance

theorem bits_le (w : Width) : w.bits ≤ long.bits := by cases w <;> decide

theorem Fits.mono {w wide : Width} {n : Int} (fits : w.Fits n) (wider : w.bits ≤ wide.bits) :
    wide.Fits n := by
  have room : (2 : Int) ^ (w.bits - 1) ≤ 2 ^ (wide.bits - 1) := by
    exact_mod_cast Nat.pow_le_pow_right (by decide) (Nat.sub_le_sub_right wider 1)
  unfold Fits at fits ⊢
  omega

end Width

namespace Value

variable {v : Value} {w w' wide : Width} {n : Int}

/-- The integer that a value is, and its width. -/
def integer? : Value → Option (Width × Int)
  | byte v => some (.byte, v.toInt)
  | short v => some (.short, v.toInt)
  | int v => some (.int, v.toInt)
  | long v => some (.long, v.toInt)
  | _ => none

/-- Reads a value as an integer of the width. -/
def toInteger (w : Width) (v : Value) : Except Error Int :=
  match w with
  | .byte => v.toByte.map Int8.toInt
  | .short => v.toShort.map Int16.toInt
  | .int => v.toInt.map Int32.toInt
  | .long => v.toLong.map Int64.toInt

/-- The value is an integer that is no wider, or the text of a number that fits. -/
inductive Counts (w : Width) : Value → Int → Prop
  | integer {v : Value} {w' : Width} {n : Int} (stored : v.integer? = some (w', n))
      (noWider : w'.bits ≤ w.bits) : Counts w v n
  | text {s : String} {n : Int} (numeral : Number.Numeral s.toList n) (fits : w.Fits n) :
      Counts w (string s) n

theorem toInteger_fails (w : Width) (v : Value) : FailsInFormat (v.toInteger w) := by
  cases w with
  | byte => exact v.toByte_fails.map _
  | short => exact v.toShort_fails.map _
  | int => exact v.toInt_fails.map _
  | long => exact v.toLong_fails.map _

/-! What becomes of each kind of value. -/

theorem toInteger_of_integer (stored : v.integer? = some (w', n)) :
    v.toInteger w = if w'.bits ≤ w.bits then .ok n else unsupported w.type v := by
  cases v with
  | byte b =>
    cases stored
    cases w with
    | byte => rfl
    | short => exact congrArg Except.ok b.toInt_toInt16
    | int => exact congrArg Except.ok b.toInt_toInt32
    | long => exact congrArg Except.ok b.toInt_toInt64
  | short s =>
    cases stored
    cases w with
    | byte | short => rfl
    | int => exact congrArg Except.ok s.toInt_toInt32
    | long => exact congrArg Except.ok s.toInt_toInt64
  | int i =>
    cases stored
    cases w with
    | byte | short | int => rfl
    | long => exact congrArg Except.ok i.toInt_toInt64
  | long _ =>
    cases stored
    cases w <;> rfl
  | _ => cases stored

/-- Reading a text within bounds is exact when the bounds are those of the type. -/
theorem fromText_bounded {α : Type} {ofInt : Int → α} {toInt : α → Int} {low high : Int}
    (exact : ∀ {n}, low ≤ n → n < high + 1 → toInt (ofInt n) = n) (target : ValueType)
    (s : String) :
    (fromText target (fun s => (Number.readBounded s low high).map ofInt) s).map toInt = .ok n ↔
      Number.readInteger s = some n ∧ low ≤ n ∧ n < high + 1 := by
  rw [fromText, Number.readBounded]
  cases Number.readInteger s with
  | none => simp [Except.map]
  | some m =>
    by_cases inside : low ≤ m ∧ m < high + 1
    · have bounded : (low ≤ m && m ≤ high) = true := by
        simpa [Int.lt_add_one_iff] using inside
      rw [Option.filter_some, if_pos bounded]
      simp only [Option.map_some, Except.map, exact inside.1 inside.2, Except.ok.injEq,
        Option.some.injEq]
      refine ⟨?_, And.left⟩
      rintro rfl
      exact ⟨rfl, inside⟩
    · have outside : ¬ (low ≤ m && m ≤ high) = true := by
        simpa [Int.lt_add_one_iff] using inside
      rw [Option.filter_some, if_neg outside]
      simp only [Option.map_none, Except.map, reduceCtorEq, Option.some.injEq, false_iff]
      rintro ⟨rfl, inside'⟩
      exact inside inside'

/-- The text of a number that fits is read as that number, and no other text is read. -/
theorem toInteger_string {s : String} :
    (string s).toInteger w = .ok n ↔ Number.Numeral s.toList n ∧ w.Fits n := by
  rw [← Number.readInteger_eq_some_iff]
  cases w with
  | byte => exact fromText_bounded Int8.toInt_ofInt_of_le .byte s
  | short => exact fromText_bounded Int16.toInt_ofInt_of_le .short s
  | int => exact fromText_bounded Int32.toInt_ofInt_of_le .int s
  | long => exact fromText_bounded Int64.toInt_ofInt_of_le .long s

theorem toInteger_null (w : Width) : null.toInteger w = (string nullText).toInteger w := by
  cases w <;> rfl

/-- Nothing else is a number. -/
theorem toInteger_of_other (noInteger : v.integer? = none) (noText : ∀ s, v ≠ string s) :
    v.toInteger w ≠ .ok n := by
  cases v with
  | null =>
    rw [toInteger_null, ne_eq, toInteger_string, ← Number.readInteger_eq_some_iff]
    rintro ⟨read, -⟩
    cases read
  | boolean _ | char _ | float _ | double _ | bytes _ =>
    intro read
    cases w <;> cases read
  | string s => exact absurd rfl (noText s)
  | _ => cases noInteger

theorem toInteger_eq_ok_iff : v.toInteger w = .ok n ↔ Counts w v n := by
  constructor
  · intro read
    cases stored : v.integer? with
    | some x =>
      obtain ⟨w', m⟩ := x
      rw [toInteger_of_integer stored] at read
      split at read
      · rename_i noWider
        cases read
        exact .integer stored noWider
      · cases read
    | none =>
      by_cases text : ∃ s, v = string s
      · obtain ⟨s, rfl⟩ := text
        obtain ⟨numeral, fits⟩ := toInteger_string.mp read
        exact .text numeral fits
      · exact absurd read (toInteger_of_other stored (not_exists.mp text))
  · intro counts
    cases counts with
    | integer stored noWider => rw [toInteger_of_integer stored, if_pos noWider]
    | text numeral fits => exact toInteger_string.mpr ⟨numeral, fits⟩

theorem Counts.mono (counts : Counts w v n) (wider : w.bits ≤ wide.bits) : Counts wide v n := by
  cases counts with
  | integer stored noWider => exact .integer stored (Nat.le_trans noWider wider)
  | text numeral fits => exact .text numeral (fits.mono wider)

/-- A value is read as an integer of a width just if it is an integer that is no wider, or the text
of a number that fits, and then as that number; all else is a format error. What is read with one
width is read with every wider one, as the same number. -/
theorem toInteger_exact (v : Value) (w : Width) :
    (∀ n, v.toInteger w = .ok n ↔ Counts w v n) ∧
    ((∀ n, ¬ Counts w v n) → ∃ e, v.toInteger w = .error e ∧ e.kind = .format) ∧
    ∀ wide n, w.bits ≤ wide.bits → v.toInteger w = .ok n → v.toInteger wide = .ok n := by
  refine ⟨fun n => toInteger_eq_ok_iff, ?_, ?_⟩
  · intro none
    cases outcome : v.toInteger w with
    | ok n => exact absurd (toInteger_eq_ok_iff.mp outcome) (none n)
    | error e => exact ⟨e, rfl, toInteger_fails w v e outcome⟩
  · intro wide n wider read
    exact toInteger_eq_ok_iff.mpr ((toInteger_eq_ok_iff.mp read).mono wider)

/-- The least byte is read from its text with every width, but a short number is no byte. -/
theorem toInteger_exact_least :
    (string "-128").toInteger .byte = .ok (-128) ∧ (string "-128").toInteger .long = .ok (-128) ∧
    ∃ e, (short 300).toInteger .byte = .error e ∧ e.kind = .format := by
  have numeral : Number.Numeral "-128".toList (-128) :=
    Number.readInteger_eq_some_iff.mp (by decide)
  have none : ∀ n, ¬ Counts .byte (short 300) n := by
    rintro n ⟨stored, noWider⟩
    cases stored
    exact absurd noWider (by decide)
  have least : (string "-128").toInteger .byte = .ok (-128) :=
    ((toInteger_exact (string "-128") .byte).1 _).mpr (.text numeral (by decide))
  refine ⟨least, ?_, (toInteger_exact (short 300) .byte).2.1 none⟩
  exact (toInteger_exact (string "-128") .byte).2.2 .long _ (by decide) least

end Value

end Courier
