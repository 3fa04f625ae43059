/-!
# Binary floating point as exact numbers

A number of a binary interchange format is a bit pattern. `decode` gives its exact meaning and
`round` the pattern nearest to a quotient, ties going to the even pattern.
-/

namespace Courier.Number

set_option autoImplicit false

/-- Width of the stored fraction and of the exponent field. -/
structure Format where
  fraction : Nat
  exponent : Nat
  deriving DecidableEq, Repr

def single : Format := ⟨23, 8⟩

def double : Format := ⟨52, 11⟩

/-- What a bit pattern stands for; a finite one is `significand * 2 ^ exponent`. -/
inductive Datum
  | nan
  | infinite (negative : Bool)
  | finite (negative : Bool) (significand : Nat) (exponent : Int)
  deriving DecidableEq, Repr

namespace Format

/-- The exponent of the last place of the smallest numbers. -/
def least (f : Format) : Int := 2 - (Nat.pow 2 (f.exponent - 1) : Nat) - f.fraction

def infinity (f : Format) : Nat := (Nat.pow 2 f.exponent - 1) * Nat.pow 2 f.fraction

def signBit (f : Format) (negative : Bool) : Nat :=
  if negative then Nat.pow 2 (f.fraction + f.exponent) else 0

def quietNan (f : Format) (negative : Bool) : Nat :=
  f.signBit negative + f.infinity + Nat.pow 2 (f.fraction - 1)

def decode (f : Format) (bits : Nat) : Datum :=
  let negative := bits / Nat.pow 2 (f.fraction + f.exponent) % 2 = 1
  let field := bits / Nat.pow 2 f.fraction % Nat.pow 2 f.exponent
  let low := bits % Nat.pow 2 f.fraction
  if field = Nat.pow 2 f.exponent - 1 then
    if low = 0 then .infinite negative else .nan
  else if field = 0 then .finite negative low f.least
  else .finite negative (Nat.pow 2 f.fraction + low) (f.least + field - 1)

end Format

/-- `m * 2 ^ e` as a numerator and a denominator. -/
def scaled (m : Nat) (e : Int) : Nat × Nat :=
  if 0 ≤ e then (m * Nat.pow 2 e.toNat, 1) else (m, Nat.pow 2 (-e).toNat)

/-- Nearest whole number to `num / den`, a tie going to the even one. -/
def roundEven (num den : Nat) : Nat :=
  let q := num / den
  let r := num % den
  if 2 * r < den then q
  else if den < 2 * r then q + 1
  else q + q % 2

/-- The exponent `k` with `2 ^ k ≤ num / den < 2 ^ (k + 1)`, for positive arguments. -/
def binaryOrder (num den : Nat) : Int :=
  let k : Int := (num.log2 : Int) - den.log2
  let (a, b) := scaled den k
  if num * b < a then k - 1 else k

namespace Format

/-- The pattern nearest to `num / den`; past the largest number it is infinity. -/
def round (f : Format) (negative : Bool) (num den : Nat) : Nat :=
  if num = 0 then f.signBit negative
  else
    let e := max f.least (binaryOrder num den - f.fraction)
    let (a, b) := scaled den e
    let magnitude := (e - f.least).toNat * Nat.pow 2 f.fraction + roundEven (num * b) a
    f.signBit negative + min magnitude f.infinity

def ofDatum (f : Format) : Datum → Nat
  | .nan => f.quietNan false
  | .infinite negative => f.signBit negative + f.infinity
  | .finite negative m e =>
    let (num, den) := scaled m e
    f.round negative num den

end Format

/-- A single-precision pattern as the double of the same value. -/
def widen (bits : UInt32) : UInt64 :=
  UInt64.ofNat (double.ofDatum (single.decode bits.toNat))

end Courier.Number
