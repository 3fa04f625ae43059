import Courier.Json.Basic
import Courier.Number.Read

/-!
# Numbers in JSON

A number without fraction and exponent is whole if it fits 64 bits. All others are doubles: the
leading digits that fit 64 bits are scaled by a power of ten, with one rounding for the digits
and one for the scaling.
-/

namespace Courier.Json

set_option autoImplicit false

open Number (isDigit double)

def wordLimit : Nat := 18446744073709551616

/-- The double nearest to `10 ^ k`. -/
def powerOfTen (k : Nat) : Nat := double.round false (Nat.pow 10 k) 1

/-- The rounded product or quotient of two non-negative doubles. -/
def scaleBy (bits power : Nat) (up : Bool) : Nat :=
  match double.decode bits, double.decode power with
  | .finite _ m e, .finite _ m' e' =>
    if up then
      let (num, den) := Number.scaled (m * m') (e + e')
      double.round false num den
    else
      let (num, den) := Number.scaled m (e - e')
      double.round false num (den * m')
  | _, _ => double.infinity

/-- `bits * 10 ^ exponent`, in steps of at most 308 orders; `none` when it is out of range. -/
def scaleTen : Nat → Nat → Int → Option Nat
  | 0, _, _ => some 0
  | fuel + 1, bits, exponent =>
    if exponent.natAbs ≤ 308 then
      let scaled := scaleBy bits (powerOfTen exponent.natAbs) (0 ≤ exponent)
      if scaled = double.infinity then none else some scaled
    else if bits = 0 then some 0
    else if 0 ≤ exponent then none
    else scaleTen fuel (scaleBy bits (powerOfTen 308) false) (exponent + 308)

def ofParts (negative : Bool) (significand : Nat) (exponent : Int) : Option Json :=
  (scaleTen 4 (double.round false significand 1) exponent).map fun bits =>
    .float (UInt64.ofNat (double.signBit negative + bits))

/-- Takes digits while the significand fits a word: the significand and the digits left over. -/
def takeWord (significand : Nat) : List Char → Nat × List Char
  | [] => (significand, [])
  | c :: rest =>
    let next := significand * 10 + (c.toNat - '0'.toNat)
    if next < wordLimit then takeWord next rest else (significand, c :: rest)

/-- A number split into its written parts. -/
structure NumberText where
  negative : Bool
  whole : List Char
  fraction : Option (List Char)
  exponent : Option Int

/-- An exponent whose digits pass 31 bits counts as a zero or as out of range. -/
def exponentLimit : Nat := 2147483648

def NumberText.value (t : NumberText) : Option Json :=
  let (head, spill) := takeWord 0 t.whole
  match t.fraction, t.exponent, spill with
  | none, none, [] =>
    if !t.negative then some (.integer head)
    else if head = 0 || 9223372036854775808 < head then
      some (.float (UInt64.ofNat (double.round true head 1)))
    else some (.integer (-head))
  | _, _, _ =>
    let digits := t.fraction.getD []
    let (significand, left) := takeWord head digits
    let places : Int := spill.length - (digits.length - left.length : Nat)
    let exponent := t.exponent.getD 0
    if exponentLimit ≤ exponent.natAbs then
      if significand ≠ 0 && 0 ≤ exponent then none
      else some (.float (UInt64.ofNat (double.signBit t.negative)))
    else ofParts t.negative significand (places + exponent)

/-- Digits, of which there must be one. -/
def takeDigits (cs : List Char) : Option (List Char × List Char) :=
  let digits := cs.takeWhile isDigit
  if digits.isEmpty then none else some (digits, cs.dropWhile isDigit)

def readExponent (cs : List Char) : Option (Option Int × List Char) :=
  match cs with
  | c :: rest =>
    if c = 'e' || c = 'E' then
      let (negative, rest) := Number.takeSign rest
      (takeDigits rest).map fun (digits, rest) =>
        let n : Int := Number.digitsValue digits
        (some (if negative then -n else n), rest)
    else some (none, cs)
  | [] => some (none, [])

/-- Reads a number at the front. A leading zero stands alone. -/
def readNumber (cs : List Char) : Option (Json × List Char) := do
  let (negative, cs) := match cs with
    | '-' :: rest => (true, rest)
    | cs => (false, cs)
  let (whole, cs) ← takeDigits cs
  if whole.head? = some '0' && whole.length ≠ 1 then none
  let (fraction, cs) ← match cs with
    | '.' :: rest => (takeDigits rest).map fun (digits, rest) => (some digits, rest)
    | cs => some (none, cs)
  let (exponent, cs) ← readExponent cs
  let v ← NumberText.value ⟨negative, whole, fraction, exponent⟩
  return (v, cs)

end Courier.Json
