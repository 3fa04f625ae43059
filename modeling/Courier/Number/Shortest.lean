import Courier.Number.Binary

/-!
# Shortest decimal

The decimal with the fewest digits that reads back as a given binary number. Among those of
equal length the nearest is taken.
-/

namespace Courier.Number

set_option autoImplicit false

/-- Which of two equally near decimals is taken. -/
inductive Tie
  | up | even
  deriving DecidableEq, Repr

/-- Tells whether the tie between `n` and `n + 1` goes to the latter. -/
def Tie.raises (t : Tie) (n : Nat) : Bool := t = .up || n % 2 = 1

/-- The decimal `digits * 10 ^ exponent`. -/
structure Decimal where
  digits : Nat
  exponent : Int
  deriving DecidableEq, Repr

def digitCount (n : Nat) : Nat := (Nat.toDigits 10 n).length

def powTen (e : Int) : Nat × Nat :=
  if 0 ≤ e then (Nat.pow 10 e.toNat, 1) else (1, Nat.pow 10 (-e).toNat)

/-- The exponent `k` with `10 ^ k ≤ num / den < 10 ^ (k + 1)`, for positive arguments. -/
def decimalOrder (num den : Nat) : Int :=
  if den ≤ num then digitCount (num / den) - 1
  else -(digitCount ((den + num - 1) / num - 1) : Int)

/-- Drops trailing zeros of the digits. -/
def stripZeros (fuel : Nat) (d : Decimal) : Decimal :=
  match fuel with
  | 0 => d
  | fuel + 1 =>
    if d.digits ≠ 0 && d.digits % 10 = 0 then stripZeros fuel ⟨d.digits / 10, d.exponent + 1⟩ else d

/-- The numbers that round to one pattern, as an interval of `num / den` with the pattern's own
value inside; `closed` tells whether the ends round to it too. -/
structure Interval where
  low : Nat
  value : Nat
  high : Nat
  den : Nat
  closed : Bool

/-- Everything is counted in quarters of the last place. -/
def interval (f : Format) (m : Nat) (e : Int) : Interval :=
  let (unit, den) := scaled 1 (e - 2)
  let gap := if m = Nat.pow 2 f.fraction && f.least < e then 1 else 2
  ⟨(4 * m - gap) * unit, 4 * m * unit, (4 * m + 2) * unit, den, m % 2 = 0⟩

def Interval.holds (i : Interval) (num den : Nat) : Bool :=
  if i.closed then i.low * den ≤ num * i.den && num * i.den ≤ i.high * den
  else i.low * den < num * i.den && num * i.den < i.high * den

/-- The grid point of step `10 ^ scale` that stands for the interval, if one lies in it. -/
def Interval.onGrid (i : Interval) (tie : Tie) (scale : Int) : Option Decimal :=
  let (p, q) := powTen scale
  let below := i.value * q / (i.den * p)
  let lower := i.holds (below * p) q
  let upper := i.holds ((below + 1) * p) q
  let doubled := i.value * q * 2
  let middle := (2 * below + 1) * p * i.den
  if upper && (!lower || middle < doubled || (doubled = middle && tie.raises below)) then
    some ⟨below + 1, scale⟩
  else if lower then some ⟨below, scale⟩
  else none

/-- The shortest decimal of the positive number `m * 2 ^ e`. Seventeen digits always suffice. -/
def shortest (f : Format) (tie : Tie) (m : Nat) (e : Int) : Decimal :=
  let i := interval f m e
  let order := decimalOrder i.value i.den
  let found := (List.range 17).findSome? fun (n : Nat) => i.onGrid tie (order - n)
  stripZeros 20 (found.getD ⟨m, e⟩)

end Courier.Number
