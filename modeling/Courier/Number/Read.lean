import Courier.Number.FloatText

/-!
# Reading numbers

The accepted spellings of integers and of floating-point numbers, and the exact value of each.
-/

namespace Courier.Number

set_option autoImplicit false

def isDigit (c : Char) : Bool := '0' ≤ c && c ≤ '9'

def digitsValue (cs : List Char) : Nat :=
  cs.foldl (fun n c => n * 10 + (c.toNat - '0'.toNat)) 0

/-- An optional sign and the rest. -/
def takeSign : List Char → Bool × List Char
  | '-' :: rest => (true, rest)
  | '+' :: rest => (false, rest)
  | cs => (false, cs)

/-- An optional sign followed by one or more decimal digits. -/
def readInteger (s : String) : Option Int :=
  let (negative, digits) := takeSign s.toList
  if digits.isEmpty || !digits.all isDigit then none
  else
    let n : Int := digitsValue digits
    some (if negative then -n else n)

def readBounded (s : String) (low high : Int) : Option Int :=
  (readInteger s).filter fun n => low ≤ n && n ≤ high

/-- A spelled number: a special value, or `±digits * 10 ^ exponent`. -/
inductive Literal
  | nan (negative : Bool)
  | infinite (negative : Bool)
  | decimal (negative : Bool) (value : Decimal)
  deriving DecidableEq, Repr

/-- The exponent part: nothing, or `e` with an optional sign and at least one digit. -/
def readExponent : List Char → Option Int
  | [] => some 0
  | c :: rest =>
    if c = 'e' || c = 'E' then
      let (negative, digits) := takeSign rest
      if digits.isEmpty || !digits.all isDigit then none
      else
        let n : Int := digitsValue digits
        some (if negative then -n else n)
    else none

/-- Digits with at most one point among them, at least one digit in all, then an exponent. -/
def readDecimal (cs : List Char) : Option Decimal :=
  let whole := cs.takeWhile isDigit
  let rest := cs.dropWhile isDigit
  let (fraction, rest) :=
    match rest with
    | '.' :: r => (r.takeWhile isDigit, r.dropWhile isDigit)
    | r => ([], r)
  if whole.isEmpty && fraction.isEmpty then none
  else (readExponent rest).map fun e => ⟨digitsValue (whole ++ fraction), e - fraction.length⟩

def readLiteral (s : String) : Option Literal :=
  let (negative, cs) := takeSign s.toList
  let word := String.ofList (cs.map Char.toLower)
  if word = "nan" then some (.nan negative)
  else if word = "inf" || word = "infinity" then some (.infinite negative)
  else (readDecimal cs).map (.decimal negative)

/-- The pattern nearest to a decimal. Far outside the range the power of ten is not computed. -/
def Format.ofDecimal (f : Format) (negative : Bool) (d : Decimal) : Nat :=
  let order : Int := digitCount d.digits + d.exponent
  if d.digits = 0 || order < -400 then f.signBit negative
  else if 400 < order then f.signBit negative + f.infinity
  else
    let (p, q) := powTen d.exponent
    f.round negative (d.digits * p) q

def Format.ofLiteral (f : Format) : Literal → Nat
  | .nan negative => f.quietNan negative
  | .infinite negative => f.signBit negative + f.infinity
  | .decimal negative d => f.ofDecimal negative d

def readSingle (s : String) : Option UInt32 :=
  (readLiteral s).map fun l => UInt32.ofNat (single.ofLiteral l)

def readDouble (s : String) : Option UInt64 :=
  (readLiteral s).map fun l => UInt64.ofNat (double.ofLiteral l)

end Courier.Number
