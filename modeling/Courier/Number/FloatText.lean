import Courier.Number.Shortest

/-!
# Text of floating-point numbers

All texts carry the digits of the shortest decimal. A `Layout` says where positional notation
ends, whether whole numbers keep a fraction, whether exponents carry a plus sign, and which way
ties between digits go.
-/

namespace Courier.Number

set_option autoImplicit false

/-- `positional k` tells whether a number of order `10 ^ k` is written without an exponent. -/
structure Layout where
  positional : Int → Bool
  wholePoint : Bool
  plusSign : Bool
  tie : Tie

/-- Orders from -4 to 15 are positional, and whole numbers end in `.0`. -/
def Layout.scalar : Layout := ⟨fun k => -4 ≤ k && k ≤ 15, true, false, .up⟩

/-- Orders from -5 to 15 are positional, whole numbers end in `.0`, and every exponent has its
sign. -/
def Layout.document : Layout := ⟨fun k => -5 ≤ k && k ≤ 15, true, true, .even⟩

/-- No exponent at all, and no point after whole numbers. -/
def Layout.plain : Layout := ⟨fun _ => true, false, false, .up⟩

def zeros (n : Nat) : String := String.ofList (List.replicate n '0')

def Layout.render (l : Layout) (d : Decimal) : String :=
  let digits := Nat.toDigits 10 d.digits
  let order : Int := digits.length - 1 + d.exponent
  if l.positional order then
    if 0 ≤ d.exponent then
      String.ofList digits ++ zeros d.exponent.toNat ++ (if l.wholePoint then ".0" else "")
    else if 0 ≤ order then
      String.ofList (digits.take (order.toNat + 1)) ++ "." ++
        String.ofList (digits.drop (order.toNat + 1))
    else "0." ++ zeros (-order - 1).toNat ++ String.ofList digits
  else
    let tail := digits.drop 1
    String.ofList (digits.take 1) ++ (if tail.isEmpty then "" else "." ++ String.ofList tail) ++
      "e" ++ (if l.plusSign && 0 ≤ order then "+" else "") ++ toString order

def Layout.text (l : Layout) (f : Format) (bits : Nat) : String :=
  match f.decode bits with
  | .nan => "NaN"
  | .infinite negative => if negative then "-inf" else "inf"
  | .finite negative m e =>
    let body :=
      if m = 0 then if l.wholePoint then "0.0" else "0"
      else l.render (shortest f l.tie m e)
    if negative then "-" ++ body else body

end Courier.Number
