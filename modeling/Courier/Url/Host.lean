import Courier.Text.Quoted
import Courier.Text.Utf8

/-!
# Hosts

The host of a URL with a scheme of no special meaning: an opaque name, percent-encoded where
needed, or an IPv6 address in brackets.
-/

namespace Courier.Url

set_option autoImplicit false

inductive Fault
  | emptyHost | invalidPort | invalidIpv6Address | invalidDomainCharacter
  deriving DecidableEq, Repr

def Fault.message : Fault → String
  | .emptyHost => "empty host"
  | .invalidPort => "invalid port number"
  | .invalidIpv6Address => "invalid IPv6 address"
  | .invalidDomainCharacter => "invalid domain character"

def hexPair (b : UInt8) : String :=
  let digits := Nat.toDigits 16 b.toNat
  String.ofList ((List.replicate (2 - digits.length) '0' ++ digits).map Char.toUpper)

def isControl (c : Char) : Bool := c.toNat < 0x20 || c.toNat = 0x7F

/-- Writes controls, characters outside ASCII and those of `extra` as percent-encoded UTF-8. -/
def percentEncode (extra : List Char) (cs : List Char) : String :=
  String.join (cs.map fun c =>
    if isControl c || 0x80 ≤ c.toNat || extra.contains c then
      String.join ((String.utf8EncodeChar c).map fun b => "%" ++ hexPair b)
    else c.toString)

inductive Host
  | name (text : String)
  | ipv6 (pieces : List Nat)
  deriving DecidableEq, Repr

def hexValue (c : Char) : Option Nat :=
  if '0' ≤ c && c ≤ '9' then some (c.toNat - '0'.toNat)
  else if 'a' ≤ c && c ≤ 'f' then some (c.toNat - 'a'.toNat + 10)
  else if 'A' ≤ c && c ≤ 'F' then some (c.toNat - 'A'.toNat + 10)
  else none

/-- Up to `n` hexadecimal digits: their value and what follows. -/
def takeHex : Nat → Nat → List Char → Nat × List Char
  | 0, value, cs => (value, cs)
  | _ + 1, value, [] => (value, [])
  | n + 1, value, c :: rest =>
    match hexValue c with
    | some d => takeHex n (value * 16 + d) rest
    | none => (value, c :: rest)

/-- A decimal number of at most 255 without leading zeros. -/
def readOctet (digits : List Char) : Option Nat :=
  if digits.isEmpty || !digits.all Char.isDigit || (digits.head? = some '0' && digits.length ≠ 1) ||
      3 < digits.length then none
  else
    let n := digits.foldl (fun n c => n * 10 + (c.toNat - '0'.toNat)) 0
    if 255 < n then none else some n

/-- The dotted tail of an address, as two pieces. -/
def readDotted (cs : List Char) : Option (List Nat) :=
  match (cs.splitOn '.').mapM readOctet with
  | some [a, b, c, d] => some [a * 256 + b, c * 256 + d]
  | _ => none

/-- Spreads the pieces after position `gap` to the end of the eight, with zeros before them. -/
def spread (pieces : List Nat) : Option Nat → Option (List Nat)
  | some gap => some (pieces.take gap ++ List.replicate (8 - pieces.length) 0 ++ pieces.drop gap)
  | none => if pieces.length = 8 then some pieces else none

/-- Reads pieces after `pieces`; `gap` is the position of the `::` met so far. Each round takes at
least one character. -/
def readPieces (pieces : List Nat) (gap : Option Nat) : Nat → List Char → Option (List Nat)
  | _, [] => spread pieces gap
  | 0, _ => none
  | fuel + 1, c :: rest =>
    if pieces.length = 8 then none
    else if c = ':' then
      if gap.isSome then none else readPieces (pieces ++ [0]) (some (pieces.length + 1)) fuel rest
    else
      match takeHex 4 0 (c :: rest) with
      | (value, []) => spread (pieces ++ [value]) gap
      | (value, d :: tail) =>
        if d = '.' then
          if c = '.' || 6 < pieces.length then none
          else (readDotted (c :: rest)).bind fun dotted => spread (pieces ++ dotted) gap
        else if d = ':' && !tail.isEmpty then readPieces (pieces ++ [value]) gap fuel tail
        else none

def readIpv6 (cs : List Char) : Option (List Nat) :=
  match cs with
  | ':' :: ':' :: rest => readPieces [0] (some 1) rest.length rest
  | ':' :: _ => none
  | [] | [_] => none
  | cs => readPieces [] none cs.length cs

/-- Length of the run of zeros at the front. -/
def zeroRun (pieces : List Nat) : Nat := (pieces.takeWhile (· == 0)).length

/-- Start and length of the first longest run of zeros. -/
def longestZeroRun (pieces : List Nat) : Nat × Nat :=
  (List.range pieces.length).foldl (fun best i =>
    let n := zeroRun (pieces.drop i)
    if best.2 < n then (i, n) else best) (0, 0)

namespace Host

/-- An address is shown with its longest run of two or more zeros left out. -/
def text : Host → String
  | name s => s
  | ipv6 pieces =>
    let join (ps : List Nat) := ":".intercalate (ps.map Text.hexDigits)
    let (start, n) := longestZeroRun pieces
    if n < 2 then "[" ++ join pieces ++ "]"
    else "[" ++ join (pieces.take start) ++ "::" ++ join (pieces.drop (start + n)) ++ "]"

def forbidden : List Char :=
  ['\x00', '\t', '\n', '\r', ' ', '#', '/', ':', '<', '>', '?', '@', '[', '\\', ']', '^', '|']

/-- Reads a host; the empty one is no host at all. -/
def parse (cs : List Char) : Except Fault (Option Host) :=
  match cs with
  | [] => .ok none
  | '[' :: rest =>
    if rest.getLast? = some ']' then
      match readIpv6 rest.dropLast with
      | some pieces => .ok (some (ipv6 pieces))
      | none => .error .invalidIpv6Address
    else .error .invalidIpv6Address
  | cs =>
    if cs.any forbidden.contains then .error .invalidDomainCharacter
    else .ok (some (name (percentEncode [] cs)))

end Host

end Courier.Url
