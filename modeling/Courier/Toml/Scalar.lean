import Courier.Json.Parse
import Courier.Settings.Tree

/-!
# TOML scalars

Strings, numbers, truth values and dates. A date is kept as its normalised text.
-/

namespace Courier.Toml

set_option autoImplicit false

open Number (isDigit digitsValue takeSign)

def isForbidden (c : Char) : Bool := (c.toNat < 0x20 && c ≠ '\t') || c.toNat = 0x7F

/-- A line end at the front. -/
def takeNewline : List Char → Option (List Char)
  | '\n' :: rest => some rest
  | '\r' :: '\n' :: rest => some rest
  | _ => none

/-- `n` hexadecimal digits that name a character. -/
def takeCode (n : Nat) (cs : List Char) : Option (Char × List Char) := do
  let digits ← (cs.take n).mapM Url.hexValue
  if digits.length ≠ n then none
  let code := digits.foldl (· * 16 + ·) 0
  if code < 0xD800 || (0xDFFF < code && code < 0x110000) then some (Char.ofNat code, cs.drop n)
  else none

/-- The character of an escape, after its backslash. -/
def takeEscape : List Char → Option (Char × List Char)
  | 'b' :: rest => some ('\x08', rest)
  | 't' :: rest => some ('\t', rest)
  | 'n' :: rest => some ('\n', rest)
  | 'f' :: rest => some ('\x0c', rest)
  | 'r' :: rest => some ('\r', rest)
  | 'e' :: rest => some ('\x1b', rest)
  | '"' :: rest => some ('"', rest)
  | '\\' :: rest => some ('\\', rest)
  | 'x' :: rest => takeCode 2 rest
  | 'u' :: rest => takeCode 4 rest
  | 'U' :: rest => takeCode 8 rest
  | _ => none

/-- The rest of a one-line string with escapes. -/
def basicString : Nat → List Char → List Char → Option (String × List Char)
  | 0, _, _ => none
  | fuel + 1, done, cs =>
    match cs with
    | '"' :: rest => some (String.ofList done.reverse, rest)
    | '\\' :: rest => (takeEscape rest).bind fun (c, rest) => basicString fuel (c :: done) rest
    | c :: rest => if isForbidden c then none else basicString fuel (c :: done) rest
    | [] => none

/-- The rest of a one-line string without escapes. -/
def literalString (cs : List Char) : Option (String × List Char) :=
  let body := cs.takeWhile (· ≠ '\'')
  match cs.dropWhile (· ≠ '\'') with
  | _ :: rest => if body.any isForbidden then none else some (String.ofList body, rest)
  | [] => none

def skipSpace (cs : List Char) : List Char := cs.dropWhile fun c => c = ' ' || c = '\t'

/-- Blanks and line ends. -/
def skipFolded : Nat → List Char → List Char
  | 0, cs => cs
  | fuel + 1, cs =>
    match takeNewline (skipSpace cs) with
    | some rest => skipFolded fuel rest
    | none => skipSpace cs

/-- Blanks and line ends, as a backslash at the end of a line removes them; there has to be a line
end before anything else. -/
def foldLines (cs : List Char) : Option (List Char) :=
  (takeNewline (skipSpace cs)).map fun rest => skipFolded (rest.length + 1) rest

/-- The rest of a string over several lines, which three quotes `q` close; up to two more may stand
before them. Line ends stay as they are. -/
def longString (q : Char) (escapes : Bool) :
    Nat → List Char → List Char → Option (String × List Char)
  | 0, _, _ => none
  | fuel + 1, done, cs =>
    match cs with
    | [] => none
    | c :: rest =>
      if c = q then
        let quotes := cs.takeWhile (· = q)
        let after := cs.dropWhile (· = q)
        if quotes.length < 3 then longString q escapes fuel (quotes ++ done) after
        else if quotes.length ≤ 5 then
          some (String.ofList (quotes.drop 3 ++ done).reverse, after)
        else none
      else if c = '\\' && escapes then
        match takeEscape rest with
        | some (c, rest) => longString q escapes fuel (c :: done) rest
        | none => (foldLines rest).bind (longString q escapes fuel done)
      else match cs with
        | '\r' :: '\n' :: rest => longString q escapes fuel ('\n' :: '\r' :: done) rest
        | _ =>
          if isForbidden c && c ≠ '\n' then none else longString q escapes fuel (c :: done) rest

/-- Digits with single underscores between them, the underscores dropped. -/
def ungroup (p : Char → Bool) (cs : List Char) : Option (List Char) :=
  let groups := cs.splitOn '_'
  if groups.all fun g => !g.isEmpty && g.all p then some groups.flatten else none

def digitIn (base : Nat) (c : Char) : Bool := (Url.hexValue c).any (· < base)

def valueIn (base : Nat) (cs : List Char) : Nat :=
  cs.foldl (fun n c => n * base + (Url.hexValue c).getD 0) 0

/-- Decimal digits without a superfluous zero in front. -/
def wholeDigits (cs : List Char) : Option (List Char) :=
  (ungroup isDigit cs).filter fun ds => ds.length = 1 || ds.head? ≠ some '0'

def readInteger (cs : List Char) : Option Int :=
  match cs with
  | '0' :: 'x' :: rest => (ungroup (digitIn 16) rest).map fun ds => (valueIn 16 ds : Int)
  | '0' :: 'o' :: rest => (ungroup (digitIn 8) rest).map fun ds => (valueIn 8 ds : Int)
  | '0' :: 'b' :: rest => (ungroup (digitIn 2) rest).map fun ds => (valueIn 2 ds : Int)
  | cs =>
    let (negative, rest) := takeSign cs
    (wholeDigits rest).map fun ds =>
      let n : Int := digitsValue ds
      if negative then -n else n

/-- A floating-point number: a special word, or digits with a fraction, an exponent or both. -/
def readFloat (cs : List Char) : Option UInt64 :=
  let (negative, rest) := takeSign cs
  if rest = "inf".toList then some (UInt64.ofNat (Number.double.ofLiteral (.infinite negative)))
  else if rest = "nan".toList then some (UInt64.ofNat (Number.double.ofLiteral (.nan negative)))
  else do
    let isE (c : Char) : Bool := c = 'e' || c = 'E'
    let mantissa := rest.takeWhile (!isE ·)
    let whole ← wholeDigits (mantissa.takeWhile (· ≠ '.'))
    let fraction ← match mantissa.dropWhile (· ≠ '.') with
      | [] => some []
      | _ :: ds => ungroup isDigit ds
    let exponent ← match rest.dropWhile (!isE ·) with
      | [] => some 0
      | _ :: tail =>
        let (down, ds) := takeSign tail
        (ungroup isDigit ds).map fun ds =>
          let n : Int := digitsValue ds
          if down then -n else n
    if fraction.isEmpty && (rest.all (!isE ·)) then none
    let bits := Number.double.ofDecimal negative
      ⟨digitsValue (whole ++ fraction), exponent - fraction.length⟩
    if bits % 9223372036854775808 = Number.double.infinity then none else some (UInt64.ofNat bits)

/-- Two digits that make a number within bounds. -/
def readPair (low high : Nat) : List Char → Option Nat
  | [a, b] =>
    if isDigit a && isDigit b then
      let n := digitsValue [a, b]
      if low ≤ n && n ≤ high then some n else none
    else none
  | _ => none

def daysIn (year month : Nat) : Nat :=
  if month = 2 then
    if year % 4 = 0 && (year % 100 ≠ 0 || year % 400 = 0) then 29 else 28
  else if [4, 6, 9, 11].contains month then 30 else 31

/-- `YYYY-MM-DD` on its own. -/
def isDate (cs : List Char) : Bool :=
  match cs with
  | [y₁, y₂, y₃, y₄, '-', m₁, m₂, '-', d₁, d₂] =>
    [y₁, y₂, y₃, y₄].all isDigit &&
      match readPair 1 12 [m₁, m₂] with
      | some month => (readPair 1 (daysIn (digitsValue [y₁, y₂, y₃, y₄]) month) [d₁, d₂]).isSome
      | none => false
  | _ => false

/-- `SS` with an optional fraction, of which nine places count; one place is always written, and
no trailing zeros after it. -/
def readSeconds (cs : List Char) : Option (List Char) := do
  let _ ← readPair 0 60 (cs.take 2)
  match cs.drop 2 with
  | [] => return cs
  | '.' :: ds =>
    if ds.isEmpty || !ds.all isDigit then none
    let places := ((ds.take 9).reverse.dropWhile (· = '0')).reverse
    return cs.take 2 ++ '.' :: (if places.isEmpty then ['0'] else places)
  | _ => none

/-- `HH:MM`, and seconds if there are any. -/
def readTime (cs : List Char) : Option (List Char) :=
  match cs with
  | h₁ :: h₂ :: ':' :: m₁ :: m₂ :: rest => do
    let _ ← readPair 0 23 [h₁, h₂]
    let _ ← readPair 0 59 [m₁, m₂]
    match rest with
    | [] => return cs
    | ':' :: rest => return cs.take 5 ++ ':' :: (← readSeconds rest)
    | _ => none
  | _ => none

/-- `Z`, or a signed offset in hours and minutes; no offset at all is written with a plus. -/
def readOffset (cs : List Char) : Option (List Char) :=
  match cs with
  | ['Z'] | ['z'] => some ['Z']
  | [sign, h₁, h₂, ':', m₁, m₂] => do
    let hours ← readPair 0 23 [h₁, h₂]
    let minutes ← readPair 0 59 [m₁, m₂]
    if sign = '+' || (sign = '-' && hours + minutes = 0) then return '+' :: cs.drop 1
    if sign = '-' then return cs
    none
  | _ => none

/-- A date, a time, or a date and a time with an optional offset. -/
def readDate (cs : List Char) : Option String :=
  if isDate cs then some (String.ofList cs)
  else if isDate (cs.take 10) then
    match cs.drop 10 with
    | sep :: rest =>
      if sep = 'T' || sep = 't' || sep = ' ' then do
        let isTime (c : Char) : Bool := isDigit c || c = ':' || c = '.'
        let time ← readTime (rest.takeWhile isTime)
        let offset ← match rest.dropWhile isTime with
          | [] => some []
          | tail => readOffset tail
        some (String.ofList (cs.take 10 ++ 'T' :: time ++ offset))
      else none
    | [] => none
  else (readTime cs).map String.ofList

/-- A number, a date or a truth value. -/
def readWord (cs : List Char) : Option Tree :=
  if cs = "true".toList then some (.flag true)
  else if cs = "false".toList then some (.flag false)
  else match readInteger cs with
    | some n =>
      if -9223372036854775808 ≤ n && n ≤ 9223372036854775807 then some (.integer n) else none
    | none =>
      match readFloat cs with
      | some bits => some (.float bits)
      | none => (readDate cs).map .text

def isWordChar (c : Char) : Bool := c.isAlphanum || ['+', '-', '_', '.', ':'].contains c

/-- The word at the front. A time may follow a date after a space. -/
def takeWord (cs : List Char) : List Char × List Char :=
  let word := cs.takeWhile isWordChar
  match cs.dropWhile isWordChar with
  | ' ' :: a :: b :: ':' :: rest =>
    if isDate word && isDigit a && isDigit b then
      let tail := a :: b :: ':' :: rest
      (word ++ ' ' :: tail.takeWhile isWordChar, tail.dropWhile isWordChar)
    else (word, cs.drop word.length)
  | rest => (word, rest)

end Courier.Toml
