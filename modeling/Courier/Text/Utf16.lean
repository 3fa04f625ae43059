/-!
# UTF-16

Strings as 16-bit units. A character above U+FFFF takes a high and a low surrogate; a sequence of
units is text when its surrogates pair up.
-/

namespace Courier.Text.Utf16

set_option autoImplicit false

def isHigh (u : UInt16) : Bool := 0xD800 ≤ u && u ≤ 0xDBFF

def isLow (u : UInt16) : Bool := 0xDC00 ≤ u && u ≤ 0xDFFF

def encodeChar (c : Char) : List UInt16 :=
  if c.toNat < 0x10000 then [UInt16.ofNat c.toNat]
  else
    let v := c.toNat - 0x10000
    [UInt16.ofNat (0xD800 + v / 0x400), UInt16.ofNat (0xDC00 + v % 0x400)]

def encode (s : String) : List UInt16 := s.toList.flatMap encodeChar

/-- The character of a surrogate pair. -/
def joinPair (high low : UInt16) : Char :=
  Char.ofNat (0x10000 + (high.toNat - 0xD800) * 0x400 + (low.toNat - 0xDC00))

def decodeLoop (done : List Char) : List UInt16 → Option (List Char)
  | [] => some done.reverse
  | u :: rest =>
    if isHigh u then
      match rest with
      | low :: rest => if isLow low then decodeLoop (joinPair u low :: done) rest else none
      | [] => none
    else if isLow u then none
    else decodeLoop (Char.ofNat u.toNat :: done) rest

def decode? (units : List UInt16) : Option String := (decodeLoop [] units).map String.ofList

end Courier.Text.Utf16
