/-!
# UTF-8

Strict decoding with the place and extent of the first fault, and lossy decoding that puts
U+FFFD for each faulty stretch.
-/

namespace Courier.Text

set_option autoImplicit false

namespace Utf8

/-- The first fault in a byte sequence: where it starts, and how many bytes are surely wrong;
`none` when the input merely ends inside a sequence. -/
structure Fault where
  index : Nat
  extent : Option Nat
  deriving DecidableEq, Repr

def Fault.message (f : Fault) : String :=
  match f.extent with
  | some n => s!"invalid utf-8 sequence of {n} bytes from index {f.index}"
  | none => s!"incomplete utf-8 byte sequence from index {f.index}"

def encode (s : String) : List UInt8 := s.toList.flatMap String.utf8EncodeChar

def within (lo hi : UInt8) (b : UInt8) : Bool := lo ≤ b && b ≤ hi

/-- The range of the second byte after a leading byte of two, three or four. -/
def secondRange (lead : UInt8) : UInt8 × UInt8 :=
  if lead = 0xE0 then (0xA0, 0xBF)
  else if lead = 0xED then (0x80, 0x9F)
  else if lead = 0xF0 then (0x90, 0xBF)
  else if lead = 0xF4 then (0x80, 0x8F)
  else (0x80, 0xBF)

/-- How many bytes follow a leading byte; `none` when it cannot lead. -/
def trailing (lead : UInt8) : Option Nat :=
  if lead < 0x80 then some 0
  else if within 0xC2 0xDF lead then some 1
  else if within 0xE0 0xEF lead then some 2
  else if within 0xF0 0xF4 lead then some 3
  else none

/-- The payload of the continuation bytes, the first within `range`. A fault counts the bytes
read before it. -/
def continuation (seen payload : Nat) (range : UInt8 × UInt8) :
    Nat → List UInt8 → Except (Option Nat) Nat
  | 0, _ => .ok payload
  | _ + 1, [] => .error none
  | n + 1, b :: rest =>
    if within range.1 range.2 b then
      continuation (seen + 1) (payload * 64 + b.toNat % 64) (0x80, 0xBF) n rest
    else .error (some seen)

/-- The character at the front, and the number of bytes after its first. -/
def decodeFirst (lead : UInt8) (rest : List UInt8) : Except (Option Nat) (Char × Nat) :=
  match trailing lead with
  | none => .error (some 1)
  | some n =>
    let top := if n = 0 then lead.toNat else lead.toNat % Nat.pow 2 (6 - n)
    (continuation 1 top (secondRange lead) n rest).map fun code => (Char.ofNat code, n)

def decodeLoop (index : Nat) (done : List Char) : List UInt8 → Except Fault (List Char)
  | [] => .ok done.reverse
  | lead :: rest =>
    match decodeFirst lead rest with
    | .ok (c, n) => decodeLoop (index + 1 + n) (c :: done) (rest.drop n)
    | .error extent => .error ⟨index, extent⟩
termination_by bytes => bytes.length
decreasing_by simp only [List.length_drop, List.length_cons]; omega

def decode (bytes : List UInt8) : Except Fault String :=
  (decodeLoop 0 [] bytes).map String.ofList

def lossyLoop (done : List Char) : List UInt8 → List Char
  | [] => done.reverse
  | lead :: rest =>
    match decodeFirst lead rest with
    | .ok (c, n) => lossyLoop (c :: done) (rest.drop n)
    | .error (some n) => lossyLoop (Char.ofNat 0xFFFD :: done) (rest.drop (n - 1))
    | .error none => (Char.ofNat 0xFFFD :: done).reverse
termination_by bytes => bytes.length
decreasing_by all_goals simp only [List.length_drop, List.length_cons]; omega

def decodeLossy (bytes : List UInt8) : String := String.ofList (lossyLoop [] bytes)

end Utf8

/-- The text without a byte order mark in front. -/
def dropMark (s : String) : String :=
  match s.toList with
  | c :: rest => if c.toNat = 0xFEFF then String.ofList rest else s
  | [] => s

end Courier.Text
