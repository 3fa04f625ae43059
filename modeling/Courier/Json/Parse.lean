import Courier.Json.Number
import Courier.Text.Utf8
import Courier.Url.Host

/-!
# Reading JSON

A strict reader. Arrays and objects nest at most 127 deep.
-/

namespace Courier.Json

set_option autoImplicit false

def isBlank (c : Char) : Bool := c = ' ' || c = '\n' || c = '\t' || c = '\r'

def skipBlanks (cs : List Char) : List Char := cs.dropWhile isBlank

/-- Four hexadecimal digits. -/
def readUnit : List Char → Option (Nat × List Char)
  | a :: b :: c :: d :: rest => do
    let a ← Url.hexValue a
    let b ← Url.hexValue b
    let c ← Url.hexValue c
    let d ← Url.hexValue d
    return (((a * 16 + b) * 16 + c) * 16 + d, rest)
  | _ => none

/-- The character of an escape that starts with `\u`; surrogates must come in pairs. -/
def readEscapedUnit (cs : List Char) : Option (Char × List Char) := do
  let (unit, rest) ← readUnit cs
  if 0xDC00 ≤ unit && unit ≤ 0xDFFF then none
  else if 0xD800 ≤ unit && unit ≤ 0xDBFF then
    match rest with
    | '\\' :: 'u' :: rest =>
      let (low, rest) ← readUnit rest
      if 0xDC00 ≤ low && low ≤ 0xDFFF then
        return (Char.ofNat (0x10000 + (unit - 0xD800) * 0x400 + (low - 0xDC00)), rest)
      else none
    | _ => none
  else return (Char.ofNat unit, rest)

/-- The character of a one-letter escape. -/
def shortEscape : Char → Option Char
  | '"' => some '"'
  | '\\' => some '\\'
  | '/' => some '/'
  | 'b' => some '\x08'
  | 'f' => some '\x0c'
  | 'n' => some '\n'
  | 'r' => some '\r'
  | 't' => some '\t'
  | _ => none

/-- Reads the rest of a string whose opening quote has been read. -/
def readString : Nat → List Char → List Char → Option (String × List Char)
  | 0, _, _ => none
  | _ + 1, _, [] => none
  | fuel + 1, done, c :: rest =>
    if c = '"' then some (String.ofList done.reverse, rest)
    else if c = '\\' then
      match rest with
      | 'u' :: rest =>
        match readEscapedUnit rest with
        | some (c, rest) => readString fuel (c :: done) rest
        | none => none
      | e :: rest =>
        match shortEscape e with
        | some c => readString fuel (c :: done) rest
        | none => none
      | [] => none
    else if c.toNat < 0x20 then none
    else readString fuel (c :: done) rest

/-- Removes a fixed word from the front. -/
def expect (word : List Char) (v : Json) (cs : List Char) : Option (Json × List Char) :=
  if word.isPrefixOf cs then some (v, cs.drop word.length) else none

mutual

/-- Reads a value after blanks. `depth` counts the levels still allowed, one more than may open. -/
def readValue : Nat → Nat → List Char → Option (Json × List Char)
  | 0, _, _ => none
  | fuel + 1, depth, cs =>
    match skipBlanks cs with
    | '"' :: rest => (readString (rest.length + 1) [] rest).map fun (s, rest) => (.string s, rest)
    | '[' :: rest =>
      if depth ≤ 1 then none
      else match skipBlanks rest with
        | ']' :: rest => some (.array [], rest)
        | rest => readItems fuel (depth - 1) [] rest
    | '\x7b' :: rest =>
      if depth ≤ 1 then none
      else match skipBlanks rest with
        | '\x7d' :: rest => some (.object [], rest)
        | rest => readMembers fuel (depth - 1) [] rest
    | 'n' :: rest => expect "ull".toList .null rest
    | 't' :: rest => expect "rue".toList (.bool true) rest
    | 'f' :: rest => expect "alse".toList (.bool false) rest
    | cs => readNumber cs

def readItems : Nat → Nat → List Json → List Char → Option (Json × List Char)
  | 0, _, _, _ => none
  | fuel + 1, depth, done, cs =>
    match readValue fuel depth cs with
    | none => none
    | some (v, rest) =>
      match skipBlanks rest with
      | ']' :: rest => some (.array (v :: done).reverse, rest)
      | ',' :: rest => readItems fuel depth (v :: done) rest
      | _ => none

def readMembers : Nat → Nat → List (String × Json) → List Char → Option (Json × List Char)
  | 0, _, _, _ => none
  | fuel + 1, depth, done, cs =>
    match skipBlanks cs with
    | '"' :: rest =>
      match readString (rest.length + 1) [] rest with
      | none => none
      | some (name, rest) =>
        match skipBlanks rest with
        | ':' :: rest =>
          match readValue fuel depth rest with
          | none => none
          | some (v, rest) =>
            match skipBlanks rest with
            | '\x7d' :: rest => some (.object ((name, v) :: done).reverse, rest)
            | ',' :: rest => readMembers fuel depth ((name, v) :: done) rest
            | _ => none
        | _ => none
    | _ => none

end

/-- Reads a whole text as one document, with the members of objects as they are written. -/
def read? (s : String) : Option Json :=
  match readValue (s.length + 1) 128 s.toList with
  | some (v, rest) => if (skipBlanks rest).isEmpty then some v else none
  | none => none

/-- Reads a whole text as a document in normal form. -/
def parse? (s : String) : Option Json := (read? s).map normal

def ofBytes? (bytes : List UInt8) : Option Json :=
  match Text.Utf8.decode bytes with
  | .ok s => read? s
  | .error _ => none

end Courier.Json
