import Courier.Settings.Reading
import Courier.Text.Lowercase

/-!
# Configuration trees

What the sources of a configuration are merged into. Scalars convert into each other where that
makes sense: a text that spells a number is that number, a number is a text.
-/

namespace Courier

set_option autoImplicit false

inductive Tree
  | absent
  | flag (v : Bool)
  | integer (n : Int)
  | float (bits : UInt64)
  | text (s : String)
  | list (items : List Tree)
  | table (entries : List (String × Tree))
  deriving Inhabited

namespace Tree

def entriesOf : Tree → List (String × Tree)
  | table entries => entries
  | _ => []

def lookup (name : String) (entries : List (String × Tree)) : Tree :=
  ((entries.find? (·.1 = name)).map Prod.snd).getD absent

/-- Replaces the entry of that name, or appends one. -/
def put (name : String) (v : Tree) : List (String × Tree) → List (String × Tree)
  | [] => [(name, v)]
  | (k, w) :: rest => if k = name then (k, v) :: rest else (k, w) :: put name v rest

mutual

/-- Lays the second tree over the first. Tables are merged name by name; anything else replaces
what was there. -/
def layer (old : Tree) : Tree → Tree
  | table entries => table (layerEntries old.entriesOf entries)
  | v => v

def layerEntries (old : List (String × Tree)) : List (String × Tree) → List (String × Tree)
  | [] => old
  | (k, v) :: rest => layerEntries (put k ((lookup k old).layer v) old) rest

end

/-- A step from a tree to a part of it: into a table, or into a list by position. Negative
positions count from the end. -/
inductive Step
  | key (name : String)
  | index (i : Int)
  deriving DecidableEq, Repr

def itemsOf : Tree → List Tree
  | list items => items
  | _ => []

/-- The list made long enough for a position, at whichever end it lies outside, and the position
counted from the start. -/
def reach (i : Int) (items : List Tree) : List Tree × Nat :=
  if 0 ≤ i then (items ++ List.replicate (i.toNat + 1 - items.length) absent, i.toNat)
  else
    let back := i.natAbs
    (List.replicate (back - items.length) absent ++ items, items.length - back)

/-- Lays `v` over what stands at a path, making tables and lists on the way. -/
def layerAt (v : Tree) : List Step → Tree → Tree
  | [], old => old.layer v
  | .key k :: path, old =>
    let entries := old.entriesOf
    table (put k (layerAt v path (lookup k entries)) entries)
  | .index i :: path, old =>
    let (items, n) := reach i old.itemsOf
    list (items.set n (layerAt v path (items.getD n absent)))

def isPathChar (c : Char) : Bool := c.isAlphanum || c = '_' || c = '-'

def isPathBlank (c : Char) : Bool := c = ' ' || c = '\t'

/-- A position between brackets, after the opening one: blanks, digits with an optional minus,
and blanks. -/
def takeIndex (cs : List Char) : Option (Int × List Char) :=
  let cs := cs.dropWhile isPathBlank
  let (negative, cs) := match cs with
    | '-' :: rest => (true, rest)
    | cs => (false, cs)
  let digits := cs.takeWhile Number.isDigit
  let n : Int := Number.digitsValue digits
  let i := if negative then -n else n
  match (cs.dropWhile Number.isDigit).dropWhile isPathBlank with
  | ']' :: rest =>
    if digits.isEmpty || i < -9223372036854775808 || 9223372036854775807 < i then none
    else some (i, rest)
  | _ => none

/-- The steps after the first one, each a dot with a name or a position in brackets. -/
def takeSteps : Nat → List Char → Option (List Step)
  | 0, _ => none
  | _ + 1, [] => some []
  | fuel + 1, '.' :: rest =>
    let name := rest.takeWhile isPathChar
    if name.isEmpty then none
    else (takeSteps fuel (rest.dropWhile isPathChar)).map (.key (String.ofList name) :: ·)
  | fuel + 1, '[' :: rest =>
    (takeIndex rest).bind fun (i, rest) => (takeSteps fuel rest).map (.index i :: ·)
  | _ + 1, _ :: _ => none

/-- The path that a name spells; a name that spells none is a path of one step. -/
def pathOf (name : String) : List Step :=
  let cs := name.toList
  let root := cs.takeWhile isPathChar
  let steps := if root.isEmpty then none else takeSteps (cs.length + 1) (cs.dropWhile isPathChar)
  match steps with
  | some steps => .key (String.ofList root) :: steps
  | none => [.key name]

/-- Lays the entries of a source over a tree. -/
def overlay (old : Tree) (entries : List (String × Tree)) : Tree :=
  entries.foldl (fun t e => layerAt e.2 (pathOf e.1) t) old

def asText : Tree → Option String
  | text s => some s
  | flag v => some (if v then "true" else "false")
  | integer n => some (toString n)
  | float bits => some (Number.Layout.plain.text Number.double bits.toNat)
  | _ => none

def asFlag : Tree → Option Bool
  | flag v => some v
  | integer n => some (n ≠ 0)
  | float bits =>
    match Number.double.decode bits.toNat with
    | .finite _ m _ => some (m ≠ 0)
    | _ => some true
  | text s =>
    let word := Text.lowercase s
    if ["1", "true", "on", "yes"].contains word then some true
    else if ["0", "false", "off", "no"].contains word then some false
    else none
  | _ => none

/-- The nearest whole number, a half going away from zero, kept within 64 bits. -/
def roundWord (bits : UInt64) : Int :=
  match Number.double.decode bits.toNat with
  | .nan => 0
  | .infinite negative => if negative then -9223372036854775808 else 9223372036854775807
  | .finite negative m e =>
    let (num, den) := Number.scaled m e
    let n : Int := ((2 * num + den) / (2 * den) : Nat)
    if negative then max (-9223372036854775808) (-n) else min 9223372036854775807 n

def asWord : Tree → Option Int
  | integer n => some n
  | flag v => some v.toInt
  | float bits => some (roundWord bits)
  | text s =>
    let word := Text.lowercase s
    if ["true", "on", "yes"].contains word then some 1
    else if ["false", "off", "no"].contains word then some 0
    else Number.readBounded s (-9223372036854775808) 9223372036854775807
  | _ => none

def shape : Shape Tree where
  isNull v := match v with
    | absent => true
    | _ => false
  text := asText
  flag := asFlag
  integer low high v := (asWord v).filter fun n => low ≤ n && n ≤ high
  fields names v := match v with
    | table entries => some entries
    | list items => if names.length ≤ items.length then some (names.zip items) else none
    | _ => none

mutual

/-- A document as a tree. -/
def ofJson : Json → Tree
  | .null => absent
  | .bool v => flag v
  | .integer n => integer n
  | .float bits => float bits
  | .string s => text s
  | .array items => list (ofItems items)
  | .object members => table (ofMembers members)

def ofItems : List Json → List Tree
  | [] => []
  | v :: rest => ofJson v :: ofItems rest

def ofMembers : List (String × Json) → List (String × Tree)
  | [] => []
  | (k, v) :: rest => (k, ofJson v) :: ofMembers rest

end

end Tree

end Courier
