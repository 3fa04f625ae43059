import Courier.Number.FloatText
import Courier.Text.Quoted

/-!
# JSON documents

Whole numbers and fractional ones are kept apart, the latter as double patterns. A document may
hold the members of an object in any order, and several of one name; in its normal form they stand
in ascending order of their names, each name once.
-/

namespace Courier

set_option autoImplicit false

inductive Json
  | null
  | bool (v : Bool)
  | integer (n : Int)
  | float (bits : UInt64)
  | string (s : String)
  | array (items : List Json)
  | object (members : List (String × Json))
  deriving Inhabited

namespace Json

/-- Adds a member to sorted ones; a member of the same name is replaced. -/
def insertMember (name : String) (v : Json) : List (String × Json) → List (String × Json)
  | [] => [(name, v)]
  | (k, w) :: rest =>
    if name = k then (name, v) :: rest
    else if name < k then (name, v) :: (k, w) :: rest
    else (k, w) :: insertMember name v rest

/-- The members sorted by name; of two members of one name the later stays. -/
def sortMembers (members : List (String × Json)) : List (String × Json) :=
  members.foldl (fun ms m => insertMember m.1 m.2 ms) []

mutual

/-- The normal form, at every depth. -/
def normal : Json → Json
  | .array items => .array (normalItems items)
  | .object members => .object (sortMembers (normalMembers members))
  | v => v

def normalItems : List Json → List Json
  | [] => []
  | v :: rest => normal v :: normalItems rest

def normalMembers : List (String × Json) → List (String × Json)
  | [] => []
  | (k, v) :: rest => (k, normal v) :: normalMembers rest

end

def field? (name : String) : Json → Option Json
  | .object members => (members.find? (·.1 = name)).map Prod.snd
  | _ => none

def escapeChar (c : Char) : String :=
  match c with
  | '"' => "\\\""
  | '\\' => "\\\\"
  | '\n' => "\\n"
  | '\r' => "\\r"
  | '\t' => "\\t"
  | '\x08' => "\\b"
  | '\x0c' => "\\f"
  | c =>
    if c.toNat < 0x20 then
      "\\u00" ++ (if c.toNat < 0x10 then "0" else "") ++ Text.hexDigits c.toNat
    else c.toString

def quote (s : String) : String :=
  "\"" ++ String.join (s.toList.map escapeChar) ++ "\""

def commaJoin (parts : List String) : String := ",".intercalate parts

mutual

/-- The compact text, without blanks. -/
def render : Json → String
  | .null => "null"
  | .bool v => if v then "true" else "false"
  | .integer n => toString n
  | .float bits => Number.Layout.document.text Number.double bits.toNat
  | .string s => quote s
  | .array items => "[" ++ commaJoin (renderItems items) ++ "]"
  | .object members => "\x7b" ++ commaJoin (renderMembers members) ++ "\x7d"

def renderItems : List Json → List String
  | [] => []
  | v :: rest => render v :: renderItems rest

def renderMembers : List (String × Json) → List String
  | [] => []
  | (k, v) :: rest => (quote k ++ ":" ++ render v) :: renderMembers rest

end

end Json

end Courier
