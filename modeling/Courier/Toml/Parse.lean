import Courier.Toml.Document
import Courier.Toml.Scalar

/-!
# Reading TOML

A document is read line by line: a header selects a table, a key with a value adds to it.
-/

namespace Courier.Toml

set_option autoImplicit false

/-- A comment at the front is passed over; it may not hold controls. -/
def skipComment : List Char → Option (List Char)
  | '#' :: rest =>
    let isEnd (c : Char) : Bool := c = '\n' || c = '\r'
    if (rest.takeWhile (!isEnd ·)).any isForbidden then none else some (rest.dropWhile (!isEnd ·))
  | cs => some cs

/-- Blanks, comments and line ends. -/
def skipLines : Nat → List Char → Option (List Char)
  | 0, _ => none
  | fuel + 1, cs =>
    match skipComment (skipSpace cs) with
    | none => none
    | some rest =>
      match takeNewline rest with
      | some rest => skipLines fuel rest
      | none => some rest

def skipBlankLines (cs : List Char) : Option (List Char) := skipLines (cs.length + 1) cs

/-- What may stand after a header or a value, up to and with the line end. -/
def endLine (cs : List Char) : Option (List Char) :=
  match skipComment (skipSpace cs) with
  | some [] => some []
  | some rest => takeNewline rest
  | none => none

def isBareChar (c : Char) : Bool := c.isAlphanum || c = '-' || c = '_'

def takeKey (cs : List Char) : Option (String × List Char) :=
  match cs with
  | '"' :: rest => basicString (rest.length + 1) [] rest
  | '\'' :: rest => literalString rest
  | cs =>
    let key := cs.takeWhile isBareChar
    if key.isEmpty then none else some (String.ofList key, cs.dropWhile isBareChar)

/-- How many keys may be joined, and how deep arrays and inline tables may nest. -/
def maxDepth : Nat := 80

/-- Keys joined by dots, with blanks around the dots; at most as many as the first argument
says. -/
def takeKeys : Nat → List Char → Option (List String × List Char)
  | 0, _ => none
  | limit + 1, cs =>
    match takeKey (skipSpace cs) with
    | none => none
    | some (key, rest) =>
      match skipSpace rest with
      | '.' :: rest => (takeKeys limit rest).map fun (keys, rest) => (key :: keys, rest)
      | rest => some ([key], rest)

/-- The line end right after the opening quotes of a long string does not count. -/
def dropFirstNewline (cs : List Char) : List Char := (takeNewline cs).getD cs

mutual

/-- Reads a value; `depth` counts the levels that may still open. -/
def readValue : Nat → Nat → List Char → Option (Tree × List Char)
  | 0, _, _ => none
  | fuel + 1, depth, cs =>
    match cs with
    | '"' :: '"' :: '"' :: rest =>
      (longString '"' true (rest.length + 1) [] (dropFirstNewline rest)).map fun (s, rest) =>
        (.text s, rest)
    | '"' :: rest => (basicString (rest.length + 1) [] rest).map fun (s, rest) => (.text s, rest)
    | '\'' :: '\'' :: '\'' :: rest =>
      (longString '\'' false (rest.length + 1) [] (dropFirstNewline rest)).map fun (s, rest) =>
        (.text s, rest)
    | '\'' :: rest => (literalString rest).map fun (s, rest) => (.text s, rest)
    | '[' :: rest => if depth = 0 then none else readItems fuel (depth - 1) [] rest
    | '\x7b' :: rest => if depth = 0 then none else readFields fuel (depth - 1) [] rest
    | cs =>
      let (word, rest) := takeWord cs
      (readWord word).map fun v => (v, rest)

/-- The items of an array, which may be spread over lines and end with a comma. -/
def readItems : Nat → Nat → List Tree → List Char → Option (Tree × List Char)
  | 0, _, _, _ => none
  | fuel + 1, depth, done, cs =>
    match skipBlankLines cs with
    | none => none
    | some (']' :: rest) => some (.list done.reverse, rest)
    | some cs =>
      match readValue fuel depth cs with
      | none => none
      | some (v, rest) =>
        match skipBlankLines rest with
        | some (',' :: rest) => readItems fuel depth (v :: done) rest
        | some (']' :: rest) => some (.list (v :: done).reverse, rest)
        | _ => none

/-- The fields of an inline table, which may be spread over lines and end with a comma. Joined
keys stay on one line. -/
def readFields : Nat → Nat → Entries → List Char → Option (Tree × List Char)
  | 0, _, _, _ => none
  | fuel + 1, depth, done, cs =>
    match skipBlankLines cs with
    | none => none
    | some ('\x7d' :: rest) => some (.table (treeEntries done), rest)
    | some cs =>
      match takeKeys maxDepth cs with
      | none => none
      | some (keys, rest) =>
        match skipBlankLines rest with
        | some ('=' :: rest) =>
          match skipBlankLines rest with
          | none => none
          | some rest =>
            match readValue fuel depth rest with
            | none => none
            | some (v, rest) =>
              match addValue keys v done with
              | none => none
              | some done =>
                match skipBlankLines rest with
                | some (',' :: rest) => readFields fuel depth done rest
                | some ('\x7d' :: rest) => some (.table (treeEntries done), rest)
                | _ => none
        | _ => none

end

/-- A header, after its opening bracket or brackets; `close` is what ends it. -/
def readHeader (close : List Char) (cs : List Char) : Option (List String × List Char) := do
  let (keys, rest) ← takeKeys maxDepth cs
  if close.isPrefixOf rest then
    let rest ← endLine (rest.drop close.length)
    return (keys, rest)
  else none

/-- Reads lines into `root`; values go into the table at `current`. -/
def readLines : Nat → List String → Entries → List Char → Option Entries
  | 0, _, _, _ => none
  | fuel + 1, current, root, cs =>
    match skipBlankLines cs with
    | none => none
    | some [] => some root
    | some ('[' :: '[' :: rest) => do
      let (keys, rest) ← readHeader [']', ']'] rest
      let root ← within false (addTable (keys.getLast?.getD "")) keys.dropLast root
      readLines fuel keys root rest
    | some ('[' :: rest) => do
      let (keys, rest) ← readHeader [']'] rest
      let root ← within false (openTable (keys.getLast?.getD "")) keys.dropLast root
      readLines fuel keys root rest
    | some cs => do
      let (keys, rest) ← takeKeys maxDepth cs
      match rest with
      | '=' :: rest =>
        let (v, rest) ← readValue (rest.length + 1) maxDepth (skipSpace rest)
        let rest ← endLine rest
        let root ← within false (addValue keys v) current root
        readLines fuel current root rest
      | _ => none

/-- Reads a whole document, which may begin with a byte order mark, as the entries of its root
table. -/
def parse? (s : String) : Option (List (String × Tree)) :=
  let cs := (Text.dropMark s).toList
  (readLines (cs.length + 1) [] [] cs).map treeEntries

end Courier.Toml
