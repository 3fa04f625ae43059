import Courier.Settings.Tree

/-!
# TOML documents

The tables of a document as they grow line by line. How a table came to be decides what may be
added to it later, so every table remembers its origin.
-/

namespace Courier.Toml

set_option autoImplicit false

/-- A table is implied by a longer header, opened by its own header, or made by a dotted key. -/
inductive Origin
  | implied | header | dotted
  deriving DecidableEq, Repr

inductive Node
  | leaf (v : Tree)
  | table (origin : Origin) (entries : List (String × Node))
  | tables (items : List (List (String × Node)))
  deriving Inhabited

abbrev Entries := List (String × Node)

def Entries.find? (k : String) (es : Entries) : Option Node :=
  (List.find? (fun e : String × Node => e.1 = k) es).map Prod.snd

def Entries.put (k : String) (v : Node) (es : Entries) : Entries :=
  es.map fun e => if e.1 = k then (k, v) else e

/-- Changes the table at a path, making the tables on the way, and in an array of tables taking the
last one. Headers may pass anything. Dotted keys may add to tables that are only implied or made by
dotted keys, not to one that has a header of its own; an element of an array has one, so they may
pass through it and not end in it. -/
def within (byDots : Bool) (f : Entries → Option Entries) : List String → Entries → Option Entries
  | [], es => f es
  | k :: path, es =>
    match Entries.find? k es with
    | none =>
      (within byDots f path []).map fun sub =>
        es ++ [(k, .table (if byDots then .dotted else .implied) sub)]
    | some (.table origin sub) =>
      if byDots && origin = .header then none
      else (within byDots f path sub).map fun sub => Entries.put k (.table origin sub) es
    | some (.tables items) =>
      if byDots && path.isEmpty then none
      else match items.getLast? with
        | none => none
        | some last =>
          (within byDots f path last).map fun last =>
            Entries.put k (.tables (items.dropLast ++ [last])) es
    | some (.leaf _) => none

/-- Opens the table `k`, which may be known by implication only. -/
def openTable (k : String) (es : Entries) : Option Entries :=
  match Entries.find? k es with
  | none => some (es ++ [(k, .table .header [])])
  | some (.table .implied sub) => some (Entries.put k (.table .header sub) es)
  | _ => none

/-- Adds a table to the array `k`. -/
def addTable (k : String) (es : Entries) : Option Entries :=
  match Entries.find? k es with
  | none => some (es ++ [(k, .tables [[]])])
  | some (.tables items) => some (Entries.put k (.tables (items ++ [[]])) es)
  | _ => none

def addLeaf (k : String) (v : Tree) (es : Entries) : Option Entries :=
  match Entries.find? k es with
  | none => some (es ++ [(k, .leaf v)])
  | some _ => none

/-- Adds a value under a dotted key. -/
def addValue (keys : List String) (v : Tree) (es : Entries) : Option Entries :=
  match keys.getLast? with
  | none => none
  | some k => within true (addLeaf k v) keys.dropLast es

mutual

def Node.tree : Node → Tree
  | .leaf v => v
  | .table _ entries => .table (treeEntries entries)
  | .tables items => .list (treeItems items)

def treeEntries : List (String × Node) → List (String × Tree)
  | [] => []
  | (k, v) :: rest => (k, v.tree) :: treeEntries rest

def treeItems : List (List (String × Node)) → List Tree
  | [] => []
  | es :: rest => .table (treeEntries es) :: treeItems rest

end

end Courier.Toml
