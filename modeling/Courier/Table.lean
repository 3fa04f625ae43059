/-!
# Tables

Finite maps as lists of pairs with distinct keys, in the order in which the keys first came.
-/

namespace Courier

set_option autoImplicit false

structure Table (α β : Type) where
  entries : List (α × β)
  nodup : (entries.map Prod.fst).Nodup

namespace Table

variable {α β : Type}

def empty : Table α β := ⟨[], List.nodup_nil⟩

instance : EmptyCollection (Table α β) := ⟨empty⟩

instance : Inhabited (Table α β) := ⟨empty⟩

def keys (t : Table α β) : List α := t.entries.map Prod.fst

def values (t : Table α β) : List β := t.entries.map Prod.snd

def size (t : Table α β) : Nat := t.entries.length

def isEmpty (t : Table α β) : Bool := t.entries.isEmpty

/-- Keeps the entries that satisfy `p`. -/
def filter (t : Table α β) (p : α → β → Bool) : Table α β :=
  ⟨t.entries.filter fun e => p e.1 e.2,
    t.nodup.sublist (List.filter_sublist.map Prod.fst)⟩

/-- Changes the values in place. -/
def mapValues {γ : Type} (t : Table α β) (f : α → β → γ) : Table α γ :=
  ⟨t.entries.map fun e => (e.1, f e.1 e.2), by
    have : (t.entries.map fun e => (e.1, f e.1 e.2)).map Prod.fst = t.entries.map Prod.fst := by
      simp [List.map_map, Function.comp_def]
    rw [this]; exact t.nodup⟩

/-- The entries in ascending order of their keys. -/
def sorted (t : Table String β) : List (String × β) :=
  t.entries.mergeSort fun a b => decide (a.1 ≤ b.1)

def sortedKeys (t : Table String β) : List String := t.keys.mergeSort fun a b => decide (a ≤ b)

variable [DecidableEq α]

def get? (t : Table α β) (k : α) : Option β := (t.entries.find? (·.1 = k)).map Prod.snd

def contains (t : Table α β) (k : α) : Bool := t.entries.any (·.1 = k)

def erase (t : Table α β) (k : α) : Table α β := t.filter fun k' _ => k' ≠ k

/-- Changes the value at `k`, if there is one. -/
def adjust (t : Table α β) (k : α) (f : β → β) : Table α β :=
  t.mapValues fun k' v => if k' = k then f v else v

/-- Replaces the value at `k` in place, or appends a new entry. -/
def insert (t : Table α β) (k : α) (v : β) : Table α β :=
  if h : t.contains k then t.adjust k fun _ => v
  else
    ⟨t.entries ++ [(k, v)], by
      rw [List.map_append, List.nodup_append]
      refine ⟨t.nodup, by simp, ?_⟩
      intro a ha b hb hab
      obtain ⟨e, he, rfl⟩ := List.mem_map.mp ha
      simp only [List.map_cons, List.map_nil, List.mem_singleton] at hb
      exact h (List.any_eq_true.mpr ⟨e, he, by simp [hab, hb]⟩)⟩

/-- Later entries of a key win. -/
def ofList (entries : List (α × β)) : Table α β :=
  entries.foldl (fun t e => t.insert e.1 e.2) empty

end Table

end Courier
