import Mathlib.Data.List.Induction
import Mathlib.Data.List.Nodup
import Courier.Table

/-!
# Lookups in tables

What each operation on a table does to `get?`. Keys are distinct, so a lookup finds exactly the
entries, and tables with the same entries in another order answer alike.
-/

namespace Courier.Table

set_option autoImplicit false

variable {α β : Type}

theorem ext_entries {s t : Table α β} (h : s.entries = t.entries) : s = t := by
  cases s
  cases t
  cases h
  rfl

theorem filter_eq_self {t : Table α β} {p : α → β → Bool}
    (all : ∀ e ∈ t.entries, p e.1 e.2 = true) : t.filter p = t :=
  ext_entries (List.filter_eq_self.mpr all)

/-- A key has one value. -/
theorem entries_unique (t : Table α β) {k : α} {v w : β} (hv : (k, v) ∈ t.entries)
    (hw : (k, w) ∈ t.entries) : v = w := by
  have same : (k, v) = (k, w) := List.inj_on_of_nodup_map t.nodup hv hw rfl
  exact congrArg Prod.snd same

variable [DecidableEq α]

theorem get?_eq_some_iff {t : Table α β} {k : α} {v : β} :
    t.get? k = some v ↔ (k, v) ∈ t.entries := by
  constructor
  · intro h
    obtain ⟨⟨k', v'⟩, found, rfl⟩ := Option.map_eq_some_iff.mp h
    have key := List.find?_some found
    have mem := List.mem_of_find?_eq_some found
    simp only [decide_eq_true_eq] at key
    subst key
    exact mem
  · intro mem
    cases found : t.entries.find? (·.1 = k) with
    | none =>
      have absent := List.find?_eq_none.mp found (k, v) mem
      simp at absent
    | some e =>
      obtain ⟨k', w⟩ := e
      have key := List.find?_some found
      simp only [decide_eq_true_eq] at key
      subst key
      rw [get?, found, t.entries_unique mem (List.mem_of_find?_eq_some found)]
      rfl

theorem get?_eq_none_iff {t : Table α β} {k : α} :
    t.get? k = none ↔ ∀ v, (k, v) ∉ t.entries := by
  rw [Option.eq_none_iff_forall_ne_some]
  simp only [ne_eq, get?_eq_some_iff]

theorem contains_iff {t : Table α β} {k : α} : t.contains k = true ↔ ∃ v, t.get? k = some v := by
  simp only [contains, List.any_eq_true, decide_eq_true_eq, get?_eq_some_iff]
  constructor
  · rintro ⟨⟨k', v⟩, mem, rfl⟩
    exact ⟨v, mem⟩
  · rintro ⟨v, mem⟩
    exact ⟨(k, v), mem, rfl⟩

theorem contains_eq_false_iff {t : Table α β} {k : α} :
    t.contains k = false ↔ t.get? k = none := by
  rw [Bool.eq_false_iff, ne_eq, contains_iff, Option.eq_none_iff_forall_ne_some]
  simp only [not_exists, ne_eq]

/-- The order of the entries does not matter for a lookup. -/
theorem get?_eq_of_perm {s t : Table α β} (h : s.entries.Perm t.entries) (k : α) :
    s.get? k = t.get? k := by
  apply Option.ext
  intro v
  rw [get?_eq_some_iff, get?_eq_some_iff, h.mem_iff]

theorem get?_filter (t : Table α β) (p : α → β → Bool) (k : α) :
    (t.filter p).get? k = (t.get? k).filter (p k) := by
  apply Option.ext
  intro v
  rw [get?_eq_some_iff, Option.filter_eq_some_iff, get?_eq_some_iff, filter, List.mem_filter]

theorem get?_erase (t : Table α β) (k k' : α) :
    (t.erase k).get? k' = if k' = k then none else t.get? k' := by
  rw [erase, get?_filter]
  by_cases h : k' = k
  · simp [h]
  · cases t.get? k' <;> simp [h]

theorem get?_adjust (t : Table α β) (k : α) (f : β → β) (k' : α) :
    (t.adjust k f).get? k' = if k' = k then (t.get? k').map f else t.get? k' := by
  apply Option.ext
  intro w
  simp only [get?_eq_some_iff, adjust, mapValues, List.mem_map, Prod.mk.injEq, Prod.exists]
  by_cases h : k' = k
  · subst h
    simp only [if_true, Option.map_eq_some_iff, get?_eq_some_iff]
    constructor
    · rintro ⟨k, v, mem, rfl, rfl⟩
      exact ⟨v, mem, by simp⟩
    · rintro ⟨v, mem, rfl⟩
      exact ⟨k', v, mem, rfl, by simp⟩
  · simp only [if_neg h, get?_eq_some_iff]
    constructor
    · rintro ⟨k'', v, mem, rfl, rfl⟩
      simpa only [if_neg h] using mem
    · intro mem
      exact ⟨k', w, mem, rfl, by rw [if_neg h]⟩

theorem entries_insert_of_absent {t : Table α β} {k : α} (h : t.get? k = none) (v : β) :
    (t.insert k v).entries = t.entries ++ [(k, v)] := by
  have absent : ¬ t.contains k = true := by rw [contains_eq_false_iff.mpr h]; simp
  rw [insert, dif_neg absent]

theorem get?_insert (t : Table α β) (k : α) (v : β) (k' : α) :
    (t.insert k v).get? k' = if k' = k then some v else t.get? k' := by
  by_cases present : t.contains k = true
  · rw [insert, dif_pos present, get?_adjust]
    by_cases h : k' = k
    · obtain ⟨w, found⟩ := contains_iff.mp present
      simp [h, found]
    · simp [h]
  · have absent : t.get? k = none := contains_eq_false_iff.mp (by simpa using present)
    apply Option.ext
    intro w
    rw [get?_eq_some_iff, entries_insert_of_absent absent, List.mem_append, List.mem_singleton]
    by_cases h : k' = k
    · subst h
      have : (k', w) ∉ t.entries := get?_eq_none_iff.mp absent w
      simp [this, eq_comm]
    · simp [h, get?_eq_some_iff]

/-- A key that was known before takes no room of its own. -/
theorem size_insert (t : Table α β) (k : α) (v : β) :
    (t.insert k v).size = if t.contains k = true then t.size else t.size + 1 := by
  unfold insert
  split
  · exact List.length_map _
  · exact List.length_append

theorem size_pos_of_contains {t : Table α β} {k : α} (h : t.contains k = true) : 0 < t.size := by
  obtain ⟨v, found⟩ := contains_iff.mp h
  exact List.length_pos_of_mem (get?_eq_some_iff.mp found)

theorem size_insert_pos (t : Table α β) (k : α) (v : β) : 0 < (t.insert k v).size := by
  rw [size_insert]
  split
  · rename_i known
    exact size_pos_of_contains known
  · exact Nat.zero_lt_succ _

@[simp] theorem get?_insert_self (t : Table α β) (k : α) (v : β) :
    (t.insert k v).get? k = some v := by
  rw [get?_insert, if_pos rfl]

theorem get?_insert_of_ne (t : Table α β) {k k' : α} (h : k' ≠ k) (v : β) :
    (t.insert k v).get? k' = t.get? k' := by
  rw [get?_insert, if_neg h]

/-- Only the last of two insertions at a key counts. -/
theorem insert_insert_self (t : Table α β) (k : α) (v w : β) :
    (t.insert k v).insert k w = t.insert k w := by
  have present : (t.insert k v).contains k = true :=
    contains_iff.mpr ⟨v, get?_insert_self t k v⟩
  apply ext_entries
  rw [insert, dif_pos present]
  by_cases known : t.contains k = true
  · rw [insert, dif_pos known, insert, dif_pos known]
    simp only [adjust, mapValues, List.map_map]
    refine List.map_congr_left fun e _ => ?_
    by_cases same : e.1 = k <;> simp [same]
  · have absent : t.get? k = none := contains_eq_false_iff.mp (by simpa using known)
    have apart : ∀ e ∈ t.entries, e.1 ≠ k := by
      rintro ⟨k', v'⟩ mem rfl
      exact get?_eq_none_iff.mp absent v' mem
    have kept : t.entries.map (fun e => (e.1, if e.1 = k then w else e.2)) = t.entries := by
      refine (List.map_congr_left fun e mem => ?_).trans (List.map_id _)
      rw [if_neg (apart e mem)]
      rfl
    simp only [adjust, mapValues, entries_insert_of_absent absent, List.map_append, kept]
    simp

theorem ofList_append_singleton (entries : List (α × β)) (e : α × β) :
    ofList (entries ++ [e]) = (ofList entries).insert e.1 e.2 := by
  simp [ofList]

/-- In a table made from a list the last entry of a key counts. -/
theorem get?_ofList (entries : List (α × β)) (k : α) :
    (ofList entries).get? k = ((entries.filter (·.1 = k)).getLast?).map Prod.snd := by
  induction entries using List.reverseRecOn with
  | nil => rfl
  | append_singleton entries e ih =>
    rw [ofList_append_singleton, get?_insert, ih, List.filter_append]
    by_cases h : k = e.1
    · simp [h]
    · have other : ¬ e.1 = k := fun h' => h h'.symm
      simp [h, other]

/-- Distinct keys keep their place. -/
theorem entries_ofList (entries : List (α × β)) (h : (entries.map Prod.fst).Nodup) :
    (ofList entries).entries = entries := by
  induction entries using List.reverseRecOn with
  | nil => rfl
  | append_singleton entries e ih =>
    rw [List.map_append, List.nodup_append] at h
    obtain ⟨before, -, apart⟩ := h
    have absent : (ofList entries).get? e.1 = none := by
      rw [get?_eq_none_iff, ih before]
      intro v mem
      exact apart e.1 (List.mem_map.mpr ⟨(e.1, v), mem, rfl⟩) e.1 (by simp) rfl
    rw [ofList_append_singleton, entries_insert_of_absent absent, ih before]

end Courier.Table
