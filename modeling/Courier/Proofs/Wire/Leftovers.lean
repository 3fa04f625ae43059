import Courier.Proofs.Wire.Maps

/-!
# What failed writes leave behind

A character, a string, a value or a byte array that is refused leaves nothing behind, since its
encoding is complete before anything goes out. A map goes out piece by piece: when it is refused
for an entry, its count and all that stands in front of the part that does not fit stay behind.
-/

namespace Courier.Wire.Write

set_option autoImplicit false

/-- A failed `w` leaves the output as it was, and a successful one only adds to it. -/
structure AllOrNothing (w : Write) : Prop where
  ok : ∀ {out out' : List UInt8}, w out = .ok () out' → out <+: out'
  error : ∀ {out out' : List UInt8} {e : Error}, w out = .error e out' → out' = out

theorem allOrNothing_encoded (x : Except Error (List UInt8)) : AllOrNothing (encoded x) := by
  cases x with
  | ok bytes =>
    refine ⟨?_, ?_⟩
    · intro out out' h
      cases h
      exact List.prefix_append out bytes
    · intro out out' e h
      cases h
  | error fault =>
    refine ⟨?_, ?_⟩
    · intro out out' h
      cases h
    · intro out out' e h
      cases h
      rfl

/-- Written in its place or as a value, a byte array makes the same bytes. -/
theorem byteArray_eq_value (bytes : List UInt8) : byteArray bytes = value (.bytes bytes) := by
  funext out
  by_cases long : maxCount < bytes.length
  · have short : ¬ bytes.length ≤ maxCount := by omega
    simp only [byteArray, value, encodeValue, encodePayload, encodeArray, if_pos long, if_neg short]
    rfl
  · have short : bytes.length ≤ maxCount := by omega
    have whole : out ++ [ValueType.bytes.tag] ++ BigEndian.encode 4 bytes.length ++ bytes =
        out ++ (ValueType.bytes.tag :: (BigEndian.encode 4 bytes.length ++ bytes)) := by
      simp
    simp only [byteArray, value, encodeValue, encodePayload, encodeArray, if_neg long, if_pos short]
    exact congrArg (EStateM.Result.ok ()) whole

/-- The entry is refused with `e`, after `left` of it has gone out: its key, when that fits. -/
def Breaks (entry : String × Value) (e : Error) (left : List UInt8) : Prop :=
  encodeString entry.1 = .error e ∧ left = [] ∨
    encodeString entry.1 = .ok left ∧ encodeValue entry.2 = .error e

theorem exists_breaks {entry : String × Value} (h : EntryOversized entry) :
    ∃ e left, Breaks entry e left := by
  cases key : encodeString entry.1 with
  | error e => exact ⟨e, [], Or.inl ⟨key, rfl⟩⟩
  | ok left =>
    rcases h with large | large
    · obtain ⟨e, failed⟩ := (encodeString_error_iff entry.1).mpr large
      rw [key] at failed
      cases failed
    · obtain ⟨e, failed⟩ := (encodeValue_error_iff entry.2).mpr large
      exact ⟨e, left, Or.inr ⟨key, failed⟩⟩

theorem Breaks.entries_cons {entry : String × Value} {e : Error} {left : List UInt8}
    (h : Breaks entry e left) (rest : List (String × Value)) (out : List UInt8) :
    entries (entry :: rest) out = .error e (out ++ left) := by
  rcases h with ⟨key, rfl⟩ | ⟨key, failed⟩
  · rw [List.append_nil]
    simp only [entries, string, key]
    rfl
  · have refused : value entry.2 (out ++ left) = .error e (out ++ left) := by
      rw [value, failed]
      rfl
    simp only [entries, string, Bind.bind, EStateM.bind, writes_encoded key out, refused]

theorem entries_append (before after : List (String × Value)) :
    entries (before ++ after) = (do entries before; entries after) := by
  induction before with
  | nil => rfl
  | cons entry before ih => simp only [List.cons_append, entries, ih, bind_assoc]

/-- Up to the first entry that does not fit everything goes out. -/
theorem exists_break {all : List (String × Value)} (h : ∃ entry ∈ all, EntryOversized entry) :
    ∃ before bad after written left e, all = before ++ bad :: after ∧
      Writes (entries before) written ∧ Breaks bad e left ∧
      ∀ out, entries all out = .error e (out ++ written ++ left) := by
  classical
  cases found : all.find? (fun entry => decide (EntryOversized entry)) with
  | none =>
    obtain ⟨entry, mem, large⟩ := h
    have fits := List.find?_eq_none.mp found entry mem
    exact absurd (decide_eq_true large) fits
  | some bad =>
    obtain ⟨large, before, after, rfl, fits⟩ := List.find?_eq_some_iff_append.mp found
    obtain ⟨written, writes, -⟩ := exists_writes_entries before fun entry mem => by
      simpa using fits entry mem
    obtain ⟨e, left, breaks⟩ := exists_breaks (of_decide_eq_true large)
    refine ⟨before, bad, after, written, left, e, rfl, writes, breaks, ?_⟩
    intro out
    rw [entries_append]
    simp only [Bind.bind, EStateM.bind, writes out, breaks.entries_cons]

theorem exists_writes_map {m : Table String Value} (h : ¬ MapOversized m) :
    ∃ bytes, Writes (map m) bytes := by
  have short : ¬ maxCount < m.size := fun large => h (Or.inl large)
  obtain ⟨written, writes, -⟩ := exists_writes_entries m.entries fun entry mem large =>
    h (Or.inr ⟨entry.1, entry.2, Table.get?_eq_some_iff.mpr mem, large⟩)
  refine ⟨BigEndian.encode 4 m.size ++ written, ?_⟩
  rw [map, if_neg short]
  exact (writes_raw _).andThen writes

/-- What a map that is refused with `e` leaves behind: nothing when it has too many entries, else
the count, the entries in front of the one that does not fit, and the key of that one when only
its value does not. -/
def Remains (m : Table String Value) (e : Error) (left : List UInt8) : Prop :=
  maxCount < m.size ∧ left = [] ∨
    m.size ≤ maxCount ∧ ∃ before bad after written key, m.entries = before ++ bad :: after ∧
      Writes (entries before) written ∧ Breaks bad e key ∧
      left = BigEndian.encode 4 m.size ++ (written ++ key)

theorem Remains.eq_nil_iff {m : Table String Value} {e : Error} {left : List UInt8}
    (h : Remains m e left) : left = [] ↔ maxCount < m.size := by
  rcases h with ⟨large, rfl⟩ | ⟨small, before, bad, after, written, key, -, -, -, rfl⟩
  · simp [large]
  · have count := BigEndian.length_encode 4 m.size
    constructor
    · intro none
      rw [(List.append_eq_nil_iff.mp none).1] at count
      cases count
    · intro large
      omega

theorem exists_map_error {m : Table String Value} (h : MapOversized m) :
    ∃ e left, Remains m e left ∧ ∀ out, map m out = .error e (out ++ left) := by
  by_cases large : maxCount < m.size
  · refine ⟨.mapTooLarge m.size, [], Or.inl ⟨large, rfl⟩, ?_⟩
    intro out
    rw [map, if_pos large, List.append_nil]
    rfl
  · have entry : ∃ entry ∈ m.entries, EntryOversized entry := by
      rcases h with many | ⟨k, v, found, h⟩
      · exact absurd many large
      · exact ⟨(k, v), Table.get?_eq_some_iff.mp found, h⟩
    obtain ⟨before, bad, after, written, key, e, split, writes, breaks, run⟩ := exists_break entry
    refine ⟨e, _, Or.inr ⟨Nat.le_of_not_lt large, before, bad, after, written, key, split, writes,
      breaks, rfl⟩, ?_⟩
    intro out
    rw [map, if_neg large]
    simp only [Bind.bind, EStateM.bind, writes_raw _ out, run, List.append_assoc]

theorem map_ok {m : Table String Value} {out out' : List UInt8} (h : map m out = .ok () out') :
    out <+: out' := by
  by_cases large : MapOversized m
  · obtain ⟨e, left, -, run⟩ := exists_map_error large
    rw [run out] at h
    cases h
  · obtain ⟨bytes, writes⟩ := exists_writes_map large
    rw [writes out] at h
    cases h
    exact List.prefix_append out bytes

theorem map_error {m : Table String Value} {e : Error} {out out' : List UInt8}
    (h : map m out = .error e out') : ∃ left, out' = out ++ left ∧ Remains m e left := by
  by_cases large : MapOversized m
  · obtain ⟨e', left, remains, run⟩ := exists_map_error large
    rw [run out] at h
    cases h
    exact ⟨left, rfl, remains⟩
  · obtain ⟨bytes, writes⟩ := exists_writes_map large
    rw [writes out] at h
    cases h

/-- The writes that can fail. -/
inductive Fallible
  | char (c : Char)
  | string (s : String)
  | value (v : Value)
  | byteArray (bytes : List UInt8)
  | map (m : Table String Value)

def Fallible.write : Fallible → Write
  | .char c => Write.char c
  | .string s => Write.string s
  | .value v => Write.value v
  | .byteArray bytes => Write.byteArray bytes
  | .map m => Write.map m

theorem Fallible.allOrNothing {w : Fallible} (h : ∀ m, w ≠ .map m) : AllOrNothing w.write := by
  cases w with
  | char c => exact allOrNothing_encoded _
  | string s => exact allOrNothing_encoded _
  | value v => exact allOrNothing_encoded _
  | byteArray bytes =>
    rw [write, byteArray_eq_value]
    exact allOrNothing_encoded _
  | map m => exact absurd rfl (h m)

/-- What succeeds only adds to the output. What is refused leaves it as it was, except for a map
without too many entries: its count stays behind, and the pieces in front of the one that does not
fit. -/
theorem writes_all_or_nothing (w : Fallible) (out : List UInt8) :
    (∀ out', w.write out = .ok () out' → out <+: out') ∧
    ∀ e out', w.write out = .error e out' →
      (out' = out ↔ ∀ m, w = .map m → maxCount < m.size) ∧
      ∀ m, w = .map m → ∃ left, out' = out ++ left ∧ Remains m e left := by
  by_cases h : ∃ m, w = .map m
  · obtain ⟨m, rfl⟩ := h
    refine ⟨fun out' => map_ok, ?_⟩
    intro e out' failed
    obtain ⟨left, rfl, remains⟩ := map_error failed
    rw [List.append_right_eq_self, remains.eq_nil_iff]
    refine ⟨⟨?_, fun large => large m rfl⟩, ?_⟩
    · intro large m' same
      cases same
      exact large
    · intro m' same
      cases same
      exact ⟨left, rfl, remains⟩
  · have noMap : ∀ m, w ≠ .map m := fun m same => h ⟨m, same⟩
    have whole := Fallible.allOrNothing noMap
    refine ⟨fun out' => whole.ok, ?_⟩
    intro e out' failed
    refine ⟨iff_of_true (whole.error failed) ?_, ?_⟩
    · exact fun m same => absurd same (noMap m)
    · exact fun m same => absurd same (noMap m)

/-- A map whose one value does not fit. -/
def sampleWide : Table String Value := Table.ofList [("k", .char (Char.ofNat 0x1F600))]

theorem map_sampleWide :
    map sampleWide [7] =
      .error (.charTooWide (Char.ofNat 0x1F600)) [7, 0, 0, 0, 1, 0, 1, 107] := rfl

/-- Behind one byte: a character too wide for its field leaves that byte alone, while a map with
it under a key leaves its count and the key. -/
theorem writes_all_or_nothing_wide :
    (∃ e out', char (Char.ofNat 0x1F600) [7] = .error e out' ∧ out' = [7]) ∧
    ∃ e left, map sampleWide [7] = .error e ([7] ++ left) ∧ left ≠ [] ∧
      Remains sampleWide e left := by
  have refused : char (Char.ofNat 0x1F600) [7] = .error (.charTooWide (Char.ofNat 0x1F600)) [7] :=
    rfl
  have unchanged := ((writes_all_or_nothing (.char (Char.ofNat 0x1F600)) [7]).2 _ _ refused).1
  obtain ⟨left, same, remains⟩ :=
    ((writes_all_or_nothing (.map sampleWide) [7]).2 _ _ map_sampleWide).2 sampleWide rfl
  refine ⟨⟨_, _, refused, unchanged.mpr nofun⟩, _, left, same ▸ map_sampleWide, ?_, remains⟩
  rw [ne_eq, remains.eq_nil_iff]
  decide

/-- A map is not written all or not at all: seven bytes of a refused one stay behind. -/
theorem map_leaves_pieces :
    map sampleWide [7] =
        .error (.charTooWide (Char.ofNat 0x1F600)) [7, 0, 0, 0, 1, 0, 1, 107] ∧
      ¬ AllOrNothing (map sampleWide) := by
  refine ⟨map_sampleWide, ?_⟩
  intro h
  have unchanged := h.error map_sampleWide
  revert unchanged
  decide

end Courier.Wire.Write
