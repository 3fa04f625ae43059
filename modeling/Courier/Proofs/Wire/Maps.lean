import Courier.Proofs.Table
import Courier.Proofs.Wire.Values

/-!
# Encoded maps delimit themselves

The order in which a map writes its entries does not show in what is read back: the reader ends
at the end of the map with the same value for every key. Where a list repeats a key its last
entry counts.
-/

namespace Courier.Wire

set_option autoImplicit false

/-- An entry whose key or value is too large for its field. -/
def EntryOversized (e : String × Value) : Prop :=
  65535 < (ModifiedUtf8.encode e.1).length ∨ e.2.Oversized

/-- A map with too many entries, or with one that is too large. -/
def MapOversized (m : Table String Value) : Prop :=
  2147483647 < m.size ∨ ∃ k v, m.get? k = some v ∧ EntryOversized (k, v)

theorem exists_of_not_error {α : Type} {x : Except Error α} (h : ¬ ∃ e, x = .error e) :
    ∃ a, x = .ok a := by
  cases x with
  | error e => exact absurd ⟨e, rfl⟩ h
  | ok a => exact ⟨a, rfl⟩

/-- Entries that fit are written one after the other, and read back into whatever table is being
filled. -/
theorem exists_writes_entries (entries : List (String × Value))
    (fits : ∀ e ∈ entries, ¬ EntryOversized e) :
    ∃ bytes, Write.Writes (Write.entries entries) bytes ∧ ∀ table : Table String Value,
      Read.Takes (Read.entries entries.length table) bytes
        (entries.foldl (fun t e => t.insert e.1 e.2) table) := by
  induction entries with
  | nil => exact ⟨[], Write.Writes.nothing, fun table => Read.Takes.pure table⟩
  | cons e entries ih =>
    have fit := fits e List.mem_cons_self
    obtain ⟨others, written, taken⟩ := ih fun e' he' => fits e' (List.mem_cons_of_mem e he')
    have keyFits : ¬ 65535 < (ModifiedUtf8.encode e.1).length := fun h => fit (Or.inl h)
    have valueFits : ¬ e.2.Oversized := fun h => fit (Or.inr h)
    rw [← encodeString_error_iff] at keyFits
    rw [← encodeValue_error_iff] at valueFits
    obtain ⟨key, hKey⟩ := exists_of_not_error keyFits
    obtain ⟨value, hValue⟩ := exists_of_not_error valueFits
    refine ⟨key ++ (value ++ others), ?_, ?_⟩
    · exact (Write.writes_encoded hKey).andThen ((Write.writes_encoded hValue).andThen written)
    · intro table
      exact (Read.takes_string hKey).bind ((Read.takes_value hValue).bind (taken _))

/-- An entry that does not fit stops the writing with a format error. -/
theorem entries_error (entries : List (String × Value)) (h : ∃ e ∈ entries, EntryOversized e)
    (out : List UInt8) :
    ∃ fault out', Write.entries entries out = .error fault out' ∧ fault.kind = .format := by
  induction entries generalizing out with
  | nil => simp at h
  | cons e entries ih =>
    cases hKey : encodeString e.1 with
    | error fault =>
      refine ⟨fault, out, ?_, encodeString_error_kind hKey⟩
      simp only [Write.entries, Write.string, hKey]
      rfl
    | ok key =>
      have writtenKey := Write.writes_encoded hKey out
      cases hValue : encodeValue e.2 with
      | error fault =>
        have failed : Write.value e.2 (out ++ key) = .error fault (out ++ key) := by
          rw [Write.value, hValue]
          rfl
        refine ⟨fault, out ++ key, ?_, encodeValue_error_kind hValue⟩
        simp only [Write.entries, Write.string, Bind.bind, EStateM.bind, writtenKey, failed]
      | ok value =>
        have writtenValue := Write.writes_encoded hValue (out ++ key)
        have later : ∃ e ∈ entries, EntryOversized e := by
          obtain ⟨e', mem, large⟩ := h
          rcases List.mem_cons.mp mem with rfl | mem
          · rcases large with large | large
            · obtain ⟨_, failed⟩ := (encodeString_error_iff e'.1).mpr large
              rw [hKey] at failed
              cases failed
            · obtain ⟨_, failed⟩ := (encodeValue_error_iff e'.2).mpr large
              rw [hValue] at failed
              cases failed
          · exact ⟨e', mem, large⟩
        obtain ⟨fault, out', failed, kind⟩ := ih later (out ++ key ++ value)
        refine ⟨fault, out', ?_, kind⟩
        simp only [Write.entries, Write.string, Write.value, Bind.bind, EStateM.bind, writtenKey,
          writtenValue, failed]

/-- The count and the entries that follow it are read into a table. -/
theorem takes_map {entries : List (String × Value)} {bytes : List UInt8}
    (short : entries.length ≤ maxCount)
    (taken : ∀ table : Table String Value, Read.Takes (Read.entries entries.length table) bytes
      (entries.foldl (fun t e => t.insert e.1 e.2) table)) :
    Read.Takes Read.map (BigEndian.encode 4 entries.length ++ bytes) (Table.ofList entries) := by
  refine (Read.takes_count short).bind ?_
  rw [Read.toInt_count short, if_neg (by omega), Int.toNat_natCast]
  exact taken ∅

theorem encodeMap_error {t : Table String Value} (h : MapOversized t) :
    ∃ e, encodeMap t = .error e ∧ e.kind = .format := by
  unfold encodeMap Write.collect Write.map
  by_cases large : maxCount < t.size
  · rw [if_pos large]
    exact ⟨.mapTooLarge t.size, rfl, rfl⟩
  · rw [if_neg large]
    have entry : ∃ e ∈ t.entries, EntryOversized e := by
      rcases h with h | ⟨k, v, found, h⟩
      · exact absurd h large
      · exact ⟨(k, v), Table.get?_eq_some_iff.mp found, h⟩
    obtain ⟨fault, out', failed, kind⟩ :=
      entries_error t.entries entry (BigEndian.encode 4 t.size)
    refine ⟨fault, ?_, kind⟩
    simp only [Bind.bind, EStateM.bind, Write.writes_raw (BigEndian.encode 4 t.size) [],
      List.nil_append, failed]

theorem exists_encodeMap {t : Table String Value} (h : ¬ MapOversized t) :
    ∃ bytes, encodeMap t = .ok bytes ∧ Read.Takes Read.map bytes t := by
  have short : t.size ≤ maxCount := by
    apply Nat.le_of_not_lt
    exact fun large => h (Or.inl large)
  obtain ⟨others, written, taken⟩ := exists_writes_entries t.entries fun e mem large =>
    h (Or.inr ⟨e.1, e.2, Table.get?_eq_some_iff.mpr mem, large⟩)
  refine ⟨BigEndian.encode 4 t.size ++ others, ?_, ?_⟩
  · have whole : Write.Writes (do Write.raw (BigEndian.encode 4 t.size); Write.entries t.entries)
        (BigEndian.encode 4 t.size ++ others) :=
      (Write.writes_raw (BigEndian.encode 4 t.size)).andThen written
    rw [encodeMap, Write.map, if_neg (Nat.not_lt.mpr short)]
    exact whole.collect
  · have read := takes_map short taken
    rwa [Table.ext_entries (Table.entries_ofList t.entries t.nodup)] at read

theorem encodeMap_error_iff (t : Table String Value) :
    (∃ e, encodeMap t = .error e) ↔ MapOversized t := by
  constructor
  · rintro ⟨e, failed⟩
    by_cases h : MapOversized t
    · exact h
    · obtain ⟨bytes, written, -⟩ := exists_encodeMap h
      rw [written] at failed
      cases failed
  · intro h
    obtain ⟨e, failed, -⟩ := encodeMap_error h
    exact ⟨e, failed⟩

theorem mapOversized_of_perm {t m : Table String Value} (h : t.entries.Perm m.entries) :
    MapOversized t ↔ MapOversized m := by
  unfold MapOversized
  rw [show t.size = m.size from h.length_eq]
  simp only [Table.get?_eq_of_perm h]

/-- The encoding of a map delimits itself, whatever the order `t` of its entries: in front of any
bytes it is read as that map and the read stops at its end. It fails, with a format error, exactly
when the map is oversized. A counted list of entries that fit is read as the table in which the
last entry of each key counts. -/
theorem map_self_delimiting :
    (∀ m t : Table String Value, t.entries.Perm m.entries →
      ((∃ e, encodeMap t = .error e) ↔ MapOversized m) ∧
      (∀ e, encodeMap t = .error e → e.kind = .format) ∧
      ∀ bytes, encodeMap t = .ok bytes → ∀ rest : List UInt8, ∃ r c,
        Read.map (Cursor.start (bytes ++ rest)) = .ok r c ∧ (∀ k, r.get? k = m.get? k) ∧
          r.size = m.size ∧ c.position = bytes.length ∧ c.rest = rest) ∧
    ∀ entries : List (String × Value), (∀ e ∈ entries, ¬ EntryOversized e) →
      entries.length ≤ 2147483647 → ∃ bytes,
        Write.collect (do Write.raw (BigEndian.encode 4 entries.length); Write.entries entries) =
          .ok bytes ∧
        ∀ rest : List UInt8, ∃ r c, Read.map (Cursor.start (bytes ++ rest)) = .ok r c ∧
          (∀ k, r.get? k = ((entries.filter (·.1 = k)).getLast?).map Prod.snd) ∧
          c.position = bytes.length ∧ c.rest = rest := by
  refine ⟨?_, ?_⟩
  · intro m t order
    refine ⟨(encodeMap_error_iff t).trans (mapOversized_of_perm order), ?_, ?_⟩
    · intro e failed
      obtain ⟨e', failed', kind⟩ := encodeMap_error ((encodeMap_error_iff t).mp ⟨e, failed⟩)
      rw [failed] at failed'
      cases failed'
      exact kind
    · intro bytes written rest
      have fits : ¬ MapOversized t := by
        rw [← encodeMap_error_iff, written]
        simp
      obtain ⟨bytes', written', taken⟩ := exists_encodeMap fits
      rw [written] at written'
      cases written'
      obtain ⟨c, read, position, left⟩ := taken.start rest
      exact ⟨t, c, read, Table.get?_eq_of_perm order, order.length_eq, position, left⟩
  · intro entries fits short
    obtain ⟨others, written, taken⟩ := exists_writes_entries entries fits
    refine ⟨_, ((Write.writes_raw _).andThen written).collect, ?_⟩
    intro rest
    obtain ⟨c, read, position, left⟩ := (takes_map short taken).start rest
    exact ⟨_, c, read, Table.get?_ofList entries, position, left⟩

/-- A map whose entries go out in the other order, and a list with a key that comes twice. -/
theorem map_self_delimiting_two :
    encodeMap (Table.ofList [("b", .int 2), ("a", .null)]) =
        .ok [0, 0, 0, 2, 0, 1, 98, 5, 0, 0, 0, 2, 0, 1, 97, 0] ∧
      (∃ r c, Read.map (Cursor.start [0, 0, 0, 2, 0, 1, 98, 5, 0, 0, 0, 2, 0, 1, 97, 0, 9]) =
          .ok r c ∧
        (∀ k, r.get? k = (Table.ofList [("a", Value.null), ("b", .int 2)]).get? k) ∧
          r.size = 2 ∧ c.position = 16 ∧ c.rest = [9]) ∧
      ∃ bytes, Write.collect (do
          Write.raw (BigEndian.encode 4 2)
          Write.entries [("a", .null), ("a", .byte 7)]) = .ok bytes ∧
        ∀ rest : List UInt8, ∃ r c, Read.map (Cursor.start (bytes ++ rest)) = .ok r c ∧
          (∀ k, r.get? k = (([("a", Value.null), ("a", .byte 7)].filter
            (·.1 = k)).getLast?).map Prod.snd) ∧ c.position = bytes.length ∧ c.rest = rest := by
  have h : encodeMap (Table.ofList [("b", .int 2), ("a", .null)]) =
      .ok [0, 0, 0, 2, 0, 1, 98, 5, 0, 0, 0, 2, 0, 1, 97, 0] := by
    decide
  refine ⟨h, ?_, ?_⟩
  · exact (map_self_delimiting.1 (Table.ofList [("a", .null), ("b", .int 2)])
      (Table.ofList [("b", .int 2), ("a", .null)]) (List.Perm.swap _ _ _)).2.2 _ h [9]
  · refine map_self_delimiting.2 [("a", .null), ("a", .byte 7)] ?_ (by decide)
    intro e mem
    rcases List.mem_pair.mp mem with rfl | rfl
    · rintro (large | large)
      · revert large
        decide
      · exact large
    · rintro (large | large)
      · revert large
        decide
      · exact large

end Courier.Wire
