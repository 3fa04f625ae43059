import Courier.Body.Stream
import Courier.Proofs.Body.Uses
import Courier.Proofs.Conversion
import Courier.Proofs.Wire.Advancing
import Courier.Proofs.Wire.Leftovers

/-!
# Stream bodies are cursors over entries

A stream body holds the encodings of the values that were written, and being read it stands before
one of them. Reads, with or without a conversion, and turning back do to that place what they
would do to a place in the list of values.
-/

namespace Courier.StreamBody

set_option autoImplicit false

/-- A value to be written, as it is or as the bytes it stands for. -/
inductive Put
  | value (v : Value)
  | bytes (content : List UInt8)
  | range (buffer : List UInt8) (offset length : Nat)

namespace Put

def use : Put → EStateM Error StreamBody Unit
  | value v => writeValue v
  | bytes content => writeBytes content
  | range buffer offset length => writeRange buffer offset length

/-- The value that has been written when the write succeeds. -/
def entry : Put → Value
  | value v => v
  | bytes content => .bytes content
  | range buffer offset length => .bytes ((buffer.drop offset).take length)

/-- What has no encoding cannot be written, and nothing outside a buffer can. -/
def Refused : Put → Prop
  | range buffer offset length => buffer.length < offset + length ∨
      (entry (range buffer offset length)).Oversized
  | p => p.entry.Oversized

def encoding : Put → Except Error (List UInt8)
  | range buffer offset length =>
    subrange buffer offset length >>= fun bytes => Wire.encodeValue (.bytes bytes)
  | p => Wire.encodeValue p.entry

/-- What is refused before the body is looked at. -/
def fault : Put → Option Error
  | range buffer offset length => Use.reason (subrange buffer offset length)
  | _ => none

end Put

/-- The values that writing to a new body leaves in it. -/
def entries (puts : List Put) : List Value := (Use.accepted Put.use puts fresh).map Put.entry

/-- Turning back to the first entry, or reading the next one as it is or as a value of a type. -/
inductive Get
  | reset
  | read (wanted : Option ValueType)

def conversion : Option ValueType → Value → Except Error Value
  | none, v => .ok v
  | some type, v => v.convert type

namespace Get

def use : Get → EStateM Error StreamBody (Option Value)
  | reset => fun b => .ok none b.reset
  | read wanted => some <$> StreamBody.read (conversion wanted)

/-- The same with a list of values, where `i` is the number of the next one. -/
def onEntries (vs : List Value) : Get → EStateM Error Nat (Option Value)
  | reset => fun _ => .ok none 0
  | read wanted => fun i =>
    match vs[i]? with
    | none => .error (.shortInput 1 "byte" 0) i
    | some v =>
      match conversion wanted v with
      | .ok v => .ok (some v) (i + 1)
      | .error e => .error e i

end Get

/-! ## Writing -/

/-- Both writers of byte arrays do the same. -/
theorem writeBytes_eq (bytes : List UInt8) : writeBytes bytes = writeValue (.bytes bytes) := by
  rw [writeBytes, Wire.Write.byteArray_eq_value]
  rfl

theorem appends_value (v : Value) : Use.Appends writing (writeValue v) (Wire.encodeValue v) where
  ok bytes encoded out := by
    simp only [writeValue, write, Wire.Write.value, encoded]
    rfl
  error e failed out := by
    simp only [writeValue, write, Wire.Write.value, failed]
    rfl

theorem appends_use (p : Put) : Use.Appends writing p.use p.encoding := by
  have array (bytes : List UInt8) :
      Use.Appends writing (writeBytes bytes) (Wire.encodeValue (.bytes bytes)) := by
    rw [writeBytes_eq]
    exact appends_value _
  cases p with
  | value v => exact appends_value v
  | bytes content => exact array content
  | range buffer offset length => exact Use.Appends.ofExcept _ array

theorem encoding_of_fault {p : Put} {e : Error} (fault : p.fault = some e) :
    p.encoding = .error e := by
  cases p with
  | range buffer offset length => exact Use.bind_of_reason fault _
  | _ => cases fault

theorem use_reading (p : Put) (c : Wire.Cursor) (chunk : Option Chunk) :
    p.use (.reading c chunk) = .error (p.fault.getD .bodyReadOnly) (.reading c chunk) := by
  cases p with
  | range buffer offset length => exact Use.ofExcept_refused _ fun _ => rfl
  | _ => rfl

theorem guarded_use (p : Put) :
    Use.Guarded readOnly p.use p.fault .bodyReadOnly (Use.reason p.encoding) := by
  refine Use.Guarded.of_appends (appends_use p) (fun _ => rfl) (fun e => encoding_of_fault) ?_
  intro b
  cases b with
  | writing out => exact .inl ⟨out, rfl⟩
  | reading c chunk => exact .inr ⟨rfl, use_reading p c chunk⟩

theorem encoding_ok {p : Put} {bytes : List UInt8} (encoded : p.encoding = .ok bytes) :
    Wire.encodeValue p.entry = .ok bytes := by
  cases p with
  | value v => exact encoded
  | bytes content => exact encoded
  | range buffer offset length =>
    rw [Put.encoding, subrange] at encoded
    split at encoded
    · exact encoded
    · cases encoded

theorem encoding_error_iff (p : Put) : (∃ e, p.encoding = .error e) ↔ p.Refused := by
  cases p with
  | value v => exact Wire.encodeValue_error_iff v
  | bytes content => exact Wire.encodeValue_error_iff (.bytes content)
  | range buffer offset length =>
    rw [Put.encoding, subrange, Put.Refused]
    split
    · rename_i inside
      have within : ¬ buffer.length < offset + length := by omega
      rw [or_iff_right within]
      exact Wire.encodeValue_error_iff _
    · rename_i outside
      exact iff_of_true ⟨_, rfl⟩ (.inl (by omega))

/-! ## Reading -/

/-- The body is being read and stands before number `i` of the encoded entries. -/
def StandsAt (segments : List (List UInt8)) (b : StreamBody) (i : Nat) : Prop :=
  ∃ c, b = .reading c none ∧ c.data = segments.flatten ∧ c.rest = (segments.drop i).flatten

theorem standsAt_start (segments : List (List UInt8)) :
    StandsAt segments (.reading (.start segments.flatten) none) 0 := ⟨_, rfl, rfl, rfl⟩

section Reading
variable {vs : List Value} {segments : List (List UInt8)} {b : StreamBody} {i : Nat} {α : Type}

theorem StandsAt.reset (place : StandsAt segments b i) : StandsAt segments b.reset 0 := by
  obtain ⟨c, rfl, data, -⟩ := place
  have start : (StreamBody.reading c none).reset = .reading (.start segments.flatten) none := by
    rw [StreamBody.reset, encode, data]
  rw [start]
  exact standsAt_start segments

/-- Behind the last entry there is nothing to read. -/
theorem StandsAt.read_end (place : StandsAt segments b i) (last : segments.drop i = [])
    (convert : Value → Except Error α) :
    StreamBody.read convert b = .error (.shortInput 1 "byte" 0) b := by
  obtain ⟨c, rfl, -, rest⟩ := place
  rw [last] at rest
  simp only [StreamBody.read, Wire.Read.starves_value c rest]

/-- An entry is read as what it converts to, and is left behind only then. -/
theorem StandsAt.read_entry (place : StandsAt segments b i) {bytes : List UInt8}
    {others : List (List UInt8)} (next : segments.drop i = bytes :: others) {v : Value}
    (encoded : Wire.encodeValue v = .ok bytes) (convert : Value → Except Error α) :
    (∀ a, convert v = .ok a →
      ∃ b', StreamBody.read convert b = .ok a b' ∧ StandsAt segments b' (i + 1)) ∧
    ∀ e, convert v = .error e → StreamBody.read convert b = .error e b := by
  obtain ⟨c, rfl, data, rest⟩ := place
  rw [next, List.flatten_cons] at rest
  have taken := Wire.Read.takes_value encoded c _ rest
  refine ⟨?_, ?_⟩
  · intro a converted
    refine ⟨.reading (c.skip bytes.length) none, ?_, _, rfl, data, ?_⟩
    · simp only [StreamBody.read, taken, converted]
    · rw [← List.tail_drop, next, List.tail_cons, Wire.Cursor.skip_rest, rest, List.drop_left]
  · intro e refused
    simp only [StreamBody.read, taken, refused]

/-- What a read or a turning back does before an entry is what it does with the list. -/
theorem StandsAt.get (encoded : List.Forall₂ (fun v bytes => Wire.encodeValue v = .ok bytes) vs
    segments) (g : Get) (b : StreamBody) (i : Nat) (place : StandsAt segments b i) :
    Use.outcome (g.use b) = Use.outcome (g.onEntries vs i) ∧
      StandsAt segments (Use.left (g.use b)) (Use.left (g.onEntries vs i)) := by
  cases g with
  | reset => exact ⟨rfl, place.reset⟩
  | read wanted =>
    -- the values from the place on and the encodings from there on end together
    have left := List.forall₂_drop i encoded
    simp only [Get.use, Get.onEntries, ← List.head?_drop, Functor.map, EStateM.map]
    cases entries : vs.drop i with
    | nil =>
      rw [entries, List.forall₂_nil_left_iff] at left
      rw [place.read_end left]
      exact ⟨rfl, place⟩
    | cons v others =>
      rw [entries] at left
      cases next : segments.drop i with
      | nil =>
        rw [next] at left
        cases left
      | cons bytes others' =>
        rw [next, List.forall₂_cons] at left
        obtain ⟨ok, error⟩ := place.read_entry next left.1 (conversion wanted)
        cases converted : conversion wanted v with
        | ok v' =>
          obtain ⟨b', read, place'⟩ := ok v' converted
          rw [read]
          simp only [List.head?_cons, converted]
          exact ⟨rfl, place'⟩
        | error e =>
          rw [error e converted]
          simp only [List.head?_cons, converted]
          exact ⟨rfl, place⟩

end Reading

/-- What is written to a new body are the encodings of its entries. -/
theorem exists_segments (puts : List Put) :
    ∃ segments, List.Forall₂ (fun v bytes => Wire.encodeValue v = .ok bytes) (entries puts)
        segments ∧
      Use.after Put.use puts fresh = .writing segments.flatten := by
  obtain ⟨segments, encoded, written⟩ := Use.after_writing appends_use puts []
  refine ⟨segments, ?_, written⟩
  rw [entries, List.forall₂_map_left_iff]
  exact encoded.imp fun p bytes => encoding_ok

theorem conversion_error_kind {wanted : Option ValueType} {v : Value} {e : Error}
    (refused : conversion wanted v = .error e) : e.kind = .format := by
  cases wanted with
  | none => cases refused
  | some type => exact v.convert_fails type e refused

/-- Whatever was written to a new body, turned over to reading or decoded it answers all further
reads as the list of the values written would: the next entry as it is or converted, a format
error for an entry that does not convert, which stays the next one, and the end of the data behind
the last. Only what has no encoding and what lies outside its buffer is refused, and then the body
is as it was. Byte arrays are written alike in all three ways. -/
theorem reads_entries :
    (∀ (puts : List Put) (gets : List Get),
      Use.outcomes Get.use gets (Use.after Put.use puts fresh).reset =
        Use.outcomes (Get.onEntries (entries puts)) gets 0 ∧
      Use.outcomes Get.use gets (decode (some (Use.after Put.use puts fresh).encode)) =
        Use.outcomes (Get.onEntries (entries puts)) gets 0) ∧
    (∀ wanted v e, conversion wanted v = .error e → e.kind = .format) ∧
    (∀ p out, (∃ e b', Put.use p (.writing out) = .error e b') ↔ p.Refused) ∧
    (∀ p b e b', Put.use p b = .error e b' → b' = b) ∧
    (∀ content, writeBytes content = writeValue (.bytes content)) ∧
    ∀ buffer offset length, offset + length ≤ buffer.length →
      writeRange buffer offset length = writeValue (.bytes ((buffer.drop offset).take length)) := by
  refine ⟨?_, ?_, ?_, ?_, writeBytes_eq, ?_⟩
  · intro puts gets
    obtain ⟨segments, encoded, written⟩ := exists_segments puts
    rw [written]
    have same : Use.outcomes Get.use gets (.reading (.start segments.flatten) none) =
        Use.outcomes (Get.onEntries (entries puts)) gets 0 :=
      Use.outcomes_eq (StandsAt.get encoded) (standsAt_start segments)
    exact ⟨same, same⟩
  · intro wanted v e
    exact conversion_error_kind
  · intro p out
    exact ((appends_use p).error_iff out).trans (encoding_error_iff p)
  · intro p b e b'
    exact (guarded_use p).keeps
  · intro buffer offset length inside
    have part : subrange buffer offset length = .ok ((buffer.drop offset).take length) :=
      if_pos inside
    rw [← writeBytes_eq]
    funext b
    exact Use.ofExcept_ok part _ b

/-- A number is read as a longer one but not as a shorter one, and a range that lies outside its
buffer is no entry. -/
theorem reads_entries_mixed :
    (Use.outcomes Get.use
        [.read (some .short), .read (some .long), .read (some .boolean), .read none, .read none,
          .reset, .read none]
        (Use.after Put.use [.value (.int 7), .range [1, 2, 3] 2 5, .value .null, .bytes [9]]
          fresh).reset =
      [.error (.unsupportedConversion .short .int), .ok (some (.long 7)),
        .ok (some (.boolean false)), .ok (some (.bytes [9])), .error (.shortInput 1 "byte" 0),
        .ok none, .ok (some (.int 7))]) ∧
    (Error.unsupportedConversion .short .int).kind = .format ∧
    (∃ e, Put.use (.range [1, 2, 3] 2 5) fresh = .error e fresh) ∧
    writeRange [1, 2, 3] 1 2 = writeValue (.bytes [2, 3]) := by
  obtain ⟨outcomes, kind, refused, kept, -, range⟩ := reads_entries
  obtain ⟨e, b, failed⟩ := (refused (.range [1, 2, 3] 2 5) []).mpr (.inl (by decide))
  refine ⟨(outcomes _ _).1.trans rfl, kind (some .short) (.int 7) _ rfl, ⟨e, ?_⟩,
    range [1, 2, 3] 1 2 (by decide)⟩
  rw [kept _ _ _ _ failed] at failed
  exact failed

end Courier.StreamBody
