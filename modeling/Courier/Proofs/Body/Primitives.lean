import Courier.Body.Bytes
import Courier.Proofs.Body.Uses
import Courier.Proofs.Wire.Advancing
import Mathlib.Algebra.GroupWithZero.Nat
import Mathlib.Data.List.SplitLengths

/-!
# Bytes bodies read back

A bytes body holds the encodings of what was written, with nothing between them. Read by their
types, and bytes through buffers of the right lengths, the values come back in order; then there
is nothing more to read until the body is turned back.
-/

namespace Courier.BytesBody

set_option autoImplicit false

/-- A primitive value to be written by the writer of its type, bytes, or a value of any type. -/
inductive Put
  | boolean (v : Bool)
  | byte (v : Int8)
  | short (v : Int16)
  | char (c : Char)
  | int (v : Int32)
  | long (v : Int64)
  | float (bits : UInt32)
  | double (bits : UInt64)
  | text (s : String)
  | bytes (content : List UInt8)
  | range (buffer : List UInt8) (offset length : Nat)
  | value (v : Value)

namespace Put

def use : Put → EStateM Error BytesBody Unit
  | boolean v => writeBoolean v
  | byte v => writeByte v
  | short v => writeShort v
  | char c => writeChar c
  | int v => writeInt v
  | long v => writeLong v
  | float bits => writeFloat bits
  | double bits => writeDouble bits
  | text s => writeText s
  | bytes content => writeBytes content
  | range buffer offset length => writeRange buffer offset length
  | value v => writeValue v

/-- The value that has been written when the write succeeds. -/
def entry : Put → Value
  | boolean v => .boolean v
  | byte v => .byte v
  | short v => .short v
  | char c => .char c
  | int v => .int v
  | long v => .long v
  | float bits => .float bits
  | double bits => .double bits
  | text s => .string s
  | bytes content => .bytes content
  | range buffer offset length => .bytes ((buffer.drop offset).take length)
  | value v => v

/-- The writer of the type of a value. -/
def typed? : Value → Option Put
  | .null => none
  | .boolean v => some (boolean v)
  | .byte v => some (byte v)
  | .char c => some (char c)
  | .short v => some (short v)
  | .int v => some (int v)
  | .long v => some (long v)
  | .float bits => some (float bits)
  | .double bits => some (double bits)
  | .string s => some (text s)
  | .bytes content => some (bytes content)

end Put

/-- What takes the place of a value in a bytes body. -/
def encodeEntry : Value → Except Error (List UInt8)
  | .null => .error .nullInBytes
  | .bytes content => .ok content
  | v => Wire.encodePayload v

/-- A value that has no place in a bytes body. -/
def Unwritable : Value → Prop
  | .null => True
  | .char c => 0xFFFF < c.toNat
  | .string s => 65535 < (Wire.ModifiedUtf8.encode s).length
  | _ => False

/-- The number of bytes that a value takes in a bytes body. -/
def width : Value → Nat
  | .null => 0
  | .boolean _ | .byte _ => 1
  | .char _ | .short _ => 2
  | .int _ | .float _ => 4
  | .long _ | .double _ => 8
  | .string s => 2 + (Wire.ModifiedUtf8.encode s).length
  | .bytes content => content.length

namespace Put

def encoding : Put → Except Error (List UInt8)
  | range buffer offset length =>
    subrange buffer offset length >>= fun content => encodeEntry (.bytes content)
  | p => encodeEntry p.entry

/-- What is refused before the body is looked at. -/
def fault : Put → Option Error
  | range buffer offset length => Use.reason (subrange buffer offset length)
  | value .null => some .nullInBytes
  | _ => none

def Refused : Put → Prop
  | range buffer offset length => buffer.length < offset + length
  | p => Unwritable p.entry

/-- The put does with its entry what is done with a value of any type. -/
structure Plain (p : Put) : Prop where
  use : p.use = writeValue p.entry
  encoding : p.encoding = encodeEntry p.entry
  refused : p.Refused ↔ Unwritable p.entry

theorem range_or_plain (p : Put) :
    (∃ buffer offset length, p = range buffer offset length) ∨ p.Plain := by
  cases p with
  | range buffer offset length => exact .inl ⟨buffer, offset, length, rfl⟩
  | _ => exact .inr ⟨rfl, rfl, Iff.rfl⟩

theorem use_typed? {v : Value} {p : Put} (h : typed? v = some p) : p.use = writeValue v := by
  cases v with
  | null => cases h
  | _ => cases h; rfl

end Put

/-- The values that writing to a new body leaves in it. -/
def written (puts : List Put) : List Value := (Use.accepted Put.use puts fresh).map Put.entry

/-- The typed reads. -/
inductive Primitive
  | boolean | byte | unsignedByte | short | unsignedShort | char | int | long | float | double
  | text

namespace Primitive

/-- Numbers without a sign are given as an int. -/
def read : Primitive → Wire.Read Value
  | boolean => .boolean <$> Wire.Read.boolean
  | byte => .byte <$> Wire.Read.byte
  | unsignedByte => (fun b => .int (Int32.ofNat b.toNat)) <$> Wire.Read.unsignedByte
  | short => .short <$> Wire.Read.short
  | unsignedShort => (fun n => .int (Int32.ofNat n.toNat)) <$> Wire.Read.unsignedShort
  | char => .char <$> Wire.Read.char
  | int => .int <$> Wire.Read.int
  | long => .long <$> Wire.Read.long
  | float => .float <$> Wire.Read.float
  | double => .double <$> Wire.Read.double
  | text => .string <$> Wire.Read.string

/-- The read of the type of a value. -/
def of? : Value → Option Primitive
  | .null | .bytes _ => none
  | .boolean _ => some boolean
  | .byte _ => some byte
  | .char _ => some char
  | .short _ => some short
  | .int _ => some int
  | .long _ => some long
  | .float _ => some float
  | .double _ => some double
  | .string _ => some text

end Primitive

/-- A typed read, or a read of bytes into a buffer. -/
inductive Get
  | one (type : Primitive)
  | part (buffer : List UInt8)

/-- A value, or the number of bytes read and the buffer with them. -/
inductive Answer
  | value (v : Value)
  | part (count : Option Nat) (buffer : List UInt8)

namespace Get

def use : Get → EStateM Error BytesBody Answer
  | one type => Answer.value <$> BytesBody.read type.read
  | part buffer => (fun part => Answer.part part.1 part.2) <$> readBytes buffer

/-- What the read does with the data. -/
def reader : Get → Wire.Read Answer
  | one type => Answer.value <$> type.read
  | part buffer => (fun part => Answer.part part.1 part.2) <$> Wire.Read.into buffer

end Get

/-- A value to be read back, bytes by way of buffers. -/
structure Fetch where
  value : Value
  buffers : List (List UInt8) := []

namespace Fetch

/-- The buffers hold as many bytes as there are to be read into them. -/
def Exact (f : Fetch) : Prop :=
  ∀ content, f.value = .bytes content → (f.buffers.map List.length).sum = content.length

def gets (f : Fetch) : List Get :=
  match f.value with
  | .bytes _ => f.buffers.map .part
  | v => (Primitive.of? v).toList.map .one

def answers (f : Fetch) : List Answer :=
  match f.value with
  | .bytes content => ((f.buffers.map List.length).splitLengths content).map fun piece =>
    .part (some piece.length) piece
  | v => [.value v]

end Fetch

/-! ## Writing -/

theorem appends_encoded (encoding : Except Error (List UInt8)) :
    Use.Appends writing (write (.encoded encoding)) encoding where
  ok bytes encoded out := by
    subst encoded
    rfl
  error e failed out := by
    subst failed
    rfl

theorem appends_raw (bytes : List UInt8) : Use.Appends writing (write (.raw bytes)) (.ok bytes) :=
  appends_encoded (.ok bytes)

theorem appends_value (v : Value) : Use.Appends writing (writeValue v) (encodeEntry v) := by
  cases v with
  | null =>
    refine ⟨?_, ?_⟩
    · intro bytes encoded
      cases encoded
    · intro e failed out
      cases failed
      rfl
  | char c => exact appends_encoded (Wire.encodeChar c)
  | string s => exact appends_encoded (Wire.encodeString s)
  | _ => exact appends_raw _

theorem appends_use (p : Put) : Use.Appends writing p.use p.encoding := by
  obtain ⟨buffer, offset, length, rfl⟩ | plain := p.range_or_plain
  · exact Use.Appends.ofExcept _ fun content => appends_raw content
  · rw [plain.use, plain.encoding]
    exact appends_value p.entry

theorem encoding_of_fault {p : Put} {e : Error} (fault : p.fault = some e) :
    p.encoding = .error e := by
  cases p with
  | range buffer offset length => exact Use.bind_of_reason fault _
  | value v =>
    cases v with
    | null => cases fault; rfl
    | _ => cases fault
  | _ => cases fault

theorem use_reading (p : Put) (c : Wire.Cursor) :
    p.use (.reading c) = .error (p.fault.getD .bodyReadOnly) (.reading c) := by
  cases p with
  | range buffer offset length => exact Use.ofExcept_refused _ fun _ => rfl
  | value v => cases v <;> rfl
  | _ => rfl

theorem guarded_use (p : Put) :
    Use.Guarded readOnly p.use p.fault .bodyReadOnly (Use.reason p.encoding) := by
  refine Use.Guarded.of_appends (appends_use p) (fun _ => rfl) (fun e => encoding_of_fault) ?_
  intro b
  cases b with
  | writing out => exact .inl ⟨out, rfl⟩
  | reading c => exact .inr ⟨rfl, use_reading p c⟩

theorem encoding_ok {p : Put} {bytes : List UInt8} (encoded : p.encoding = .ok bytes) :
    encodeEntry p.entry = .ok bytes := by
  obtain ⟨buffer, offset, length, rfl⟩ | plain := p.range_or_plain
  · rw [Put.encoding, subrange] at encoded
    split at encoded
    · exact encoded
    · cases encoded
  · rwa [← plain.encoding]

theorem encodeEntry_error_iff (v : Value) : (∃ e, encodeEntry v = .error e) ↔ Unwritable v := by
  cases v with
  | char c => exact Wire.encodeChar_error_iff c
  | string s => exact Wire.encodeString_error_iff s
  | _ => simp [encodeEntry, Unwritable, Wire.encodePayload]

theorem encoding_error_iff (p : Put) : (∃ e, p.encoding = .error e) ↔ p.Refused := by
  obtain ⟨buffer, offset, length, rfl⟩ | plain := p.range_or_plain
  · rw [Put.encoding, subrange, Put.Refused]
    split
    · refine iff_of_false ?_ (by omega)
      rintro ⟨e, failed⟩
      cases failed
    · exact iff_of_true ⟨_, rfl⟩ (by omega)
  · rw [plain.encoding, plain.refused]
    exact encodeEntry_error_iff p.entry

theorem length_encodeEntry {v : Value} {bytes : List UInt8} (encoded : encodeEntry v = .ok bytes) :
    bytes.length = width v := by
  cases v with
  | null => cases encoded
  | char c =>
    simp only [encodeEntry, Wire.encodePayload, Wire.encodeChar] at encoded
    split at encoded
    · cases encoded
      exact Wire.BigEndian.length_encode 2 _
    · cases encoded
  | string s =>
    simp only [encodeEntry, Wire.encodePayload, Wire.encodeString] at encoded
    split at encoded
    · cases encoded
      rw [List.length_append, Wire.BigEndian.length_encode, width]
    · cases encoded
  | bytes content =>
    cases encoded
    rfl
  | _ =>
    cases encoded
    exact Wire.BigEndian.length_encode _ _

/-- What is written to a new body are the encodings of the values written. -/
theorem exists_segments (puts : List Put) :
    ∃ segments, List.Forall₂ (fun v bytes => encodeEntry v = .ok bytes) (written puts) segments ∧
      Use.after Put.use puts fresh = .writing segments.flatten := by
  obtain ⟨segments, encoded, after⟩ := Use.after_writing appends_use puts []
  refine ⟨segments, ?_, after⟩
  rw [written, List.forall₂_map_left_iff]
  exact encoded.imp fun p bytes => encoding_ok

theorem length_segments {vs : List Value} {segments : List (List UInt8)}
    (encoded : List.Forall₂ (fun v bytes => encodeEntry v = .ok bytes) vs segments) :
    segments.flatten.length = (vs.map width).sum := by
  induction encoded with
  | nil => rfl
  | cons head _ ih =>
    rw [List.flatten_cons, List.length_append, ih, length_encodeEntry head, List.map_cons,
      List.sum_cons]

/-! ## Reading -/

theorem Primitive.advances (type : Primitive) : type.read.Advances 1 := by
  cases type with
  | boolean => exact ((Wire.Read.advances_number 1 "boolean").map _).map _
  | byte => exact ((Wire.Read.advances_number 1 "byte").map _).map _
  | unsignedByte => exact ((Wire.Read.advances_number 1 "byte").map _).map _
  | short => exact (((Wire.Read.advances_number 2 "short").map _).map _).mono (by decide)
  | unsignedShort =>
    exact (((Wire.Read.advances_number 2 "unsigned short").map _).map _).mono (by decide)
  | char => exact (Wire.Read.advances_char.map _).mono (by decide)
  | int => exact (Wire.Read.advances_int.map _).mono (by decide)
  | long => exact (((Wire.Read.advances_number 8 "long").map _).map _).mono (by decide)
  | float => exact (((Wire.Read.advances_number 4 "float").map _).map _).mono (by decide)
  | double => exact (((Wire.Read.advances_number 8 "double").map _).map _).mono (by decide)
  | text => exact (Wire.Read.advances_string.map _).mono (by decide)

theorem Primitive.starves (type : Primitive) :
    ∃ e, type.read.Starves e ∧ e.kind = .endOfMessage := by
  have number {n : Nat} (what : String) (h : 0 < n) {α : Type} (f : Nat → α) (g : α → Value) :
      ∃ e, (g <$> (f <$> Wire.Read.number n what)).Starves e ∧ e.kind = .endOfMessage :=
    ⟨_, ((Wire.Read.starves_number what h).map f).map g, rfl⟩
  cases type with
  | boolean => exact number "boolean" (by decide) _ _
  | byte => exact number "byte" (by decide) _ _
  | unsignedByte => exact number "byte" (by decide) _ _
  | short => exact number "short" (by decide) _ _
  | unsignedShort => exact number "unsigned short" (by decide) _ _
  | char => exact ⟨_, ((Wire.Read.starves_number "char" (by decide)).bind _).map _, rfl⟩
  | int => exact number "int" (by decide) _ _
  | long => exact number "long" (by decide) _ _
  | float => exact number "float" (by decide) _ _
  | double => exact number "double" (by decide) _ _
  | text => exact ⟨_, Wire.Read.starves_string.map _, rfl⟩

/-- The read of the type of a value takes what was written for it. -/
theorem Primitive.takes {v : Value} {type : Primitive} (h : of? v = some type) {bytes : List UInt8}
    (encoded : encodeEntry v = .ok bytes) : type.read.Takes bytes v := by
  cases v with
  | null | bytes _ => cases h
  | char c => cases h; exact (Wire.Read.takes_char encoded).map _
  | string s => cases h; exact (Wire.Read.takes_string encoded).map _
  | boolean v => cases h; cases encoded; exact (Wire.Read.takes_boolean v).map _
  | byte v => cases h; cases encoded; exact (Wire.Read.takes_byte v).map _
  | short v => cases h; cases encoded; exact (Wire.Read.takes_short v).map _
  | int v => cases h; cases encoded; exact (Wire.Read.takes_int v).map _
  | long v => cases h; cases encoded; exact (Wire.Read.takes_long v).map _
  | float bits => cases h; cases encoded; exact (Wire.Read.takes_float bits).map _
  | double bits => cases h; cases encoded; exact (Wire.Read.takes_double bits).map _

theorem map_read {α β : Type} (f : α → β) (r : Wire.Read α) : f <$> read r = read (f <$> r) := by
  funext b
  cases b with
  | writing out => rfl
  | reading c =>
    simp only [Functor.map, EStateM.map, read]
    cases r c <;> rfl

theorem Get.use_eq (g : Get) : g.use = read g.reader := by
  cases g with
  | one type => exact map_read _ _
  | part buffer => exact map_read _ _

theorem Get.advances (g : Get) : g.reader.Advances 0 := by
  cases g with
  | one type => exact (type.advances.map _).mono (Nat.zero_le 1)
  | part buffer => exact (Wire.Read.advances_into buffer).map _

theorem read_takes {α : Type} {r : Wire.Read α} {bytes : List UInt8} {a : α}
    (taken : r.Takes bytes a) (c : Wire.Cursor) (rest : List UInt8) (h : c.rest = bytes ++ rest) :
    read r (.reading c) = .ok a (.reading (c.skip bytes.length)) := by
  simp only [read, taken c rest h]

/-- Reading keeps the data and goes on being reading. -/
theorem read_data {α : Type} {r : Wire.Read α} {k : Nat} (advances : r.Advances k)
    (c : Wire.Cursor) : ∃ c', Use.left (read r (.reading c)) = .reading c' ∧ c'.data = c.data := by
  cases result : r c with
  | ok a c' => exact ⟨c', by simp only [read, result]; rfl, advances.data result⟩
  | error e c' => exact ⟨c, by simp only [read, result]; rfl, rfl⟩

/-- Wherever `bytes` come next, the reads return the answers and end behind the bytes. -/
def Serves (gets : List Get) (bytes : List UInt8) (answers : List Answer) : Prop :=
  ∀ (c : Wire.Cursor) (rest : List UInt8), c.rest = bytes ++ rest →
    Use.outcomes Get.use gets (.reading c) = answers.map .ok ∧
      Use.after Get.use gets (.reading c) = .reading (c.skip bytes.length)

section Serving
variable {gets gets' : List Get} {bytes bytes' : List UInt8} {answers answers' : List Answer}

theorem Serves.nothing : Serves [] [] [] := fun _ _ _ => ⟨rfl, rfl⟩

theorem Serves.single {g : Get} {a : Answer} (taken : g.reader.Takes bytes a) :
    Serves [g] bytes [a] := by
  intro c rest h
  have got : g.use (.reading c) = .ok a (.reading (c.skip bytes.length)) := by
    rw [g.use_eq]
    exact read_takes taken c rest h
  exact ⟨Use.outcomes_ok got, Use.after_ok got⟩

theorem Serves.append (first : Serves gets bytes answers) (second : Serves gets' bytes' answers') :
    Serves (gets ++ gets') (bytes ++ bytes') (answers ++ answers') := by
  intro c rest h
  rw [List.append_assoc] at h
  have behind : (c.skip bytes.length).rest = bytes' ++ rest := by
    rw [Wire.Cursor.skip_rest, h, List.drop_left]
  obtain ⟨outcomes, after⟩ := first c (bytes' ++ rest) h
  obtain ⟨outcomes', after'⟩ := second (c.skip bytes.length) rest behind
  refine ⟨?_, ?_⟩
  · rw [Use.outcomes_append, outcomes, after, outcomes', List.map_append]
  · rw [Use.after_append, after, after', Wire.Cursor.skip_skip, List.length_append]

/-- Buffers for all of some bytes get them piece by piece. -/
theorem serves_parts (buffers : List (List UInt8)) (content : List UInt8)
    (exact : (buffers.map List.length).sum = content.length) :
    Serves (buffers.map .part) content
      (((buffers.map List.length).splitLengths content).map fun piece =>
        .part (some piece.length) piece) := by
  induction buffers generalizing content with
  | nil =>
    rw [List.map_nil, List.sum_nil, eq_comm, List.length_eq_zero_iff] at exact
    subst exact
    exact Serves.nothing
  | cons buffer buffers ih =>
    rw [List.map_cons, List.sum_cons] at exact
    have fits : (content.take buffer.length).length = buffer.length := by
      rw [List.length_take]
      omega
    have others := ih (content.drop buffer.length) (by rw [List.length_drop]; omega)
    -- the first buffer is filled, since no more than the content is asked for
    have first : Serves [.part buffer] (content.take buffer.length)
        [.part (some (content.take buffer.length).length) (content.take buffer.length)] :=
      Serves.single ((Wire.Read.takes_into fits).map _)
    have both := first.append others
    rw [List.take_append_drop] at both
    rw [List.map_cons, List.map_cons (f := List.length), List.splitLengths_cons]
    exact both

theorem Fetch.serves {f : Fetch} (exact : f.Exact) (encoded : encodeEntry f.value = .ok bytes) :
    Serves f.gets bytes f.answers := by
  obtain ⟨v, buffers⟩ := f
  have scalar {type : Primitive} (h : Primitive.of? v = some type) :
      Serves [.one type] bytes [.value v] :=
    Serves.single ((type.takes h encoded).map _)
  cases v with
  | null => cases encoded
  | bytes content =>
    cases encoded
    exact serves_parts buffers bytes (exact bytes rfl)
  | _ => exact scalar rfl

theorem serves_all {fetches : List Fetch} {segments : List (List UInt8)}
    (exact : ∀ f ∈ fetches, f.Exact)
    (encoded : List.Forall₂ (fun f bytes => encodeEntry f.value = .ok bytes) fetches segments) :
    Serves (fetches.flatMap Fetch.gets) segments.flatten (fetches.flatMap Fetch.answers) := by
  induction encoded with
  | nil => exact Serves.nothing
  | @cons f bytes fetches segments head _ ih =>
    have first := Fetch.serves (exact f List.mem_cons_self) head
    exact first.append (ih fun g hg => exact g (List.mem_cons_of_mem f hg))

end Serving

theorem Get.use_data (g : Get) (c : Wire.Cursor) :
    ∃ c', Use.left (g.use (.reading c)) = .reading c' ∧ c'.data = c.data := by
  rw [g.use_eq]
  exact read_data g.advances c

/-- However much is read, turning back finds the same data. -/
theorem reset_after (gets : List Get) (c : Wire.Cursor) :
    (Use.after Get.use gets (.reading c)).reset = (BytesBody.reading c).reset := by
  -- reads move, but over the same data
  have keeps : ∃ c', Use.after Get.use gets (.reading c) = .reading c' ∧ c'.data = c.data := by
    refine Use.after_induct (P := fun b => ∃ c', b = BytesBody.reading c' ∧ c'.data = c.data) ?_
      ⟨c, rfl, rfl⟩
    rintro g b ⟨c', rfl, data⟩
    obtain ⟨c'', left, data'⟩ := g.use_data c'
    exact ⟨c'', left, data'.trans data⟩
  obtain ⟨c', after, data⟩ := keeps
  simp only [after, reset, encode, data]

theorem use_end (type : Primitive) : ∃ e, e.kind = .endOfMessage ∧
    ∀ c : Wire.Cursor, c.rest = [] → (Get.one type).use (.reading c) = .error e (.reading c) := by
  obtain ⟨e, starves, kind⟩ := type.starves
  refine ⟨e, kind, ?_⟩
  intro c none
  simp only [Get.use, Functor.map, EStateM.map, read, starves c none]

/-- Whatever was written to a new body, turned over to reading it gives the values written back in
order, each by the read of its type and bytes through any buffers that hold them exactly; every
typed read after that is at the end of the data, and turning back begins anew, whatever was read.
The length is that of the values. Only null, what is too large for its field and what lies outside
its buffer is refused, and then the body is as it was. A value is written as by the writer of its
type. -/
theorem reads_back :
    (∀ (puts : List Put) (fetches : List Fetch), fetches.map Fetch.value = written puts →
      (∀ f ∈ fetches, f.Exact) → ∀ type, ∃ e, e.kind = .endOfMessage ∧
        Use.outcomes Get.use (fetches.flatMap Fetch.gets ++ [.one type])
          (Use.after Put.use puts fresh).reset =
            (fetches.flatMap Fetch.answers).map .ok ++ [.error e]) ∧
    (∀ puts, (Use.after Put.use puts fresh).reset.length = .ok ((written puts).map width).sum) ∧
    (∀ puts gets, (Use.after Get.use gets (Use.after Put.use puts fresh).reset).reset =
      (Use.after Put.use puts fresh).reset) ∧
    (∀ p out, (∃ e b', Put.use p (.writing out) = .error e b') ↔ p.Refused) ∧
    (∀ p b e b', Put.use p b = .error e b' → b' = b) ∧
    ∀ v p, Put.typed? v = some p → writeValue v = p.use := by
  refine ⟨?_, ?_, ?_, ?_, ?_, ?_⟩
  · intro puts fetches values exact type
    obtain ⟨segments, encoded, after⟩ := exists_segments puts
    rw [← values, List.forall₂_map_left_iff] at encoded
    have start : (Wire.Cursor.start segments.flatten).rest = segments.flatten ++ [] :=
      (List.append_nil _).symm
    obtain ⟨outcomes, ended⟩ := serves_all exact encoded (.start segments.flatten) [] start
    obtain ⟨e, kind, last⟩ := use_end type
    refine ⟨e, kind, ?_⟩
    have none : ((Wire.Cursor.start segments.flatten).skip segments.flatten.length).rest = [] :=
      List.drop_length
    rw [after, reset, encode, Use.outcomes_append, outcomes, ended, Use.outcomes, last _ none]
    rfl
  · intro puts
    obtain ⟨segments, encoded, after⟩ := exists_segments puts
    rw [after, ← length_segments encoded]
    rfl
  · intro puts gets
    exact reset_after gets _
  · intro p out
    exact ((appends_use p).error_iff out).trans (encoding_error_iff p)
  · intro p b e b'
    exact (guarded_use p).keeps
  · intro v p h
    exact (Put.use_typed? h).symm

/-- Five bytes come back through buffers for two, none and three, between two numbers. -/
theorem reads_back_parts :
    (∃ e, e.kind = .endOfMessage ∧ Use.outcomes Get.use
        [.one .short, .part [0, 0], .part [], .part [0, 0, 0], .one .char, .one .text]
        (Use.after Put.use
          [.short 258, .value .null, .range [9, 1, 2, 3, 4, 5] 1 5, .value (.char 'A')]
          fresh).reset =
      [.ok (.value (.short 258)), .ok (.part (some 2) [1, 2]), .ok (.part (some 0) []),
        .ok (.part (some 3) [3, 4, 5]), .ok (.value (.char 'A')), .error e]) ∧
    (∃ e, Put.use (.value .null) fresh = .error e fresh) ∧
    writeValue (.int 1) = writeInt 1 := by
  obtain ⟨back, -, -, refused, kept, typed⟩ := reads_back
  obtain ⟨e, b, failed⟩ := (refused (.value .null) []).mpr trivial
  refine ⟨?_, ⟨e, ?_⟩, typed (.int 1) (.int 1) rfl⟩
  · refine back [.short 258, .value .null, .range [9, 1, 2, 3, 4, 5] 1 5, .value (.char 'A')]
      [⟨.short 258, []⟩, ⟨.bytes [1, 2, 3, 4, 5], [[0, 0], [], [0, 0, 0]]⟩, ⟨.char 'A', []⟩]
      rfl ?_ .text
    intro f mem content h
    simp only [List.mem_cons, List.not_mem_nil, or_false] at mem
    obtain rfl | rfl | rfl := mem
    · cases h
    · cases h
      rfl
    · cases h
  · rw [kept _ _ _ _ failed] at failed
    exact failed

end Courier.BytesBody
