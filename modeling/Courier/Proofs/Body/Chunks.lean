import Courier.Body.Stream
import Courier.Proofs.Body.Uses
import Courier.Proofs.Wire.Reading
import Mathlib.Algebra.GroupWithZero.Nat
import Mathlib.Data.List.Induction

/-!
# Byte arrays in chunks

Buffers of any lengths, empty ones included, take a byte array out of a stream body piece by piece,
until the end of it is reported. Meanwhile nothing else can be read. What is left of the array may
also be kept as the whole of it with an offset; then no index and no difference is out of range.
-/

namespace Courier.StreamBody

set_option autoImplicit false

/-- The body is being read and stands before `v`, with `next` behind it. -/
def Faces (b : StreamBody) (v : Value) (next : StreamBody) : Prop :=
  ∃ c c', b = .reading c none ∧ Wire.Read.value c = .ok v c' ∧ next = .reading c' none

/-- A body stands before a value when the encoding of it comes next, whatever follows. -/
theorem faces_encoded {v : Value} {bytes rest : List UInt8} {c : Wire.Cursor}
    (encoded : Wire.encodeValue v = .ok bytes) (ahead : c.rest = bytes ++ rest) :
    Faces (.reading c none) v (.reading (c.skip bytes.length) none) :=
  ⟨c, _, rfl, Wire.Read.takes_value encoded c rest ahead, rfl⟩

/-- The bytes that buffers have room for. -/
def room (buffers : List (List UInt8)) : Nat := (buffers.map List.length).sum

theorem room_append (buffers : List (List UInt8)) (buffer : List UInt8) :
    room (buffers ++ [buffer]) = room buffers + buffer.length := by
  simp [room]

/-- What a call has copied to the front of its buffer. -/
def copied : Except Error (Option Nat × List UInt8) → List UInt8
  | .ok (some n, buffer) => buffer.take n
  | _ => []

theorem copied_part {rest buffer : List UInt8} {n : Nat}
    (count : n = min buffer.length rest.length) :
    copied (.ok (some n, rest.take n ++ buffer.drop n)) = rest.take buffer.length := by
  have length : (rest.take n).length = n := by
    rw [List.length_take]
    omega
  rw [copied, List.take_left' length, count, ← List.take_eq_take_min]

/-! ## One call after the other -/

/-- Unless the end is to be reported, as much is handed out as there is and as fits. -/
theorem handOut_part (chunk : Chunk) (more : ¬ (chunk.started = true ∧ chunk.rest = []))
    (c : Wire.Cursor) (buffer : List UInt8) {n : Nat}
    (count : n = min buffer.length chunk.rest.length) :
    handOut c chunk buffer = ((some n, chunk.rest.take n ++ buffer.drop n),
      .reading c (some ⟨chunk.rest.drop buffer.length, true⟩)) := by
  have part : chunk.rest.take buffer.length = chunk.rest.take n := by
    rw [count, ← List.take_eq_take_min]
  have length : (chunk.rest.take buffer.length).length = n := by rw [List.length_take, count]
  have behind : chunk.rest.drop n = chunk.rest.drop buffer.length := by
    rw [count, ← List.drop_eq_drop_min]
  have unfinished : (chunk.started && chunk.rest.isEmpty) = false := by
    simpa [Bool.and_eq_false_iff, or_iff_not_imp_left] using more
  simp only [handOut, unfinished, Bool.false_eq_true, if_false, length, behind]
  rw [part]

section Array
variable {c c' : Wire.Cursor} {content : List UInt8} {buffers : List (List UInt8)}

/-- How far the buffers have taken the array that is read at `c`, with `c'` behind it. -/
def stage (c c' : Wire.Cursor) (content : List UInt8) : List (List UInt8) → StreamBody
  | [] => .reading c none
  | buffer :: buffers =>
    .reading c' (some ⟨content.drop (room (buffer :: buffers)), true⟩)

theorem stage_append (buffers : List (List UInt8)) (buffer : List UInt8) :
    stage c c' content (buffers ++ [buffer]) =
      .reading c' (some ⟨(content.drop (room buffers)).drop buffer.length, true⟩) := by
  rw [List.drop_drop, ← room_append]
  cases buffers <;> rfl

/-- The end is reported to the first buffer, but for the very first, that finds nothing left. -/
theorem readBytes_end (buffers_ne : buffers ≠ []) (all : content.length ≤ room buffers)
    (buffer : List UInt8) :
    readBytes buffer (stage c c' content buffers) = .ok (none, buffer) (.reading c' none) := by
  cases buffers with
  | nil => exact absurd rfl buffers_ne
  | cons first buffers =>
    simp [stage, readBytes, handOut, List.drop_eq_nil_iff.mpr all]

theorem readBytes_part (array : Wire.Read.value c = .ok (.bytes content) c')
    (more : ¬ (buffers ≠ [] ∧ content.length ≤ room buffers)) (buffer : List UInt8) {n : Nat}
    (count : n = min buffer.length (content.length - room buffers)) :
    readBytes buffer (stage c c' content buffers) =
      .ok (some n, (content.drop (room buffers)).take n ++ buffer.drop n)
        (stage c c' content (buffers ++ [buffer])) := by
  rw [← List.length_drop] at count
  cases buffers with
  | nil =>
    have part := handOut_part ⟨content, false⟩ (fun h => Bool.false_ne_true h.1) c' buffer count
    simp only [stage, readBytes, array, part]
    rfl
  | cons first buffers =>
    have left : content.drop (room (first :: buffers)) ≠ [] := by
      rw [Ne, List.drop_eq_nil_iff]
      exact fun all => more ⟨List.cons_ne_nil _ _, all⟩
    have part := handOut_part ⟨content.drop (room (first :: buffers)), true⟩ (fun h => left h.2) c'
      buffer count
    rw [stage_append]
    simp only [stage, readBytes, part]

/-- As long as no end was reported the pieces are the front of the array, and the body has been
taken that far. -/
theorem after_parts (array : Wire.Read.value c = .ok (.bytes content) c')
    (handed : ∀ buffer, .ok (none, buffer) ∉ Use.outcomes readBytes buffers (.reading c none)) :
    (Use.outcomes readBytes buffers (.reading c none)).flatMap copied =
        content.take (room buffers) ∧
      Use.after readBytes buffers (.reading c none) = stage c c' content buffers := by
  -- the last call finds what the earlier ones have left, so the induction is from that end
  induction buffers using List.reverseRecOn with
  | nil => exact ⟨rfl, rfl⟩
  | append_singleton buffers buffer ih =>
    rw [Use.outcomes_append] at handed ⊢
    obtain ⟨pieces, taken⟩ := ih fun buffer mem => handed buffer (List.mem_append_left _ mem)
    rw [Use.after_append, taken]
    rw [taken] at handed
    by_cases all : buffers ≠ [] ∧ content.length ≤ room buffers
    · refine absurd (List.mem_append_right _ ?_) (handed buffer)
      rw [Use.outcomes_ok (readBytes_end all.1 all.2 buffer)]
      exact List.mem_cons_self
    · have part := readBytes_part array all buffer rfl
      rw [Use.outcomes_ok part, Use.after_ok part, List.flatMap_append, pieces]
      refine ⟨?_, rfl⟩
      rw [List.flatMap_cons, Use.outcomes, List.flatMap_nil, List.append_nil,
        copied_part (by rw [List.length_drop]), room_append, List.take_add]

end Array

/-- An array in progress is in the way of every other read. -/
theorem read_in_progress {α : Type} (convert : Value → Except Error α) (c c' : Wire.Cursor)
    (content : List UInt8) {buffers : List (List UInt8)} (begun : buffers ≠ []) :
    read convert (stage c c' content buffers) =
      .error .arrayReadInProgress (stage c c' content buffers) := by
  cases buffers with
  | nil => exact absurd rfl begun
  | cons first buffers => rfl

theorem readBytes_null {c c' : Wire.Cursor} (null : Wire.Read.value c = .ok .null c')
    (buffer : List UInt8) :
    readBytes buffer (.reading c none) = .ok (none, buffer) (.reading c' none) := by
  simp only [readBytes, null]

theorem readBytes_other {c c' : Wire.Cursor} {v : Value} (other : Wire.Read.value c = .ok v c')
    (set : v ≠ .null) (unlike : ∀ content, v ≠ .bytes content) (buffer : List UInt8) :
    readBytes buffer (.reading c none) = .error (.notArrayEntry v.type) (.reading c none) := by
  cases v with
  | null => exact absurd rfl set
  | bytes content => exact absurd rfl (unlike content)
  | _ => simp only [readBytes, other]

/-! ## With an offset -/

/-- A byte array being handed out: the whole of it, and where the next part starts. -/
structure Progress where
  content : List UInt8
  offset : Nat
  started : Bool

/-- A difference of indices, unless it would be negative. -/
def minus? (last first : Nat) : Option Nat := if first ≤ last then some (last - first) else none

/-- The bytes from one index up to another, unless there are no such bytes. -/
def slice? (bytes : List UInt8) (first last : Nat) : Option (List UInt8) := do
  let length ← minus? last first
  if last ≤ bytes.length then some ((bytes.drop first).take length) else none

/-- A buffer whose first `n` bytes are replaced, unless there are not as many of both. -/
def overwrite? (buffer : List UInt8) (n : Nat) (bytes : List UInt8) : Option (List UInt8) := do
  let front ← slice? buffer 0 n
  if front.length = bytes.length then some (bytes ++ buffer.drop n) else none

namespace Progress

/-- What is left of the array. -/
def chunk (p : Progress) : Chunk := ⟨p.content.drop p.offset, p.started⟩

/-- The next part is found by its indices; none of them may be out of range. -/
def handOut? (p : Progress) (buffer : List UInt8) :
    Option ((Option Nat × List UInt8) × Option Progress) := do
  let remaining ← minus? p.content.length p.offset
  if remaining = 0 ∧ p.started = true then return ((none, buffer), none)
  let n := min remaining buffer.length
  let part ← slice? p.content p.offset (p.offset + n)
  let filled ← overwrite? buffer n part
  return ((some n, filled), some ⟨p.content, p.offset + n, true⟩)

end Progress

/-- A body that is being read, with an offset in the array in progress. -/
structure Desk where
  cursor : Wire.Cursor
  progress : Option Progress

namespace Desk

def body (d : Desk) : StreamBody := .reading d.cursor (d.progress.map Progress.chunk)

/-- The offset is not behind the end of its array. -/
def Inside (d : Desk) : Prop := ∀ p, d.progress = some p → p.offset ≤ p.content.length

def handOut? (cursor : Wire.Cursor) (p : Progress) (buffer : List UInt8) :
    Option (EStateM.Result Error Desk (Option Nat × List UInt8)) := do
  let (part, progress) ← p.handOut? buffer
  return .ok part ⟨cursor, progress⟩

/-- A call of `readBytes`; `none` when an index or a difference is out of range. -/
def readBytes? (buffer : List UInt8) :
    Desk → Option (EStateM.Result Error Desk (Option Nat × List UInt8))
  | ⟨c, some p⟩ => handOut? c p buffer
  | ⟨c, none⟩ =>
    match Wire.Read.value c with
    | .error e _ => some (.error e ⟨c, none⟩)
    | .ok .null c' => some (.ok (none, buffer) ⟨c', none⟩)
    | .ok (.bytes content) c' => handOut? c' ⟨content, 0, false⟩ buffer
    | .ok v _ => some (.error (.notArrayEntry v.type) ⟨c, none⟩)

/-- A series of calls: what they return and what they leave behind. -/
def series? : List (List UInt8) → Desk →
    Option (List (Except Error (Option Nat × List UInt8)) × Desk)
  | [], d => some ([], d)
  | buffer :: buffers, d => do
    let result ← readBytes? buffer d
    let (outcomes, last) ← series? buffers (Use.left result)
    return (Use.outcome result :: outcomes, last)

end Desk

theorem minus?_le {first last : Nat} (h : first ≤ last) : minus? last first = some (last - first) :=
  if_pos h

theorem slice?_inside (bytes : List UInt8) (first n : Nat) (h : first + n ≤ bytes.length) :
    slice? bytes first (first + n) = some ((bytes.drop first).take n) := by
  rw [slice?, minus?_le (Nat.le_add_right first n), Nat.add_sub_cancel_left]
  exact if_pos h

theorem overwrite?_fits (buffer bytes : List UInt8) (h : bytes.length ≤ buffer.length) :
    overwrite? buffer bytes.length bytes = some (bytes ++ buffer.drop bytes.length) := by
  have front := slice?_inside buffer 0 bytes.length (by omega)
  rw [Nat.zero_add, List.drop_zero] at front
  rw [overwrite?, front]
  exact if_pos (by rw [List.length_take, Nat.min_eq_left h])

/-- Inside its array an offset stays inside, and it finds the part that comes next in what is
left. -/
theorem Progress.handOut?_inside {p : Progress} (inside : p.offset ≤ p.content.length)
    (c : Wire.Cursor) (buffer : List UInt8) :
    ∃ part progress, p.handOut? buffer = some (part, progress) ∧ Desk.Inside ⟨c, progress⟩ ∧
      handOut c p.chunk buffer = (part, Desk.body ⟨c, progress⟩) := by
  have left : p.chunk.rest.length = p.content.length - p.offset := List.length_drop
  by_cases finished : p.content.length - p.offset = 0 ∧ p.started = true
  · refine ⟨(none, buffer), none, ?_, ?_, ?_⟩
    · rw [handOut?, minus?_le inside]
      exact if_pos finished
    · intro q none
      cases none
    · have empty : p.chunk.rest = [] := List.length_eq_zero_iff.mp (left.trans finished.1)
      have started : p.chunk.started = true := finished.2
      simp only [handOut, empty, started]
      rfl
  · let n := min (p.content.length - p.offset) buffer.length
    have within : p.offset + n ≤ p.content.length := by omega
    have count : ((p.content.drop p.offset).take n).length = n := by
      rw [List.length_take, List.length_drop]
      omega
    have filled := overwrite?_fits buffer ((p.content.drop p.offset).take n) (by omega)
    rw [count] at filled
    refine ⟨(some n, (p.content.drop p.offset).take n ++ buffer.drop n),
      some ⟨p.content, p.offset + n, true⟩, ?_, ?_, ?_⟩
    · simp only [handOut?, minus?_le inside, Option.bind_eq_bind, Option.bind_some,
        if_neg finished, slice?_inside _ _ _ within, filled, n]
      rfl
    · intro q same
      cases same
      exact within
    · have more : ¬ (p.chunk.started = true ∧ p.chunk.rest = []) := by
        intro ended
        exact finished ⟨left.symm.trans (List.length_eq_zero_iff.mpr ended.2), ended.1⟩
      have behind : p.chunk.rest.drop buffer.length = p.content.drop (p.offset + n) := by
        rw [List.drop_eq_drop_min, left, Nat.min_comm]
        exact List.drop_drop
      rw [handOut_part p.chunk more c buffer (n := n) (by omega), behind]
      rfl

namespace Desk

/-- A call with an offset returns what the call without it returns and leaves what it leaves. -/
structure Follows (d : Desk) (buffer : List UInt8)
    (result : EStateM.Result Error Desk (Option Nat × List UInt8)) : Prop where
  outcome : Use.outcome result = Use.outcome (readBytes buffer d.body)
  body : (Use.left result).body = Use.left (readBytes buffer d.body)
  inside : (Use.left result).Inside

theorem inside_none (c : Wire.Cursor) : Inside ⟨c, none⟩ := by
  intro p none
  cases none

theorem handOut?_inside {p : Progress} (inside : p.offset ≤ p.content.length) (c : Wire.Cursor)
    {d : Desk} {buffer : List UInt8}
    (next : readBytes buffer d.body =
      .ok (StreamBody.handOut c p.chunk buffer).1 (StreamBody.handOut c p.chunk buffer).2) :
    ∃ result, handOut? c p buffer = some result ∧ Follows d buffer result := by
  obtain ⟨part, progress, out, inside', same⟩ := p.handOut?_inside inside c buffer
  refine ⟨.ok part ⟨c, progress⟩, ?_, ?_⟩
  · rw [handOut?, out]
    rfl
  · rw [same] at next
    exact ⟨by rw [next]; rfl, by rw [next]; rfl, inside'⟩

/-- Whatever comes next in the body, a call finds all its indices in range. -/
theorem readBytes?_inside {d : Desk} (inside : d.Inside) (buffer : List UInt8) :
    ∃ result, readBytes? buffer d = some result ∧ Follows d buffer result := by
  obtain ⟨c, progress⟩ := d
  cases progress with
  | some p => exact handOut?_inside (inside p rfl) c rfl
  | none =>
    have body : Desk.body ⟨c, none⟩ = .reading c none := rfl
    have stays {e : Error} (failed : readBytes buffer (.reading c none) =
        .error e (.reading c none)) : Follows ⟨c, none⟩ buffer (.error e ⟨c, none⟩) := by
      refine ⟨?_, ?_, inside_none c⟩
      all_goals rw [body, failed]; rfl
    cases result : Wire.Read.value c with
    | error e c' =>
      refine ⟨.error e ⟨c, none⟩, by simp only [readBytes?, result], stays ?_⟩
      simp only [readBytes, result]
    | ok v c' =>
      cases v with
      | null =>
        refine ⟨.ok (none, buffer) ⟨c', none⟩, by simp only [readBytes?, result], ?_, ?_,
          inside_none c'⟩
        all_goals rw [body, readBytes_null result]; rfl
      | bytes content =>
        simp only [readBytes?, result]
        refine handOut?_inside (Nat.zero_le _) c' ?_
        rw [body]
        simp only [readBytes, result]
        rfl
      | _ =>
        refine ⟨_, ?_, stays (readBytes_other result (by simp) (by simp) buffer)⟩
        simp only [readBytes?, result]

theorem series?_inside {d : Desk} (inside : d.Inside) (buffers : List (List UInt8)) :
    ∃ last, series? buffers d = some (Use.outcomes readBytes buffers d.body, last) ∧
      last.body = Use.after readBytes buffers d.body ∧ last.Inside := by
  induction buffers generalizing d with
  | nil => exact ⟨d, rfl, rfl, inside⟩
  | cons buffer buffers ih =>
    obtain ⟨result, called, follows⟩ := readBytes?_inside inside buffer
    obtain ⟨last, rest, taken, inside'⟩ := ih follows.inside
    refine ⟨last, ?_, ?_, inside'⟩
    · rw [series?, called, Use.outcomes, ← follows.outcome, ← follows.body]
      simp only [Option.bind_eq_bind, Option.bind_some, rest]
      rfl
    · rw [taken, follows.body]
      rfl

end Desk

/-- A body that stands before a byte array gives it away in pieces, as much at each call as there
is left and as fits, and leaves the rest of the buffer alone. The first call that finds nothing left
and is not the first of all reports the end, with the body behind the array. Until then nothing else
is read. A null entry is an end by itself, and any other entry is refused and stays. -/
theorem reads_in_chunks :
    (∀ (c : Wire.Cursor) (v : Value) (bytes rest : List UInt8),
      Wire.encodeValue v = .ok bytes → c.rest = bytes ++ rest →
      Faces (.reading c none) v (.reading (c.skip bytes.length) none) ∧
        (c.skip bytes.length).rest = rest) ∧
    (∀ {b next : StreamBody} {content : List UInt8} {buffers : List (List UInt8)},
      Faces b (.bytes content) next →
      (∀ buffer, .ok (none, buffer) ∉ Use.outcomes readBytes buffers b) →
      (Use.outcomes readBytes buffers b).flatMap copied = content.take (room buffers) ∧
      (∀ buffer, readBytes buffer (Use.after readBytes buffers b) =
        if buffers ≠ [] ∧ content.length ≤ room buffers then .ok (none, buffer) next
        else
          let n := min buffer.length (content.length - room buffers)
          .ok (some n, (content.drop (room buffers)).take n ++ buffer.drop n)
            (Use.after readBytes (buffers ++ [buffer]) b)) ∧
      (buffers ≠ [] → ∀ (α : Type) (convert : Value → Except Error α),
        read convert (Use.after readBytes buffers b) =
          .error .arrayReadInProgress (Use.after readBytes buffers b))) ∧
    (∀ {b next : StreamBody}, Faces b .null next →
      ∀ buffer, readBytes buffer b = .ok (none, buffer) next) ∧
    (∀ {b next : StreamBody} {v : Value}, Faces b v next → v ≠ .null →
      (∀ content, v ≠ .bytes content) →
      ∀ buffer, readBytes buffer b = .error (.notArrayEntry v.type) b) ∧
    (∀ type, Error.arrayReadInProgress.kind = .format ∧
      (Error.notArrayEntry type).kind = .format) ∧
    ∀ (c : Wire.Cursor) (buffers : List (List UInt8)),
      ∃ last, Desk.series? buffers ⟨c, none⟩ =
          some (Use.outcomes readBytes buffers (.reading c none), last) ∧
        last.body = Use.after readBytes buffers (.reading c none) := by
  refine ⟨?_, ?_, ?_, ?_, fun type => ⟨rfl, rfl⟩, ?_⟩
  · intro c v bytes rest encoded ahead
    refine ⟨faces_encoded encoded ahead, ?_⟩
    rw [Wire.Cursor.skip_rest, ahead, List.drop_left]
  · rintro b next content buffers ⟨c, c', rfl, array, rfl⟩ handed
    obtain ⟨pieces, taken⟩ := after_parts array handed
    refine ⟨pieces, ?_, ?_⟩
    · intro buffer
      rw [Use.after_append, taken]
      by_cases all : buffers ≠ [] ∧ content.length ≤ room buffers
      · rw [if_pos all, readBytes_end all.1 all.2]
      · have part := readBytes_part array all buffer rfl
        rw [if_neg all, Use.after_ok part]
        exact part
    · intro begun α convert
      rw [taken]
      exact read_in_progress convert c c' content begun
  · rintro b next ⟨c, c', rfl, null, rfl⟩ buffer
    exact readBytes_null null buffer
  · rintro b next v ⟨c, c', rfl, other, rfl⟩ set unlike buffer
    exact readBytes_other other set unlike buffer
  · intro c buffers
    obtain ⟨last, called, taken, -⟩ := Desk.series?_inside (Desk.inside_none c) buffers
    exact ⟨last, called, taken⟩

/-- Five bytes, then nothing, then a number. -/
def sampleEntries : Wire.Cursor := .start [10, 0, 0, 0, 5, 1, 2, 3, 4, 5, 0, 2, 7]

/-- Two bytes, none and the other three go into three buffers. A fourth one learns of the end, and
another one of the nothing behind it; the number is no array. -/
theorem reads_in_chunks_fives :
    (∀ buffer, .ok (none, buffer) ∉
      Use.outcomes readBytes [[0, 0], [], [9, 9, 9, 9]] (.reading sampleEntries none)) ∧
    (Use.outcomes readBytes [[0, 0], [], [9, 9, 9, 9]] (.reading sampleEntries none)).flatMap
      copied = [1, 2, 3, 4, 5] ∧
    readBytes [8] (Use.after readBytes [[0, 0], [], [9, 9, 9, 9]] (.reading sampleEntries none)) =
      .ok (none, [8]) (.reading (sampleEntries.skip 10) none) ∧
    readBytes [8] (.reading (sampleEntries.skip 10) none) =
      .ok (none, [8]) (.reading (sampleEntries.skip 11) none) ∧
    readBytes [8] (.reading (sampleEntries.skip 11) none) =
      .error (.notArrayEntry .byte) (.reading (sampleEntries.skip 11) none) := by
  obtain ⟨stands, array, null, other, -⟩ := reads_in_chunks
  have handed : ∀ buffer, .ok (none, buffer) ∉
      Use.outcomes readBytes [[0, 0], [], [9, 9, 9, 9]] (.reading sampleEntries none) := by
    intro buffer
    have outcomes : Use.outcomes readBytes [[0, 0], [], [9, 9, 9, 9]]
        (.reading sampleEntries none) =
      [.ok (some 2, [1, 2]), .ok (some 0, []), .ok (some 3, [3, 4, 5, 9])] := rfl
    rw [outcomes]
    simp
  obtain ⟨faces, -⟩ := stands sampleEntries (.bytes [1, 2, 3, 4, 5])
    [10, 0, 0, 0, 5, 1, 2, 3, 4, 5] [0, 2, 7] rfl rfl
  obtain ⟨faces', -⟩ := stands (sampleEntries.skip 10) .null [0] [2, 7] rfl rfl
  obtain ⟨faces'', -⟩ := stands (sampleEntries.skip 11) (.byte 7) [2, 7] [] rfl rfl
  obtain ⟨pieces, next, -⟩ := array faces handed
  exact ⟨handed, pieces, next [8], null faces' [8], other faces'' (by simp) (by simp) [8]⟩

end Courier.StreamBody
