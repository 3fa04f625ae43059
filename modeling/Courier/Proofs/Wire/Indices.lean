import Courier.Proofs.Body.Chunks
import Courier.Proofs.Wire.Demands
import Courier.Proofs.Wire.Scanning

/-!
# Reading by index

A reader may also keep an index into its data. Each byte is then looked up at an index, and what is
left is a difference of indices. Whatever the reader has done before and is asked for next, it finds
all of them in range and does what is done with a cursor.
-/

namespace Courier.Wire

set_option autoImplicit false

open StreamBody (minus? slice? overwrite?)

namespace Cursor

theorem position_add_remaining (c : Cursor) : c.position + c.remaining = c.data.length := by
  have := c.suffix.length_le
  simp only [position, remaining]
  omega

theorem rest_eq_drop (c : Cursor) : c.rest = c.data.drop c.position :=
  List.suffix_iff_eq_drop.mp c.suffix

theorem position_seek (c : Cursor) (target : Nat) :
    (c.seek target).position = min target c.data.length := by
  simp only [position, seek, List.length_drop]
  omega

/-- What is copied is the front of what is left, as much of it as fits. -/
theorem fill_eq (c : Cursor) (buffer : List UInt8) {n : Nat}
    (count : n = min buffer.length c.remaining) :
    c.fill buffer = (if buffer ≠ [] ∧ c.remaining = 0 then none else some n,
      c.rest.take n ++ buffer.drop n, c.skip n) := by
  by_cases room : buffer = []
  · subst room
    obtain rfl : n = 0 := by simpa using count
    rfl
  · have isEmpty : buffer.isEmpty = false := by simpa using room
    by_cases ended : c.remaining = 0
    · have exhausted : c.exhausted = true := List.isEmpty_iff_length_eq_zero.mpr ended
      obtain rfl : n = 0 := by rw [count, ended, Nat.min_zero]
      simp only [fill, isEmpty, exhausted, if_pos (And.intro room ended)]
      rfl
    · have exhausted : c.exhausted = false := by
        rw [Bool.eq_false_iff, ne_eq, Cursor.exhausted, List.isEmpty_iff_length_eq_zero]
        exact ended
      have front : c.rest.take buffer.length = c.rest.take n := by
        rw [count, remaining, ← List.take_eq_take_min]
      have length : (c.rest.take n).length = n := by
        rw [List.length_take_of_le (count ▸ Nat.min_le_right _ _)]
      simp only [fill, isEmpty, exhausted, front, length, if_neg (fun h => ended (And.right h)),
        Bool.false_eq_true, if_false]

end Cursor

theorem Read.into_eq (c : Cursor) (buffer : List UInt8) {n : Nat}
    (count : n = min buffer.length c.remaining) :
    into buffer c = .ok (if buffer ≠ [] ∧ c.remaining = 0 then none else some n,
      c.rest.take n ++ buffer.drop n) (c.skip n) := by
  simp only [into, c.fill_eq buffer count]

/-- A read by index: from where it starts to what it returns and where it ends, unless it asks for
something out of range. -/
abbrev Indexed (α : Type) := ExceptT Error (StateT Nat Option) α

namespace Indexed

variable (data : List UInt8)

def take (n : Nat) (what : String) : Indexed (List UInt8) := fun place => do
  let left ← minus? data.length place
  if left < n then return (.error (.shortInput n what left), place)
  let bytes ← slice? data place (place + n)
  return (.ok bytes, place + n)

def number (n : Nat) (what : String) : Indexed Nat := BigEndian.decode <$> take data n what

def unsignedShort : Indexed UInt16 := UInt16.ofNat <$> number data 2 "unsigned short"

def char : Indexed Char := do
  let unit := UInt16.ofNat (← number data 2 "char")
  if Text.Utf16.isHigh unit || Text.Utf16.isLow unit then throw (.loneSurrogate unit)
  return Char.ofNat unit.toNat

/-- Decoding that scans the bytes by index. -/
def decode? (bytes : List UInt8) : Option (Except Error String) := do
  let units ← ModifiedUtf8.scan bytes 0 []
  return do
    match Text.Utf16.decode? (← units) with
    | some s => return s
    | none => throw .unpairedSurrogate

def string : Indexed String := fun place => do
  let (length, behind) ← unsignedShort data place
  match length with
  | .error e => return (.error e, behind)
  | .ok length =>
    let (content, last) ← take data length.toNat "string" behind
    match content with
    | .error e => return (.error e, place)
    | .ok bytes => return (← decode? bytes, last)

def item : (i : Item) → Indexed i.Result
  | .unsignedByte => UInt8.ofNat <$> number data 1 "byte"
  | .byte => Int8.ofNat <$> number data 1 "byte"
  | .boolean => (· != 0) <$> number data 1 "boolean"
  | .short => Int16.ofNat <$> number data 2 "short"
  | .unsignedShort => unsignedShort data
  | .char => char data
  | .int => Int32.ofNat <$> number data 4 "int"
  | .long => Int64.ofNat <$> number data 8 "long"
  | .float => UInt32.ofNat <$> number data 4 "float"
  | .double => UInt64.ofNat <$> number data 8 "double"
  | .string => string data
  | .bytes count => take data count "byte array"

def into (buffer : List UInt8) : Indexed (Option Nat × List UInt8) := fun place => do
  if buffer.isEmpty then return (.ok (some 0, buffer), place)
  let left ← minus? data.length place
  if left = 0 then return (.ok (none, buffer), place)
  let n := min buffer.length left
  let part ← slice? data place (place + n)
  let filled ← overwrite? buffer n part
  return (.ok (some n, filled), place + n)

/-- What is left behind the new place is looked at, and so it must not lie behind the end. -/
def seek (target : Nat) : Indexed Unit := fun _ => do
  let place := min target data.length
  let _ ← minus? data.length place
  return (.ok (), place)

section Follows
variable {α β : Type} {data : List UInt8}

/-- By index in `data`, `p` does what `r` does with a cursor in it. -/
def Follows (data : List UInt8) (p : Indexed α) (r : Read α) : Prop :=
  ∀ c : Cursor, c.data = data → (Use.left (r c)).data = data ∧
    p c.position = some (Use.outcome (r c), (Use.left (r c)).position)

theorem Follows.pure (a : α) : Follows data (pure a) (pure a) := fun _ same => ⟨same, rfl⟩

theorem Follows.throw (e : Error) : Follows data (throw e : Indexed α) (throw e) :=
  fun _ same => ⟨same, rfl⟩

theorem Follows.bind {p : Indexed α} {r : Read α} {q : α → Indexed β} {f : α → Read β}
    (h : Follows data p r) (next : ∀ a, Follows data (q a) (f a)) :
    Follows data (p >>= q) (r >>= f) := by
  intro c same
  obtain ⟨same', first⟩ := h c same
  have both : (p >>= q) c.position =
      (p c.position).bind fun ended => ExceptT.bindCont q ended.1 ended.2 := rfl
  rw [both, first, Option.bind_some]
  simp only [Bind.bind, EStateM.bind]
  cases result : r c with
  | ok a c' =>
    rw [result] at same'
    exact next a c' same'
  | error e c' =>
    rw [result] at same'
    exact ⟨same', rfl⟩

theorem Follows.map {p : Indexed α} {r : Read α} (f : α → β) (h : Follows data p r) :
    Follows data (f <$> p) (f <$> r) := by
  rw [map_eq_pure_bind, map_eq_pure_bind]
  exact h.bind fun a => Follows.pure (f a)

theorem Follows.ite {p q : Indexed α} {r s : Read α} {cond : Prop} [Decidable cond]
    (h : Follows data p r) (h' : Follows data q s) :
    Follows data (if cond then p else q) (if cond then r else s) := by
  split
  · exact h
  · exact h'

theorem minus?_remaining {c : Cursor} (same : c.data = data) :
    minus? data.length c.position = some c.remaining := by
  have whole := c.position_add_remaining
  rw [← same, StreamBody.minus?_le (by omega)]
  exact congrArg some (by omega)

theorem slice?_remaining {c : Cursor} (same : c.data = data) {n : Nat} (enough : n ≤ c.remaining) :
    slice? data c.position (c.position + n) = some (c.rest.take n) := by
  have whole := c.position_add_remaining
  rw [c.rest_eq_drop, ← same]
  exact StreamBody.slice?_inside c.data c.position n (by omega)

theorem follows_take (n : Nat) (what : String) :
    Follows data (take data n what) (Read.take n what) := by
  intro c same
  by_cases few : c.remaining < n
  · rw [Read.take_few what few]
    refine ⟨same, ?_⟩
    simp only [take, minus?_remaining same, Option.bind_eq_bind, Option.bind_some, if_pos few]
    rfl
  · have enough : n ≤ c.remaining := Nat.le_of_not_lt few
    rw [Read.take_enough what enough]
    refine ⟨same, ?_⟩
    simp only [take, minus?_remaining same, slice?_remaining same enough, Option.bind_eq_bind,
      Option.bind_some, if_neg few, Use.outcome, Use.left, c.position_skip enough]
    rfl

theorem follows_number (n : Nat) (what : String) :
    Follows data (number data n what) (Read.number n what) := (follows_take n what).map _

theorem follows_unsignedShort : Follows data (unsignedShort data) Read.unsignedShort :=
  (follows_number 2 "unsigned short").map _

theorem follows_char : Follows data (char data) Read.char := by
  refine (follows_number 2 "char").bind ?_
  intro unit
  exact ((Follows.throw _).bind fun _ => Follows.pure _).ite (Follows.pure _)

theorem decode?_eq (bytes : List UInt8) : decode? bytes = some (ModifiedUtf8.decode bytes) := by
  rw [decode?, ModifiedUtf8.scan_eq bytes 0 [] bytes rfl]
  rfl

theorem follows_string : Follows data (string data) Read.string := by
  intro c same
  obtain ⟨same', first⟩ := follows_unsignedShort c same
  cases announced : Read.unsignedShort c with
  | error e c' =>
    rw [announced] at same' first
    have failed : Read.string c = .error e c' := by simp only [Read.string, announced]
    rw [failed]
    refine ⟨same', ?_⟩
    simp only [string, first, Option.bind_eq_bind, Option.bind_some]
    rfl
  | ok length c' =>
    rw [announced] at same' first
    obtain ⟨same'', second⟩ := follows_take length.toNat "string" c' same'
    cases content : Read.take length.toNat "string" c' with
    | error e c'' =>
      rw [content] at second
      have failed : Read.string c = .error e c := by simp only [Read.string, announced, content]
      rw [failed]
      refine ⟨same, ?_⟩
      simp only [string, first, Option.bind_eq_bind, Option.bind_some, Use.outcome, Use.left,
        second]
      rfl
    | ok bytes c'' =>
      rw [content] at same'' second
      have ended : Use.left (Read.string c) = c'' ∧
          Use.outcome (Read.string c) = ModifiedUtf8.decode bytes := by
        simp only [Read.string, announced, content]
        cases ModifiedUtf8.decode bytes <;> exact ⟨rfl, rfl⟩
      rw [ended.1, ended.2]
      refine ⟨same'', ?_⟩
      simp only [string, first, Option.bind_eq_bind, Option.bind_some, Use.outcome, Use.left,
        second, decode?_eq]
      rfl

theorem follows_item (i : Item) : Follows data (item data i) i.read := by
  cases i with
  | unsignedByte => exact (follows_number 1 "byte").map _
  | byte => exact (follows_number 1 "byte").map _
  | boolean => exact (follows_number 1 "boolean").map _
  | short => exact (follows_number 2 "short").map _
  | unsignedShort => exact follows_unsignedShort
  | char => exact follows_char
  | int => exact (follows_number 4 "int").map _
  | long => exact (follows_number 8 "long").map _
  | float => exact (follows_number 4 "float").map _
  | double => exact (follows_number 8 "double").map _
  | string => exact follows_string
  | bytes count => exact follows_take count "byte array"

theorem follows_into (buffer : List UInt8) :
    Follows data (into data buffer) (Read.into buffer) := by
  intro c same
  obtain ⟨n, count⟩ : ∃ n, n = min buffer.length c.remaining := ⟨_, rfl⟩
  have fits : n ≤ buffer.length := count ▸ Nat.min_le_left _ _
  have enough : n ≤ c.remaining := count ▸ Nat.min_le_right _ _
  rw [Read.into_eq c buffer count]
  refine ⟨same, ?_⟩
  simp only [Use.outcome, Use.left, c.position_skip enough]
  by_cases room : buffer = []
  · subst room
    obtain rfl : n = 0 := Nat.le_zero.mp fits
    rw [if_neg fun none => none.1 rfl]
    rfl
  · have isEmpty : ¬ buffer.isEmpty = true := by simpa using room
    simp only [into, if_neg isEmpty, minus?_remaining same, Option.bind_eq_bind, Option.bind_some]
    by_cases ended : c.remaining = 0
    · obtain rfl : n = 0 := Nat.le_zero.mp (ended ▸ enough)
      rw [if_pos ended, if_pos ⟨room, ended⟩]
      rfl
    · have length : (c.rest.take n).length = n := List.length_take_of_le enough
      have filled := StreamBody.overwrite?_fits buffer (c.rest.take n) (by rwa [length])
      rw [length] at filled
      rw [if_neg ended, if_neg fun none => ended none.2, ← count, slice?_remaining same enough,
        Option.bind_some, filled]
      rfl

theorem follows_seek (target : Nat) :
    Follows data (seek data target) (modify fun c => c.seek target) := by
  intro c same
  refine ⟨same, ?_⟩
  have inside : min target data.length ≤ data.length := Nat.min_le_right _ _
  have place : (c.seek target).position = min target data.length := by rw [c.position_seek, same]
  have found : seek data target c.position = some (.ok (), min target data.length) := by
    simp only [seek, StreamBody.minus?_le inside, Option.bind_eq_bind, Option.bind_some]
    rfl
  rw [found, ← place]
  rfl

end Follows

end Indexed

/-- What a reader can be asked to do: to read an item, to fill a buffer, to go somewhere else. -/
inductive Operation
  | item (i : Item)
  | into (buffer : List UInt8)
  | seek (target : Nat)

namespace Operation

def Result : Operation → Type
  | item i => i.Result
  | into _ => Option Nat × List UInt8
  | seek _ => Unit

def read : (o : Operation) → Read o.Result
  | item i => i.read
  | into buffer => Read.into buffer
  | seek target => modify fun c => c.seek target

def indexed (data : List UInt8) : (o : Operation) → Indexed o.Result
  | item i => Indexed.item data i
  | into buffer => Indexed.into data buffer
  | seek target => Indexed.seek data target

/-- Where a series of operations ends that begins at `c`. -/
def reached (ops : List Operation) (c : Cursor) : Cursor :=
  ops.foldl (fun c o => Use.left (o.read c)) c

/-- The index that a series of operations ends at, unless something was out of range. -/
def walk? (data : List UInt8) : List Operation → Nat → Option Nat
  | [], place => some place
  | o :: ops, place => do
    let (_, next) ← o.indexed data place
    walk? data ops next

theorem follows (data : List UInt8) (o : Operation) :
    Indexed.Follows data (o.indexed data) o.read := by
  cases o with
  | item i => exact Indexed.follows_item i
  | into buffer => exact Indexed.follows_into buffer
  | seek target => exact Indexed.follows_seek target

/-- A series stays in its data, and by index it ends at the same place. -/
theorem walk?_reached {data : List UInt8} (ops : List Operation) (c : Cursor)
    (same : c.data = data) : (reached ops c).data = data ∧
      walk? data ops c.position = some (reached ops c).position := by
  induction ops generalizing c with
  | nil => exact ⟨same, rfl⟩
  | cons o ops ih =>
    obtain ⟨same', next⟩ := o.follows data c same
    obtain ⟨data', last⟩ := ih (Use.left (o.read c)) same'
    refine ⟨data', ?_⟩
    rw [walk?, next]
    exact last

end Operation

/-- However a reader has been used, its position and what remains make up its data, and with an
index in the place of its cursor nothing it has asked for was out of range; nor is anything that it
is asked for next, wherever it stands. A read runs out of data when fewer bytes are left than it
needs, and then it stays; otherwise it ends in a value or in broken data and has moved by what it
needs. A buffer takes as much of what is left as fits, in order, and keeps the rest of itself; only
one with room learns of the end of the data. A place past the end means the end. -/
theorem moves_by_need :
    (∀ (data : List UInt8) (ops : List Operation),
      let c := Operation.reached ops (Cursor.start data)
      c.data = data ∧ c.position + c.remaining = data.length ∧
        Operation.walk? data ops 0 = some c.position) ∧
    (∀ (c : Cursor) (o : Operation), (Use.left (o.read c)).data = c.data ∧
      o.indexed c.data c.position =
        some (Use.outcome (o.read c), (Use.left (o.read c)).position)) ∧
    (∀ (c : Cursor) (i : Item),
      ((∃ e, Use.outcome (i.read c) = .error e ∧ e.kind = .endOfMessage) ↔
        c.remaining < i.need c) ∧
      (((∃ a, Use.outcome (i.read c) = .ok a) ∨
        ∃ e, Use.outcome (i.read c) = .error e ∧ e.kind = .format) ↔ i.need c ≤ c.remaining) ∧
      (Use.left (i.read c)).position =
        c.position + if c.remaining < i.need c then 0 else i.need c) ∧
    (∀ (c : Cursor) (buffer : List UInt8),
      let n := min buffer.length c.remaining
      ∃ c', Read.into buffer c = .ok (if buffer ≠ [] ∧ c.remaining = 0 then none else some n,
          (c.data.drop c.position).take n ++ buffer.drop n) c' ∧ c'.position = c.position + n) ∧
    ∀ (c : Cursor) (target : Nat), (c.seek target).position = min target c.data.length := by
  refine ⟨?_, ?_, ?_, ?_, Cursor.position_seek⟩
  · intro data ops
    obtain ⟨same, walked⟩ := Operation.walk?_reached ops (Cursor.start data) rfl
    have whole := (Operation.reached ops (Cursor.start data)).position_add_remaining
    rw [same] at whole
    have start : (Cursor.start data).position = 0 := Nat.sub_self _
    rw [start] at walked
    exact ⟨same, whole, walked⟩
  · intro c o
    exact o.follows c.data c rfl
  · intro c i
    have needs := i.needs c
    exact ⟨needs.endOfMessage_iff, needs.value_or_format_iff, needs.position_left⟩
  · intro c buffer n
    rw [← c.rest_eq_drop]
    exact ⟨c.skip n, Read.into_eq c buffer rfl, c.position_skip (Nat.min_le_right _ _)⟩

end Courier.Wire
