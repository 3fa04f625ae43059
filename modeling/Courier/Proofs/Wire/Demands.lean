import Courier.Proofs.Body.Uses
import Courier.Proofs.Wire.Groups
import Courier.Proofs.Wire.Reading

/-!
# What reads need

At each place a read needs a number of bytes. With fewer of them left it runs out of data and stays;
otherwise it moves behind them, whether it makes a value of them or finds them broken. A string
needs two bytes for its length and then as many more as they announce.
-/

namespace Courier.Wire

set_option autoImplicit false

namespace Read

variable {α β : Type} {need : Cursor → Nat}

/-- At `c` the read `r` needs `n` bytes: how it ends there. -/
inductive NeedsAt (r : Read α) (c : Cursor) (n : Nat) : Prop
  | short {e : Error} (few : c.remaining < n) (failed : r c = .error e c)
      (kind : e.kind = .endOfMessage)
  | value {a : α} (enough : n ≤ c.remaining) (read : r c = .ok a (c.skip n))
  | broken {e : Error} (enough : n ≤ c.remaining) (failed : r c = .error e (c.skip n))
      (kind : e.kind = .format)

section NeedsAt
variable {r : Read α} {c c' : Cursor} {n : Nat}

theorem NeedsAt.ok (h : NeedsAt r c n) {a : α} (done : r c = .ok a c') :
    n ≤ c.remaining ∧ c' = c.skip n := by
  cases h with
  | short few failed kind => rw [done] at failed; cases failed
  | value enough read =>
    rw [done] at read
    cases read
    exact ⟨enough, rfl⟩
  | broken enough failed kind => rw [done] at failed; cases failed

theorem NeedsAt.error (h : NeedsAt r c n) {e : Error} (ended : r c = .error e c') :
    e.kind = .endOfMessage ∨ e.kind = .format := by
  cases h with
  | short few failed kind =>
    rw [ended] at failed
    cases failed
    exact .inl kind
  | value enough read => rw [ended] at read; cases read
  | broken enough failed kind =>
    rw [ended] at failed
    cases failed
    exact .inr kind

theorem NeedsAt.endOfMessage_iff (h : NeedsAt r c n) :
    (∃ e, Use.outcome (r c) = .error e ∧ e.kind = .endOfMessage) ↔ c.remaining < n := by
  cases h with
  | short few failed kind => exact iff_of_true ⟨_, by rw [failed]; rfl, kind⟩ few
  | value enough read =>
    rw [read]
    refine iff_of_false ?_ (Nat.not_lt.mpr enough)
    rintro ⟨e, ended, -⟩
    cases ended
  | broken enough failed kind =>
    rw [failed]
    refine iff_of_false ?_ (Nat.not_lt.mpr enough)
    rintro ⟨e, ended, kind'⟩
    cases ended
    rw [kind] at kind'
    cases kind'

theorem NeedsAt.value_or_format_iff (h : NeedsAt r c n) :
    ((∃ a, Use.outcome (r c) = .ok a) ∨ ∃ e, Use.outcome (r c) = .error e ∧ e.kind = .format) ↔
      n ≤ c.remaining := by
  cases h with
  | short few failed kind =>
    rw [failed]
    refine iff_of_false ?_ (Nat.not_le.mpr few)
    rintro (⟨a, ended⟩ | ⟨e, ended, kind'⟩)
    · cases ended
    · cases ended
      rw [kind] at kind'
      cases kind'
  | value enough read => exact iff_of_true (.inl ⟨_, by rw [read]; rfl⟩) enough
  | broken enough failed kind => exact iff_of_true (.inr ⟨_, by rw [failed]; rfl, kind⟩) enough

theorem NeedsAt.position_left (h : NeedsAt r c n) :
    (Use.left (r c)).position = c.position + if c.remaining < n then 0 else n := by
  cases h with
  | short few failed kind =>
    rw [failed, if_pos few]
    rfl
  | value enough read =>
    rw [read, if_neg (Nat.not_lt.mpr enough)]
    exact c.position_skip enough
  | broken enough failed kind =>
    rw [failed, if_neg (Nat.not_lt.mpr enough)]
    exact c.position_skip enough

end NeedsAt

/-- Wherever `r` starts, `need` says how many bytes it needs. -/
def Needs (r : Read α) (need : Cursor → Nat) : Prop := ∀ c, NeedsAt r c (need c)

/-- What is made of the bytes does not move the cursor, and fails only when they are broken. -/
theorem Needs.bind {r : Read α} {f : α → Read β} (hr : Needs r need)
    (hf : ∀ a c, (∃ b, f a c = .ok b c) ∨ ∃ e, f a c = .error e c ∧ e.kind = .format) :
    Needs (r >>= f) need := by
  intro c
  cases hr c with
  | short few failed kind =>
    refine .short few ?_ kind
    simp only [Bind.bind, EStateM.bind, failed]
  | @value a enough read =>
    have next : (r >>= f) c = f a (c.skip (need c)) := by
      simp only [Bind.bind, EStateM.bind, read]
    rcases hf a (c.skip (need c)) with ⟨b, done⟩ | ⟨e, failed, kind⟩
    · exact .value enough (next.trans done)
    · exact .broken enough (next.trans failed) kind
  | broken enough failed kind =>
    refine .broken enough ?_ kind
    simp only [Bind.bind, EStateM.bind, failed]

theorem Needs.map {r : Read α} (f : α → β) (hr : Needs r need) : Needs (f <$> r) need := by
  rw [map_eq_pure_bind]
  exact hr.bind fun a c => .inl ⟨f a, rfl⟩

theorem take_few {c : Cursor} {n : Nat} (what : String) (few : c.remaining < n) :
    take n what c = .error (.shortInput n what c.remaining) c := by
  have head : (c.rest.take n).length < n := by
    rw [List.length_take]
    exact Nat.lt_of_le_of_lt (Nat.min_le_right _ _) few
  simp only [take, if_pos head]

theorem take_enough {c : Cursor} {n : Nat} (what : String) (enough : n ≤ c.remaining) :
    take n what c = .ok (c.rest.take n) (c.skip n) := by
  have head : ¬ (c.rest.take n).length < n := by
    rw [List.length_take_of_le enough]
    exact Nat.lt_irrefl n
  simp only [take, if_neg head]

theorem needs_take (n : Nat) (what : String) : Needs (take n what) fun _ => n := by
  intro c
  by_cases few : c.remaining < n
  · exact .short few (take_few what few) rfl
  · have enough : n ≤ c.remaining := Nat.le_of_not_lt few
    exact .value enough (take_enough what enough)

theorem needs_number (n : Nat) (what : String) : Needs (number n what) fun _ => n :=
  (needs_take n what).map _

theorem needs_char : Needs char fun _ => 2 := by
  refine (needs_number 2 "char").bind ?_
  intro unit c
  dsimp only
  split
  · exact .inr ⟨_, rfl, rfl⟩
  · exact .inl ⟨_, rfl⟩

end Read

/-- The bytes of the string at `c`: its length, and unless that is cut off as many more as it
announces. -/
def Cursor.stringNeed (c : Cursor) : Nat :=
  match c.rest with
  | high :: low :: _ => 2 + (high.toNat * 256 + low.toNat)
  | _ => 2

theorem Cursor.two_le_stringNeed (c : Cursor) : 2 ≤ c.stringNeed := by
  unfold stringNeed
  split
  · exact Nat.le_add_right 2 _
  · exact Nat.le_refl 2

namespace Read

theorem unsignedShort_few {c : Cursor} (few : c.remaining < 2) :
    unsignedShort c = .error (.shortInput 2 "unsigned short" c.remaining) c := by
  have failed := take_few "unsigned short" few
  simp only [unsignedShort, number, Functor.map, EStateM.map, failed]

theorem unsignedShort_ahead {c : Cursor} {high low : UInt8} {rest : List UInt8}
    (ahead : c.rest = high :: low :: rest) :
    ∃ length : UInt16, length.toNat = high.toNat * 256 + low.toNat ∧
      unsignedShort c = .ok length (c.skip 2) := by
  have read : take 2 "unsigned short" c = .ok [high, low] (c.skip 2) := by
    rw [take_enough _ (by simp [Cursor.remaining, ahead]), ahead]
    rfl
  have number : BigEndian.decode [high, low] = high.toNat * 256 + low.toNat := by
    simp [BigEndian.decode]
  refine ⟨UInt16.ofNat (high.toNat * 256 + low.toNat), ?_, ?_⟩
  · have := high.toNat_lt
    have := low.toNat_lt
    exact Text.Utf16.toNat_ofNat_of_lt (by omega)
  · simp only [unsignedShort, Read.number, Functor.map, EStateM.map, read, number]

theorem string_cut {c : Cursor} (few : c.remaining < 2) : NeedsAt string c 2 := by
  have failed : string c = .error (.shortInput 2 "unsigned short" c.remaining) c := by
    simp only [string, unsignedShort_few few]
  exact .short few failed rfl

/-- Without enough content the read of a string goes back in front of the length. -/
theorem string_of_length {c : Cursor} {length : UInt16} (whole : 2 ≤ c.remaining)
    (read : unsignedShort c = .ok length (c.skip 2)) : NeedsAt string c (2 + length.toNat) := by
  have left : (c.skip 2).remaining + 2 = c.remaining := by
    simp only [Cursor.remaining, Cursor.skip_rest, List.length_drop] at whole ⊢
    omega
  by_cases few : (c.skip 2).remaining < length.toNat
  · have failed :
        string c = .error (.shortInput length.toNat "string" (c.skip 2).remaining) c := by
      simp only [string, read, take_few "string" few]
    exact .short (by omega) failed rfl
  · have enough : length.toNat ≤ (c.skip 2).remaining := Nat.le_of_not_lt few
    have content := take_enough "string" enough
    cases decoded : ModifiedUtf8.decode ((c.skip 2).rest.take length.toNat) with
    | ok s =>
      have done : string c = .ok s (c.skip (2 + length.toNat)) := by
        simp only [string, read, content, decoded, Cursor.skip_skip]
      exact .value (by omega) done
    | error e =>
      have failed : string c = .error e (c.skip (2 + length.toNat)) := by
        simp only [string, read, content, decoded, Cursor.skip_skip]
      exact .broken (by omega) failed (ModifiedUtf8.decode_error_kind decoded)

theorem needs_string : Needs string Cursor.stringNeed := by
  intro c
  unfold Cursor.stringNeed
  split
  · rename_i high low rest ahead
    obtain ⟨length, number, read⟩ := unsignedShort_ahead ahead
    rw [← number]
    exact string_of_length (by simp [Cursor.remaining, ahead]) read
  · rename_i cut
    refine string_cut ?_
    -- of two bytes or more the first two would be the length
    rw [Cursor.remaining]
    cases ahead : c.rest with
    | nil => simp
    | cons high tail =>
      cases tail with
      | nil => simp
      | cons low rest => exact absurd ahead (cut high low rest)

/-- Two bytes of an announced five: the length is not consumed either. -/
example : string (.start [0, 5, 97, 98]) =
    .error (.shortInput 5 "string" 2) (.start [0, 5, 97, 98]) := rfl

end Read

/-- What a reader is asked for in one go: a number, a character, a string or some bytes. -/
inductive Item
  | unsignedByte | byte | boolean | short | unsignedShort | char | int | long | float | double
  | string
  | bytes (count : Nat)

namespace Item

/-- Floating-point numbers are given as bit patterns. -/
def Result : Item → Type
  | unsignedByte => UInt8
  | byte => Int8
  | boolean => Bool
  | short => Int16
  | unsignedShort => UInt16
  | char => Char
  | int => Int32
  | long => Int64
  | float => UInt32
  | double => UInt64
  | string => String
  | bytes _ => List UInt8

def read : (i : Item) → Read i.Result
  | unsignedByte => Read.unsignedByte
  | byte => Read.byte
  | boolean => Read.boolean
  | short => Read.short
  | unsignedShort => Read.unsignedShort
  | char => Read.char
  | int => Read.int
  | long => Read.long
  | float => Read.float
  | double => Read.double
  | string => Read.string
  | bytes count => Read.exact count

def need (c : Cursor) : Item → Nat
  | unsignedByte | byte | boolean => 1
  | short | unsignedShort | char => 2
  | int | float => 4
  | long | double => 8
  | string => c.stringNeed
  | bytes count => count

theorem needs (i : Item) : i.read.Needs (need · i) := by
  cases i with
  | unsignedByte => exact (Read.needs_number 1 "byte").map _
  | byte => exact (Read.needs_number 1 "byte").map _
  | boolean => exact (Read.needs_number 1 "boolean").map _
  | short => exact (Read.needs_number 2 "short").map _
  | unsignedShort => exact (Read.needs_number 2 "unsigned short").map _
  | char => exact Read.needs_char
  | int => exact (Read.needs_number 4 "int").map _
  | long => exact (Read.needs_number 8 "long").map _
  | float => exact (Read.needs_number 4 "float").map _
  | double => exact (Read.needs_number 8 "double").map _
  | string => exact Read.needs_string
  | bytes count => exact Read.needs_take count "byte array"

end Item

end Courier.Wire
