import Courier.Message
import Courier.Proofs.Body.Entries
import Courier.Proofs.Conversion.Integers
import Courier.Proofs.Table

/-!
# Booleans and integers as texts

The text of a boolean or an integer can be read as everything that the value itself can be read as,
with the same result. So a store that holds the text in place of the value answers as before
wherever it gave a boolean or an integer.
-/

namespace Courier

set_option autoImplicit false

/-- The types of booleans and integers. -/
def ValueType.basic : List ValueType := [boolean, byte, short, int, long]

theorem ValueType.mem_basic_iff {t : ValueType} :
    t ∈ basic ↔ t = .boolean ∨ ∃ w : Width, t = w.type := by
  constructor
  · intro mem
    simp only [basic, List.mem_cons, List.not_mem_nil, or_false] at mem
    rcases mem with rfl | rfl | rfl | rfl | rfl
    · exact .inl rfl
    · exact .inr ⟨.byte, rfl⟩
    · exact .inr ⟨.short, rfl⟩
    · exact .inr ⟨.int, rfl⟩
    · exact .inr ⟨.long, rfl⟩
  · rintro (rfl | ⟨w, rfl⟩)
    · decide
    · cases w <;> decide

namespace Value

variable {v : Value} {w w' : Width} {n m : Int}

/-- What `v` can be read as among booleans and integers, `v'` can be read as too, with the same
result. -/
def StandsIn (v' v : Value) : Prop :=
  ∀ t ∈ ValueType.basic, ∀ x, v.convert t = .ok x → v'.convert t = .ok x

/-! Integers. -/

theorem fits_of_integer (stored : v.integer? = some (w, n)) : w.Fits n := by
  cases v with
  | byte v => cases stored; exact ⟨v.le_toInt, v.toInt_lt⟩
  | short v => cases stored; exact ⟨v.le_toInt, v.toInt_lt⟩
  | int v => cases stored; exact ⟨v.le_toInt, v.toInt_lt⟩
  | long v => cases stored; exact ⟨v.le_toInt, v.toInt_lt⟩
  | _ => cases stored

theorem text_of_integer (stored : v.integer? = some (w, n)) : v.text = toString n := by
  cases v with
  | byte _ | short _ | int _ | long _ => cases stored; rfl
  | _ => cases stored

/-- The value of this width for a number. -/
def ofInteger : Width → Int → Value
  | .byte, n => byte (.ofInt n)
  | .short, n => short (.ofInt n)
  | .int, n => int (.ofInt n)
  | .long, n => long (.ofInt n)

theorem map_ofInteger {α : Type} (read : Except Error α) {toInt : α → Int} {value : α → Value}
    (back : ∀ a, ofInteger w (toInt a) = value a) :
    read.map value = (read.map toInt).map (ofInteger w) := by
  cases read with
  | error e => rfl
  | ok a => exact congrArg Except.ok (back a).symm

/-- To convert to an integer type is to read an integer of its width. -/
theorem convert_type (v : Value) (w : Width) :
    v.convert w.type = (v.toInteger w).map (ofInteger w) := by
  cases w with
  | byte => exact map_ofInteger v.toByte fun b => congrArg byte b.ofInt_toInt
  | short => exact map_ofInteger v.toShort fun s => congrArg short s.ofInt_toInt
  | int => exact map_ofInteger v.toInt fun i => congrArg int i.ofInt_toInt
  | long => exact map_ofInteger v.toLong fun l => congrArg long l.ofInt_toInt

/-- A text reads as an integer wherever the integer that it spells does. -/
theorem toInteger_text (stored : v.integer? = some (w', n)) (read : v.toInteger w = .ok m) :
    (string v.text).toInteger w = .ok m := by
  cases toInteger_eq_ok_iff.mp read with
  | text => cases stored
  | integer stored' noWider =>
    rw [stored] at stored'
    cases stored'
    rw [text_of_integer stored, toInteger_string]
    exact ⟨Number.numeral_toString n, (fits_of_integer stored).mono noWider⟩

/-! Booleans and integers alike. -/

theorem boolean_or_integer (basic : v.type ∈ ValueType.basic) :
    (∃ b, v = boolean b) ∨ ∃ w n, v.integer? = some (w, n) := by
  cases v with
  | boolean b => exact .inl ⟨b, rfl⟩
  | byte _ | short _ | int _ | long _ => exact .inr ⟨_, _, rfl⟩
  | _ => simp [ValueType.basic, type] at basic

theorem toText_of_basic (basic : v.type ∈ ValueType.basic) : v.toText = .ok (some v.text) := by
  cases v with
  | null | bytes _ => simp [ValueType.basic, type] at basic
  | _ => rfl

theorem toBoolean_text (b : Bool) : (string (boolean b).text).toBoolean = .ok b := by
  cases b <;> decide +kernel

theorem text_standsIn (basic : v.type ∈ ValueType.basic) : (string v.text).StandsIn v := by
  intro t target x converted
  obtain rfl | ⟨w, rfl⟩ := ValueType.mem_basic_iff.mp target
  · obtain ⟨b, rfl⟩ | ⟨w, n, stored⟩ := boolean_or_integer basic
    · rw [← converted, convert, toBoolean_text]
      rfl
    · cases v with
      | byte _ | short _ | int _ | long _ => cases converted
      | _ => cases stored
  · obtain ⟨b, rfl⟩ | ⟨w', n, stored⟩ := boolean_or_integer basic
    · cases w <;> cases converted
    · rw [convert_type] at converted ⊢
      cases read : v.toInteger w with
      | error e =>
        rw [read] at converted
        cases converted
      | ok m => rwa [toInteger_text stored read, ← read]

end Value

/-! ## Stores with names -/

section Named
variable {v : Value} {name : String}

theorem Table.text_standsIn {values : Table String Value} (stored : values.get? name = some v)
    (basic : v.type ∈ ValueType.basic) :
    ((values.get? name).getD .null).toText = .ok (some v.text) ∧
    (((values.insert name (.string v.text)).get? name).getD .null).StandsIn
      ((values.get? name).getD .null) := by
  rw [stored, get?_insert_self]
  exact ⟨Value.toText_of_basic basic, Value.text_standsIn basic⟩

theorem Properties.exists_set_text {p : Properties} (named : name ≠ "")
    (writable : p.readOnly = false) (stored : p.get? name = some v)
    (basic : v.type ∈ ValueType.basic) :
    ∃ s p', p.read name Value.toText = .ok (some s) ∧
      Properties.set name (.string s) p = .ok () p' ∧
      ∀ t ∈ ValueType.basic, ∀ x, p.read name (·.convert t) = .ok x →
        p'.read name (·.convert t) = .ok x := by
  obtain ⟨text, standsIn⟩ := Table.text_standsIn stored basic
  refine ⟨v.text, { p with values := p.values.insert name (.string v.text) }, text, ?_, standsIn⟩
  simp [Properties.set, named, writable, admits]

theorem MapBody.exists_set_text {b : MapBody} (named : name ≠ "") (writable : b.readOnly = false)
    (stored : b.get? name = some v) (basic : v.type ∈ ValueType.basic) :
    ∃ s b', b.read name Value.toText = .ok (some s) ∧
      MapBody.set name (.string s) b = .ok () b' ∧
      ∀ t ∈ ValueType.basic, ∀ x, b.read name (·.convert t) = .ok x →
        b'.read name (·.convert t) = .ok x := by
  obtain ⟨text, standsIn⟩ := Table.text_standsIn stored basic
  refine ⟨v.text, { b with entries := b.entries.insert name (.string v.text) }, text, ?_, standsIn⟩
  simp [MapBody.set, named, writable]

end Named

/-! ## Stream entries -/

namespace Value

variable {v : Value} {w : Width} {n : Int}

/-- The text of an integer has up to 19 digits and perhaps a sign. -/
theorem length_toString_le (fits : Width.long.Fits n) : (toString n).toList.length ≤ 20 := by
  have digits {k : Nat} (small : k < 10 ^ 19) : (Nat.toDigits 10 k).length ≤ 19 :=
    (Nat.length_toDigits_le_iff (by decide) (by decide)).mpr small
  have room : (2 : Int) ^ (Width.long.bits - 1) < 10 ^ 19 := by decide
  obtain ⟨least, most⟩ := fits
  cases n with
  | ofNat n =>
    have small : n < 10 ^ 19 := Int.ofNat_lt.mp (Int.lt_trans most room)
    rw [Number.toList_toString_ofNat]
    exact Nat.le_succ_of_le (digits small)
  | negSucc n =>
    have small : n + 1 < 10 ^ 19 := by omega
    rw [Number.toList_toString_negSucc]
    exact Nat.succ_le_succ (digits small)

/-- Such texts are short enough to be written to a stream. -/
theorem exists_encode_text (basic : v.type ∈ ValueType.basic) :
    ∃ bytes, Wire.encodeValue (string v.text) = .ok bytes := by
  have short : v.text.toList.length ≤ 20 := by
    obtain ⟨b, rfl⟩ | ⟨w, n, stored⟩ := boolean_or_integer basic
    · cases b <;> decide
    · rw [text_of_integer stored]
      exact length_toString_le ((fits_of_integer stored).mono w.bits_le)
  have bytes := Wire.ModifiedUtf8.length_encode_le_six_mul v.text
  cases encoded : Wire.encodeValue (string v.text) with
  | ok bytes => exact ⟨bytes, rfl⟩
  | error e =>
    have long : 65535 < (Wire.ModifiedUtf8.encode v.text).length :=
      (Wire.encodeValue_error_iff (string v.text)).mp ⟨e, encoded⟩
    omega

end Value

namespace StreamBody

variable {vs : List Value} {segments : List (List UInt8)} {b : StreamBody} {v : Value}

/-- Each entry that is read as it is brings the body before the next one. -/
theorem StandsAt.after_reads
    (encoded : List.Forall₂ (fun v bytes => Wire.encodeValue v = .ok bytes) vs segments) {i : Nat}
    (place : StandsAt segments b i) {k : Nat} (inside : i + k ≤ vs.length) :
    StandsAt segments (Use.after Get.use (List.replicate k (.read none)) b) (i + k) := by
  induction k generalizing b i with
  | zero => exact place
  | succ k ih =>
    have next : vs[i]? = some vs[i] := List.getElem?_eq_getElem (by omega)
    have moved := (place.get encoded (.read none)).2
    have beyond : Use.left ((Get.read none).onEntries vs i) = i + 1 := by
      simp only [Get.onEntries, next, conversion]
      rfl
    rw [beyond] at moved
    rw [List.replicate_succ, Use.after_cons, Nat.add_comm k 1, ← Nat.add_assoc]
    exact ih moved (by omega)

/-- A new body to which `v` was written among others, turned over to reading and read up to `v`. -/
def turnedTo (before : List Put) (v : Value) (later : List Put) : StreamBody :=
  Use.after Get.use (List.replicate (entries before).length (.read none))
    (Use.after Put.use (before ++ .value v :: later) fresh).reset

theorem entries_append_value {bytes : List UInt8} (encoded : Wire.encodeValue v = .ok bytes)
    (before later : List Put) :
    ∃ others, entries (before ++ .value v :: later) = entries before ++ v :: others := by
  obtain ⟨segments, -, written⟩ := exists_segments before
  have accepted : Put.use (.value v) (.writing segments.flatten) =
      .ok () (.writing (segments.flatten ++ bytes)) := (appends_value v).ok bytes encoded _
  refine ⟨(Use.accepted Put.use later (.writing (segments.flatten ++ bytes))).map Put.entry, ?_⟩
  rw [entries, Use.accepted_append, written, Use.accepted_ok accepted, List.map_append]
  rfl

/-- It is read as what `v` converts to. -/
theorem read_turnedTo {bytes : List UInt8} (encoded : Wire.encodeValue v = .ok bytes)
    (before later : List Put) {α : Type} {convert : Value → Except Error α} {a : α}
    (converted : convert v = .ok a) :
    ∃ b, read convert (turnedTo before v later) = .ok a b := by
  obtain ⟨segments, matched, written⟩ := exists_segments (before ++ .value v :: later)
  obtain ⟨others, listed⟩ := entries_append_value encoded before later
  rw [listed] at matched
  have place := (standsAt_start segments).after_reads matched (k := (entries before).length)
    (by simp)
  rw [Nat.zero_add] at place
  have left := List.forall₂_drop (entries before).length matched
  rw [List.drop_left] at left
  cases next : segments.drop (entries before).length with
  | nil =>
    rw [next] at left
    cases left
  | cons bytes' others' =>
    rw [next, List.forall₂_cons] at left
    obtain ⟨b, done, -⟩ := (place.read_entry next left.1 convert).1 a converted
    refine ⟨b, ?_⟩
    rw [turnedTo, written]
    exact done

/-- The next entry is read as what it converts to. -/
theorem read_eq_ok_iff {α : Type} {b₁ b₂ : StreamBody} (next : read .ok b = .ok v b₁)
    {convert : Value → Except Error α} {a : α} :
    read convert b = .ok a b₂ ↔ convert v = .ok a ∧ b₁ = b₂ := by
  cases b with
  | writing out => cases next
  | reading c chunk =>
    cases chunk with
    | some chunk => cases next
    | none =>
      cases found : Wire.Read.value c with
      | error e c' =>
        simp only [read, found] at next
        cases next
      | ok v' c' =>
        simp only [read, found] at next
        cases next
        simp only [read, found]
        cases convert v <;> simp

/-- Wherever the text of the next entry is written in its place, it is read as what the entry was
read as. -/
theorem exists_read_text {b₁ : StreamBody} (next : read .ok b = .ok v b₁)
    (basic : v.type ∈ ValueType.basic) :
    ∃ s, read Value.toText b = .ok (some s) b₁ ∧
      ∀ before later, ∀ t ∈ ValueType.basic, ∀ x b₂, read (·.convert t) b = .ok x b₂ →
        ∃ b₃, read (·.convert t) (turnedTo before (.string s) later) = .ok x b₃ := by
  obtain ⟨bytes, encoded⟩ := Value.exists_encode_text basic
  refine ⟨v.text, (read_eq_ok_iff next).mpr ⟨Value.toText_of_basic basic, rfl⟩, ?_⟩
  intro before later t target x b₂ done
  obtain ⟨converted, -⟩ := (read_eq_ok_iff next).mp done
  exact read_turnedTo encoded before later (Value.text_standsIn basic t target x converted)

end StreamBody

namespace Value

/-- A boolean or an integer has a text, which can be read as every such value that it can be read as
itself. So what was read from a property or from an entry of a map or a stream is read again from
the text, when that is stored in place of the value. -/
theorem text_reads_alike {v : Value} (basic : v.type ∈ ValueType.basic) :
    (∃ s, v.toText = .ok (some s) ∧ (string s).StandsIn v) ∧
    (∀ (p : Properties) name, name ≠ "" → p.readOnly = false → p.get? name = some v →
      ∃ s p', p.read name toText = .ok (some s) ∧ Properties.set name (.string s) p = .ok () p' ∧
        ∀ t ∈ ValueType.basic, ∀ x, p.read name (·.convert t) = .ok x →
          p'.read name (·.convert t) = .ok x) ∧
    (∀ (b : MapBody) name, name ≠ "" → b.readOnly = false → b.get? name = some v →
      ∃ s b', b.read name toText = .ok (some s) ∧ MapBody.set name (.string s) b = .ok () b' ∧
        ∀ t ∈ ValueType.basic, ∀ x, b.read name (·.convert t) = .ok x →
          b'.read name (·.convert t) = .ok x) ∧
    ∀ b b₁ : StreamBody, StreamBody.read .ok b = .ok v b₁ →
      ∃ s, StreamBody.read toText b = .ok (some s) b₁ ∧
        ∀ before later, ∀ t ∈ ValueType.basic, ∀ x b₂,
          StreamBody.read (·.convert t) b = .ok x b₂ →
            ∃ b₃,
              StreamBody.read (·.convert t) (.turnedTo before (.string s) later) = .ok x b₃ := by
  refine ⟨⟨v.text, toText_of_basic basic, text_standsIn basic⟩, ?_, ?_, ?_⟩
  · intro p name named writable stored
    exact Properties.exists_set_text named writable stored basic
  · intro b name named writable stored
    exact MapBody.exists_set_text named writable stored basic
  · intro b b₁ next
    exact StreamBody.exists_read_text next basic

/-- The least short number is the same long number wherever it is kept, also from its text. -/
theorem text_reads_alike_least :
    (short (-32768)).type ∈ ValueType.basic ∧
    (∃ s, (short (-32768)).toText = .ok (some s) ∧
      (string s).convert .long = .ok (long (-32768))) ∧
    (∃ s p', Properties.set "n" (.string s) { values := Table.ofList [("n", short (-32768))] } =
        .ok () p' ∧ p'.read "n" (·.convert .int) = .ok (int (-32768))) ∧
    (∃ s b', MapBody.set "n" (.string s) { entries := Table.ofList [("n", short (-32768))] } =
        .ok () b' ∧ b'.read "n" (·.convert .int) = .ok (int (-32768))) ∧
    ∃ s b₃, StreamBody.read (·.convert .long)
      (.turnedTo [.value .null] (.string s) [.bytes [1]]) = .ok (long (-32768)) b₃ := by
  have basic : (short (-32768)).type ∈ ValueType.basic := by decide
  obtain ⟨⟨s, text, standsIn⟩, properties, entries, stream⟩ := text_reads_alike basic
  obtain ⟨s₁, p', -, set, read⟩ := properties
    { values := Table.ofList [("n", short (-32768))] } "n" (by decide) rfl rfl
  obtain ⟨s₂, b', -, set', read'⟩ := entries
    { entries := Table.ofList [("n", short (-32768))] } "n" (by decide) rfl rfl
  obtain ⟨s₃, -, again⟩ := stream (.decode (some [4, 0x80, 0])) _ rfl
  obtain ⟨b₃, read''⟩ := again [.value .null] [.bytes [1]] .long (by decide) _ _ rfl
  exact ⟨basic, ⟨s, text, standsIn .long (by decide) _ rfl⟩,
    ⟨s₁, p', set, read .int (by decide) _ rfl⟩, ⟨s₂, b', set', read' .int (by decide) _ rfl⟩,
    s₃, b₃, read''⟩

end Value

end Courier
