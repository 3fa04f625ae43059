import Courier.Body
import Courier.Proofs.Body.Entries
import Courier.Proofs.Body.Primitives
import Mathlib.Data.Option.Basic

/-!
# Frozen bodies

Whatever can be done with a body, one that is frozen keeps its content. What would write to it is
refused: for its arguments when these are checked first, and otherwise because the body is frozen.
A body that is not frozen takes everything that can be written to a body of its kind.
-/

namespace Courier

set_option autoImplicit false

open Use (Guarded reason left outcome verdict)

/-! ## Setters -/

theorem TextBody.guarded_set (text : Option String) :
    Guarded TextBody.readOnly (set text) none .bodyReadOnly none := by
  refine Guarded.of_checks (fun b => { b with text }) (fun b => ?_) fun _ => rfl
  cases locked : b.readOnly <;> simp [set, locked]

/-- Data without a JSON form cannot be stored. -/
def ObjectBody.documentFlaw (document : Option Json) : Option Error :=
  if document.isNone then some .objectSerialization else none

theorem ObjectBody.guarded_set (document : Option Json) :
    Guarded ObjectBody.readOnly (set document) none .bodyReadOnly (documentFlaw document) := by
  refine Guarded.of_checks (fun b =>
    { b with data := document.map fun v => Text.Utf8.encode v.render }) (fun b => ?_) fun _ => rfl
  cases locked : b.readOnly <;> cases document <;> simp [set, documentFlaw, locked]

theorem ObjectBody.guarded_unset : Guarded ObjectBody.readOnly unset none .bodyReadOnly none := by
  refine Guarded.of_checks (fun b => { b with data := none }) (fun b => ?_) fun _ => rfl
  cases locked : b.readOnly <;> simp [unset, locked]

/-- An entry must have a name. -/
def MapBody.nameFault (name : String) : Option Error :=
  if name.isEmpty then some .emptyEntryName else none

theorem MapBody.guarded_set (name : String) (v : Value) :
    Guarded MapBody.readOnly (set name v) (nameFault name) .bodyReadOnly none := by
  refine Guarded.of_checks (fun b => { b with entries := b.entries.insert name v })
    (fun b => ?_) fun _ => rfl
  by_cases empty : name.isEmpty <;> cases locked : b.readOnly <;>
    simp [set, nameFault, empty, locked]

theorem MapBody.guarded_setRange (name : String) (buffer : List UInt8) (offset length : Nat) :
    Guarded MapBody.readOnly (setRange name buffer offset length)
      (nameFault name <|> reason (subrange buffer offset length)) .bodyReadOnly none := by
  by_cases empty : name.isEmpty
  · rw [nameFault, if_pos empty]
    refine Guarded.throws fun b => ?_
    simp only [setRange, if_pos empty]
    rfl
  · have rest (b : MapBody) : setRange name buffer offset length b =
        (MonadExcept.ofExcept (subrange buffer offset length) >>= fun bytes =>
          set name (.bytes bytes)) b := by
      simp only [setRange, if_neg empty]
    cases inside : subrange buffer offset length with
    | ok bytes =>
      have whole : (nameFault name <|> reason (.ok bytes : Except Error (List UInt8))) =
          nameFault name := by
        rw [nameFault, if_neg empty]
        rfl
      rw [whole]
      refine (guarded_set name (.bytes bytes)).congr fun b => ?_
      rw [rest, Use.ofExcept_ok inside]
    | error e =>
      rw [nameFault, if_neg empty]
      refine Guarded.throws fun b => ?_
      rw [rest, Use.ofExcept_error inside]

/-! ## Reads -/

theorem BytesBody.readBytesUpTo_data (buffer : List UInt8) (length : Nat) (c : Wire.Cursor) :
    ∃ c', left (readBytesUpTo buffer length (.reading c)) = .reading c' ∧ c'.data = c.data := by
  by_cases long : buffer.length < length
  · refine ⟨c, ?_, rfl⟩
    simp only [readBytesUpTo, if_pos long]
    rfl
  · have rest : readBytesUpTo buffer length (.reading c) =
        ((fun part => (part.1, part.2 ++ buffer.drop length)) <$> readBytes (buffer.take length))
          (.reading c) := by
      simp only [readBytesUpTo, if_neg long]
      rfl
    rw [rest, Use.left_map]
    exact read_data (Wire.Read.advances_into _) c

theorem StreamBody.read_data {α : Type} (convert : Value → Except Error α) (c : Wire.Cursor)
    (chunk : Option Chunk) : ∃ c' chunk', left (read convert (.reading c chunk)) =
      .reading c' chunk' ∧ c'.data = c.data := by
  cases chunk with
  | some chunk => exact ⟨c, some chunk, rfl, rfl⟩
  | none =>
    cases result : Wire.Read.value c with
    | error e c' =>
      refine ⟨c, none, ?_, rfl⟩
      simp only [read, result]
      rfl
    | ok v c' =>
      cases converted : convert v with
      | ok a =>
        refine ⟨c', none, ?_, Wire.Read.advances_value.data result⟩
        simp only [read, result, converted]
        rfl
      | error e =>
        refine ⟨c, none, ?_, rfl⟩
        simp only [read, result, converted]
        rfl

theorem StreamBody.handOut_data (c : Wire.Cursor) (chunk : Chunk) (buffer : List UInt8) :
    ∃ chunk', (handOut c chunk buffer).2 = .reading c chunk' := by
  unfold handOut
  split
  · exact ⟨_, rfl⟩
  · exact ⟨_, rfl⟩

theorem StreamBody.readBytes_data (buffer : List UInt8) (c : Wire.Cursor)
    (chunk : Option Chunk) : ∃ c' chunk', left (readBytes buffer (.reading c chunk)) =
      .reading c' chunk' ∧ c'.data = c.data := by
  cases chunk with
  | some chunk =>
    obtain ⟨chunk', out⟩ := handOut_data c chunk buffer
    exact ⟨c, chunk', out, rfl⟩
  | none =>
    cases result : Wire.Read.value c with
    | error e c' =>
      refine ⟨c, none, ?_, rfl⟩
      simp only [readBytes, result]
      rfl
    | ok v c' =>
      have data := Wire.Read.advances_value.data result
      cases v with
      | null =>
        refine ⟨c', none, ?_, data⟩
        simp only [readBytes, result]
        rfl
      | bytes content =>
        obtain ⟨chunk', out⟩ := handOut_data c' ⟨content, false⟩ buffer
        refine ⟨c', chunk', ?_, data⟩
        simp only [readBytes, result]
        exact out
      | _ =>
        refine ⟨c, none, ?_, rfl⟩
        simp only [readBytes, result]
        rfl

namespace Body

/-- Everything that writes to a body. -/
inductive Setter
  | text (content : Option String)
  | bytes (p : BytesBody.Put)
  | stream (p : StreamBody.Put)
  | entry (name : String) (v : Value)
  | entryRange (name : String) (buffer : List UInt8) (offset length : Nat)
  | object (document : Option Json)
  | noObject

namespace Setter

/-- The kind of body that it writes to. -/
def kind : Setter → MessageKind
  | text _ => .text
  | bytes _ => .bytes
  | stream _ => .stream
  | entry .. | entryRange .. => .map
  | object _ | noObject => .object

def use : Setter → EStateM Error Body Unit
  | text content => onText (TextBody.set content)
  | bytes p => onBytes p.use
  | stream p => onStream p.use
  | entry name v => onMap (MapBody.set name v)
  | entryRange name buffer offset length => onMap (MapBody.setRange name buffer offset length)
  | object document => onObject (ObjectBody.set document)
  | noObject => onObject ObjectBody.unset

/-- A fault of the arguments, which is looked for before it matters whether the body is frozen. -/
def fault : Setter → Option Error
  | bytes p => p.fault
  | stream p => p.fault
  | entry name _ => MapBody.nameFault name
  | entryRange name buffer offset length =>
    MapBody.nameFault name <|> reason (subrange buffer offset length)
  | _ => none

/-- A flaw of what is to be written. -/
def flaw : Setter → Option Error
  | bytes p => reason p.encoding
  | stream p => reason p.encoding
  | object document => ObjectBody.documentFlaw document
  | _ => none

/-- What can be written to an open body. -/
def Admissible : Setter → Prop
  | text _ | noObject => True
  | bytes p => ¬ p.Refused
  | stream p => ¬ p.Refused
  | entry name _ => name ≠ ""
  | entryRange name buffer offset length => name ≠ "" ∧ offset + length ≤ buffer.length
  | object document => document ≠ none

end Setter

/-- Everything that reads from a place in a body or goes back to its start. -/
inductive Reader
  | bytesReset
  | bytes (g : BytesBody.Get)
  | bytesUpTo (buffer : List UInt8) (length : Nat)
  | stream (g : StreamBody.Get)
  | streamBytes (buffer : List UInt8)

def Reader.use : Reader → EStateM Error Body Unit
  | bytesReset => onBytes fun b => .ok () b.reset
  | bytes g => onBytes ((fun _ => ()) <$> g.use)
  | bytesUpTo buffer length => onBytes ((fun _ => ()) <$> BytesBody.readBytesUpTo buffer length)
  | stream g => onStream ((fun _ => ()) <$> g.use)
  | streamBytes buffer => onStream ((fun _ => ()) <$> StreamBody.readBytes buffer)

inductive Operation
  | set (s : Setter)
  | read (r : Reader)

def Operation.use : Operation → EStateM Error Body Unit
  | set s => s.use
  | read r => r.use

/-- Nothing can be written to the body. -/
def Frozen (b : Body) : Prop := b.kind = .plain ∨ b.readOnly = true

/-- The body holds what it held, and is frozen if it was. -/
structure Held (b b' : Body) : Prop where
  kind : b'.kind = b.kind
  content : b'.encode = b.encode
  readOnly : b'.readOnly = b.readOnly

theorem Held.refl (b : Body) : Held b b := ⟨rfl, rfl, rfl⟩

theorem Held.trans {a b c : Body} (first : Held a b) (second : Held b c) : Held a c where
  kind := second.kind.trans first.kind
  content := second.content.trans first.content
  readOnly := second.readOnly.trans first.readOnly

theorem Held.frozen {b b' : Body} (held : Held b b') (frozen : b.Frozen) : b'.Frozen := by
  unfold Frozen
  rwa [held.kind, held.readOnly]

/-! ## Writing to a body -/

theorem outcome_within {β α : Type} (whole : β → Body) (result : EStateM.Result Error β α) :
    outcome (within whole result) = outcome result := by
  cases result <;> rfl

theorem left_within {β α : Type} (whole : β → Body) (result : EStateM.Result Error β α) :
    left (within whole result) = whole (left result) := by
  cases result <;> rfl

theorem Setter.kind_ne_plain (s : Setter) : s.kind ≠ .plain := by
  cases s <;> exact MessageKind.noConfusion

theorem Setter.use_otherKind {s : Setter} {b : Body} (other : b.kind ≠ s.kind) :
    s.use b = .error (.wrongShape s.kind b.kind) b := by
  cases s <;> cases b <;> first | rfl | exact absurd rfl other

/-- What a setter works on: the part of the body with its content, which is a store of its own. -/
structure Works {β : Type} (s : Setter) (whole : β → Body) (readOnly : β → Bool)
    (use : EStateM Error β Unit) : Prop where
  guarded : Guarded readOnly use s.fault .bodyReadOnly s.flaw
  use : ∀ part, s.use (whole part) = within whole (use part)
  kind : ∀ part, (whole part).kind = s.kind
  readOnly : ∀ part, (whole part).readOnly = readOnly part

theorem Setter.exists_works {s : Setter} {b : Body} (same : b.kind = s.kind) :
    ∃ (β : Type) (whole : β → Body) (readOnly : β → Bool) (use : EStateM Error β Unit) (part : β),
      b = whole part ∧ Works s whole readOnly use := by
  cases s with
  | text content =>
    cases b with
    | text b =>
      exact ⟨_, .text, _, _, b, rfl, TextBody.guarded_set content, fun _ => rfl, fun _ => rfl,
        fun _ => rfl⟩
    | _ => cases same
  | bytes p =>
    cases b with
    | bytes b =>
      exact ⟨_, .bytes, _, _, b, rfl, BytesBody.guarded_use p, fun _ => rfl, fun _ => rfl,
        fun _ => rfl⟩
    | _ => cases same
  | stream p =>
    cases b with
    | stream b =>
      exact ⟨_, .stream, _, _, b, rfl, StreamBody.guarded_use p, fun _ => rfl, fun _ => rfl,
        fun _ => rfl⟩
    | _ => cases same
  | entry name v =>
    cases b with
    | map b =>
      exact ⟨_, .map, _, _, b, rfl, MapBody.guarded_set name v, fun _ => rfl, fun _ => rfl,
        fun _ => rfl⟩
    | _ => cases same
  | entryRange name buffer offset length =>
    cases b with
    | map b =>
      exact ⟨_, .map, _, _, b, rfl, MapBody.guarded_setRange name buffer offset length,
        fun _ => rfl, fun _ => rfl, fun _ => rfl⟩
    | _ => cases same
  | object document =>
    cases b with
    | object b =>
      exact ⟨_, .object, _, _, b, rfl, ObjectBody.guarded_set document, fun _ => rfl,
        fun _ => rfl, fun _ => rfl⟩
    | _ => cases same
  | noObject =>
    cases b with
    | object b =>
      exact ⟨_, .object, _, _, b, rfl, ObjectBody.guarded_unset, fun _ => rfl, fun _ => rfl,
        fun _ => rfl⟩
    | _ => cases same

theorem Setter.use_frozen {s : Setter} {b : Body} (same : b.kind = s.kind)
    (frozen : b.readOnly = true) : s.use b = .error (s.fault.getD .bodyReadOnly) b := by
  obtain ⟨β, whole, readOnly, use, part, rfl, works⟩ := exists_works same
  rw [works.readOnly] at frozen
  rw [works.use, works.guarded.refuses frozen]
  rfl

theorem Setter.use_writable {s : Setter} {b : Body} (same : b.kind = s.kind)
    (writable : b.readOnly = false) : outcome (s.use b) = verdict s.fault s.flaw ∧
      (left (s.use b)).kind = b.kind ∧ (left (s.use b)).readOnly = false := by
  obtain ⟨β, whole, readOnly, use, part, rfl, works⟩ := exists_works same
  rw [works.readOnly] at writable
  obtain ⟨verdict, writable'⟩ := works.guarded.follows writable
  rw [works.use, left_within, outcome_within, works.readOnly, works.kind, works.kind]
  exact ⟨verdict, rfl, writable'⟩

theorem nameFault_iff (name : String) : MapBody.nameFault name = none ↔ name ≠ "" := by
  simp [MapBody.nameFault]

theorem Setter.verdict_iff (s : Setter) : verdict s.fault s.flaw = .ok () ↔ s.Admissible := by
  cases s with
  | text content => exact iff_of_true rfl trivial
  | noObject => exact iff_of_true rfl trivial
  | bytes p =>
    refine (Use.verdict_reason_iff fun e => BytesBody.encoding_of_fault).trans ?_
    exact not_congr (BytesBody.encoding_error_iff p)
  | stream p =>
    refine (Use.verdict_reason_iff fun e => StreamBody.encoding_of_fault).trans ?_
    exact not_congr (StreamBody.encoding_error_iff p)
  | entry name v =>
    rw [Use.verdict_eq_ok_iff]
    exact (and_iff_left rfl).trans (nameFault_iff name)
  | entryRange name buffer offset length =>
    have inside : reason (subrange buffer offset length) = none ↔
        offset + length ≤ buffer.length := by
      unfold subrange
      split <;> simp [reason, *]
    rw [Use.verdict_eq_ok_iff, Admissible, ← nameFault_iff, ← inside]
    refine (and_iff_left rfl).trans ?_
    exact Option.orElse_eq_none _ _
  | object document =>
    rw [Use.verdict_eq_ok_iff]
    cases document with
    | none => simp [flaw, ObjectBody.documentFlaw, Admissible]
    | some v => simp [fault, flaw, ObjectBody.documentFlaw, Admissible]

/-! ## Frozen bodies keep their content -/

theorem Setter.left_use {s : Setter} {b : Body} (frozen : b.Frozen) : left (s.use b) = b := by
  by_cases same : b.kind = s.kind
  · have locked : b.readOnly = true :=
      frozen.resolve_left fun plain => s.kind_ne_plain (same.symm.trans plain)
    rw [use_frozen same locked]
    rfl
  · rw [use_otherKind same]
    rfl

/-- It is enough to keep the data of a bytes body that is being read. -/
theorem held_onBytes {use : EStateM Error BytesBody Unit} (keeps : ∀ c : Wire.Cursor,
    ∃ c', left (use (.reading c)) = .reading c' ∧ c'.data = c.data) {b : Body}
    (frozen : b.Frozen) : Held b (left (onBytes use b)) := by
  cases b with
  | bytes b =>
    cases b with
    | writing out =>
      -- a body that is still being written is not frozen
      simp [Frozen, kind, readOnly, BytesBody.readOnly] at frozen
    | reading c =>
      obtain ⟨c', left', data⟩ := keeps c
      rw [onBytes, left_within, left']
      exact ⟨rfl, by simp only [encode, BytesBody.encode, data], rfl⟩
  | _ => exact .refl _

theorem held_onStream {use : EStateM Error StreamBody Unit}
    (keeps : ∀ (c : Wire.Cursor) (chunk : Option Chunk),
      ∃ c' chunk', left (use (.reading c chunk)) = .reading c' chunk' ∧ c'.data = c.data)
    {b : Body} (frozen : b.Frozen) : Held b (left (onStream use b)) := by
  cases b with
  | stream b =>
    cases b with
    | writing out => simp [Frozen, kind, readOnly, StreamBody.readOnly] at frozen
    | reading c chunk =>
      obtain ⟨c', chunk', left', data⟩ := keeps c chunk
      rw [onStream, left_within, left']
      exact ⟨rfl, by simp only [encode, StreamBody.encode, data], rfl⟩
  | _ => exact .refl _

theorem Reader.held (r : Reader) {b : Body} (frozen : b.Frozen) : Held b (left (r.use b)) := by
  cases r with
  | bytesReset => exact held_onBytes (fun c => ⟨.start c.data, rfl, rfl⟩) frozen
  | bytes g =>
    refine held_onBytes (fun c => ?_) frozen
    rw [Use.left_map]
    exact g.use_data c
  | bytesUpTo buffer length =>
    refine held_onBytes (fun c => ?_) frozen
    rw [Use.left_map]
    exact BytesBody.readBytesUpTo_data buffer length c
  | stream g =>
    refine held_onStream (fun c chunk => ?_) frozen
    rw [Use.left_map]
    cases g with
    | reset => exact ⟨_, none, rfl, rfl⟩
    | read wanted =>
      rw [StreamBody.Get.use, Use.left_map]
      exact StreamBody.read_data _ c chunk
  | streamBytes buffer =>
    refine held_onStream (fun c chunk => ?_) frozen
    rw [Use.left_map]
    exact StreamBody.readBytes_data buffer c chunk

theorem Operation.held {o : Operation} {b : Body} (frozen : b.Frozen) :
    Held b (left (o.use b)) := by
  cases o with
  | set s =>
    rw [Operation.use, Setter.left_use frozen]
    exact .refl b
  | read r => exact r.held frozen

end Body

end Courier
