import Courier.Proofs.Body.Frozen
import Courier.Proofs.Message.Copy

/-!
# Frozen messages

A delivered copy, and every bytes or stream body that was turned over to reading, can be used in
any way without a change of what it holds. Only clearing opens it again, and empties it.
-/

namespace Courier

set_option autoImplicit false

open Use (Guarded after left outcome outcomes verdict)

namespace Properties

/-- A property must have a name. -/
def nameFault (name : String) : Option Error :=
  if name.isEmpty then some .emptyPropertyName else none

/-- The value must be of a type that a property may have. -/
def valueFlaw (v : Value) : Option Error :=
  if admits v then none else some (.notPropertyType v.type)

theorem guarded_set (name : String) (v : Value) :
    Guarded readOnly (set name v) (nameFault name) (.propertiesReadOnly name) (valueFlaw v) := by
  refine Guarded.of_checks (fun p => { p with values := p.values.insert name v }) (fun p => ?_)
    fun _ => rfl
  cases locked : p.readOnly <;> by_cases empty : name.isEmpty <;> by_cases admitted : admits v <;>
    simp [set, nameFault, valueFlaw, *]

theorem verdict_iff (name : String) (v : Value) :
    verdict (nameFault name) (valueFlaw v) = .ok () ↔ name ≠ "" ∧ admits v = true := by
  rw [Use.verdict_eq_ok_iff]
  simp [nameFault, valueFlaw]

end Properties

namespace Message

/-- Everything that can be done with the properties and the body, except to clear them. -/
inductive Operation
  | property (name : String) (v : Value)
  | body (o : Body.Operation)

def Operation.use : Operation → EStateM Error Message Unit
  | property name v => onProperties (Properties.set name v)
  | body o => onBody o.use

/-- The message was delivered, or its body is a bytes or stream body that was turned over to
reading. -/
inductive FrozenBody : Message → Prop
  | delivered {sent copy : Message} (copied : sent.deliveryCopy = .ok copy) : FrozenBody copy
  | bytes (m : Message) (b : BytesBody) : FrozenBody { m with body := .bytes b.reset }
  | stream (m : Message) (b : StreamBody) : FrozenBody { m with body := .stream b.reset }

/-- The body holds what it held and cannot be written to until it is cleared: for its arguments or
because it is frozen every setter is refused. Cleared it is as in a new message of its kind, and
takes what can be written to such a body. -/
structure BodyStands (m later : Message) : Prop where
  content : later.body.encode = m.body.encode
  refuses : ∀ s : Body.Setter, s.kind = m.kind → ∃ e, outcome (onBody s.use later) = .error e ∧
    (s.fault = some e ∨ s.fault = none ∧ e.kind = .notWritable)
  otherKind : ∀ s : Body.Setter, s.kind ≠ m.kind →
    outcome (onBody s.use later) = .error (.wrongShape s.kind m.kind)
  cleared : later.clearBody.body = .fresh m.kind
  writable : ∀ setters : List Body.Setter, (∀ s ∈ setters, s.kind = m.kind) →
    outcomes (fun s => onBody s.use) setters later.clearBody =
      setters.map fun s => verdict s.fault s.flaw

/-- The properties have their values and cannot be set until they are cleared. -/
structure PropertiesStand (m later : Message) : Prop where
  values : later.properties.values = m.properties.values
  refuses : ∀ name v, ∃ e, outcome (onProperties (Properties.set name v) later) = .error e ∧
    (Properties.nameFault name = some e ∨
      Properties.nameFault name = none ∧ e.kind = .notWritable)
  cleared : later.clearProperties.properties = {}
  writable : ∀ pairs : List (String × Value),
    outcomes (fun p => onProperties (Properties.set p.1 p.2)) pairs later.clearProperties =
      pairs.map fun p => verdict (Properties.nameFault p.1) (Properties.valueFlaw p.2)

section Uses
variable {α : Type} {m : Message}

theorem left_onBody (use : EStateM Error Body α) :
    left (onBody use m) = { m with body := left (use m.body) } := by
  simp only [onBody]
  cases use m.body <;> rfl

theorem outcome_onBody (use : EStateM Error Body α) :
    outcome (onBody use m) = outcome (use m.body) := by
  simp only [onBody]
  cases use m.body <;> rfl

theorem left_onProperties (use : EStateM Error Properties α) :
    left (onProperties use m) = { m with properties := left (use m.properties) } := by
  simp only [onProperties]
  cases use m.properties <;> rfl

theorem outcome_onProperties (use : EStateM Error Properties α) :
    outcome (onProperties use m) = outcome (use m.properties) := by
  simp only [onProperties]
  cases use m.properties <;> rfl

end Uses

theorem FrozenBody.frozen {m : Message} (h : FrozenBody m) : m.body.Frozen := by
  cases h with
  | @delivered sent copy copied =>
    have spec := (deliveryCopy_ok copied).2.body
    by_cases plain : sent.body.kind = .plain
    · exact .inl (spec.kind.trans plain)
    · exact .inr (spec.readOnly plain)
  | bytes m b => exact .inr rfl
  | stream m b => exact .inr rfl

theorem held_after {m : Message} (frozen : m.body.Frozen) (operations : List Operation) :
    m.body.Held (after Operation.use operations m).body := by
  refine Use.after_induct (P := fun later : Message => m.body.Held later.body) ?_ (.refl _)
  intro o later held
  cases o with
  | property name v =>
    rw [Operation.use, left_onProperties]
    exact held
  | body o =>
    rw [Operation.use, left_onBody]
    exact held.trans (o.held (held.frozen frozen))

/-- Whatever is done with it, read-only properties stay. -/
theorem properties_after {m : Message} (frozen : m.properties.readOnly = true)
    (operations : List Operation) :
    (after Operation.use operations m).properties = m.properties := by
  refine Use.after_induct (P := fun later : Message => later.properties = m.properties) ?_ rfl
  intro o later same
  cases o with
  | property name v =>
    rw [← same] at frozen
    rw [Operation.use, left_onProperties, (Properties.guarded_set name v).refuses frozen]
    exact same
  | body o =>
    rw [Operation.use, left_onBody]
    exact same

theorem fresh_kind (kind : MessageKind) : (Body.fresh kind).kind = kind := by cases kind <;> rfl

theorem fresh_writable (kind : MessageKind) : (Body.fresh kind).readOnly = false := by
  cases kind <;> rfl

theorem bodyStands_of_held {m later : Message} (frozen : m.body.Frozen)
    (held : m.body.Held later.body) : BodyStands m later where
  content := held.content
  refuses s same := by
    have locked : later.body.readOnly = true :=
      (held.frozen frozen).resolve_left fun plain =>
        s.kind_ne_plain (same.trans (held.kind.symm.trans plain))
    refine ⟨s.fault.getD .bodyReadOnly, ?_, ?_⟩
    · rw [outcome_onBody, Body.Setter.use_frozen (held.kind.trans same.symm) locked]
      rfl
    · cases fault : s.fault with
      | none => exact .inr ⟨rfl, rfl⟩
      | some e => exact .inl rfl
  otherKind s other := by
    have differs : later.body.kind ≠ s.kind := by
      rw [held.kind]
      exact fun same => other same.symm
    rw [outcome_onBody, Body.Setter.use_otherKind differs, held.kind]
    rfl
  cleared := congrArg Body.fresh held.kind
  writable setters same := by
    refine Use.outcomes_eq_map (P := fun later : Message =>
      later.body.kind = m.kind ∧ later.body.readOnly = false) ?_ ?_
    · rintro s mem later ⟨kind, writable⟩
      obtain ⟨verdict, kind', writable'⟩ :=
        Body.Setter.use_writable (kind.trans (same s mem).symm) writable
      rw [outcome_onBody, left_onBody]
      exact ⟨verdict, kind'.trans kind, writable'⟩
    · exact ⟨(fresh_kind _).trans held.kind, fresh_writable _⟩

theorem propertiesStand_of_eq {m later : Message} (frozen : m.properties.readOnly = true)
    (same : later.properties = m.properties) : PropertiesStand m later where
  values := by rw [same]
  refuses name v := by
    have guarded := Properties.guarded_set name v
    rw [← same] at frozen
    refine ⟨(Properties.nameFault name).getD (.propertiesReadOnly name), ?_, ?_⟩
    · rw [outcome_onProperties, guarded.refuses frozen]
      rfl
    · cases fault : Properties.nameFault name with
      | none => exact .inr ⟨rfl, rfl⟩
      | some e => exact .inl rfl
  cleared := rfl
  writable pairs := by
    refine Use.outcomes_eq_map
      (P := fun later : Message => later.properties.readOnly = false) ?_ rfl
    rintro p - later writable
    obtain ⟨verdict, writable'⟩ := (Properties.guarded_set p.1 p.2).follows writable
    rw [outcome_onProperties, left_onProperties]
    exact ⟨verdict, writable'⟩

/-- What was delivered, and every bytes or stream body that was turned over to reading, stands
whatever is done with it, until it is cleared. An open body accepts everything that has an encoding
and has a name where it needs one, and open properties accept every named value of a type that a
property may have. -/
theorem frozen_until_cleared :
    (∀ m, FrozenBody m → ∀ operations, BodyStands m (after Operation.use operations m)) ∧
    (∀ sent copy : Message, sent.deliveryCopy = .ok copy →
      ∀ operations, PropertiesStand copy (after Operation.use operations copy)) ∧
    (∀ s : Body.Setter, verdict s.fault s.flaw = .ok () ↔ s.Admissible) ∧
    ∀ name v, verdict (Properties.nameFault name) (Properties.valueFlaw v) = .ok () ↔
      name ≠ "" ∧ Properties.admits v = true := by
  refine ⟨?_, ?_, Body.Setter.verdict_iff, Properties.verdict_iff⟩
  · intro m h operations
    exact bodyStands_of_held h.frozen (held_after h.frozen operations)
  · intro sent copy copied operations
    have frozen := (deliveryCopy_ok copied).2.readOnly
    exact propertiesStand_of_eq frozen (properties_after frozen operations)

/-- Neither its entries nor its properties can be set, but once it is cleared new entries can. -/
theorem frozen_until_cleared_pair :
    ∃ copy later, samplePair.deliveryCopy = .ok copy ∧
      later = after Operation.use
        [.property "colour" .null, .body (.set (.entry "a" (.int 2)))] copy ∧
      later.body.encode = copy.body.encode ∧
      later.properties.values = copy.properties.values ∧
      outcomes (fun s => onBody s.use)
        [Body.Setter.entry "a" (.int 2), .entryRange "b" [1] 0 2] later.clearBody =
          [.ok (), .error (.rangeOutside 0 2 1)] := by
  have copied : ∃ copy, samplePair.deliveryCopy = .ok copy ∧ copy.kind = .map := ⟨_, rfl, rfl⟩
  obtain ⟨copy, copied, kind⟩ := copied
  have body := frozen_until_cleared.1 copy (.delivered copied)
    [.property "colour" .null, .body (.set (.entry "a" (.int 2)))]
  have properties := frozen_until_cleared.2.1 samplePair copy copied
    [.property "colour" .null, .body (.set (.entry "a" (.int 2)))]
  refine ⟨copy, _, copied, rfl, body.content, properties.values, ?_⟩
  refine (body.writable _ ?_).trans rfl
  intro s mem
  simp only [List.mem_cons, List.not_mem_nil, or_false] at mem
  obtain rfl | rfl := mem
  · exact kind.symm
  · exact kind.symm

end Message

end Courier
