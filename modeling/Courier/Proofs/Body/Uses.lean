import Courier.Error
import Mathlib.Data.List.Forall2

/-!
# Series of uses

A use of a state returns something or an error, and in both cases leaves a state behind. In a
series each use finds what the one before it left.
-/

namespace Courier.Use

set_option autoImplicit false

variable {σ τ ι α : Type}

/-- What was returned. -/
def outcome : EStateM.Result Error σ α → Except Error α
  | .ok a _ => .ok a
  | .error e _ => .error e

/-- What was left behind. -/
def left : EStateM.Result Error σ α → σ
  | .ok _ s => s
  | .error _ s => s

/-- Why there is no result. -/
def reason : Except Error α → Option Error
  | .ok _ => none
  | .error e => some e

/-- What a series leaves behind. -/
def after (use : ι → EStateM Error σ α) (items : List ι) (s : σ) : σ :=
  items.foldl (fun s i => left (use i s)) s

/-- What the uses of a series return, one after the other. -/
def outcomes (use : ι → EStateM Error σ α) : List ι → σ → List (Except Error α)
  | [], _ => []
  | i :: items, s => outcome (use i s) :: outcomes use items (left (use i s))

/-- The items of a series whose use succeeds. -/
def accepted (use : ι → EStateM Error σ α) : List ι → σ → List ι
  | [], _ => []
  | i :: items, s =>
    match use i s with
    | .ok _ s' => i :: accepted use items s'
    | .error _ s' => accepted use items s'

theorem left_map {β : Type} (f : α → β) (use : EStateM Error σ α) (s : σ) :
    left ((f <$> use) s) = left (use s) := by
  simp only [Functor.map, EStateM.map]
  cases use s <;> rfl

theorem reason_eq_none_iff {x : Except Error α} : reason x = none ↔ ¬ ∃ e, x = .error e := by
  cases x <;> simp [reason]

section Series
variable {use : ι → EStateM Error σ α} {i : ι} {items : List ι} {s s' : σ} {a : α} {e : Error}

theorem after_cons : after use (i :: items) s = after use items (left (use i s)) := rfl

theorem after_ok (h : use i s = .ok a s') : after use (i :: items) s = after use items s' := by
  rw [after_cons, h]
  rfl

theorem outcomes_ok (h : use i s = .ok a s') :
    outcomes use (i :: items) s = .ok a :: outcomes use items s' := by
  rw [outcomes, h]
  rfl

theorem after_append (more : List ι) :
    after use (items ++ more) s = after use more (after use items s) := List.foldl_append

theorem outcomes_append (more : List ι) :
    outcomes use (items ++ more) s =
      outcomes use items s ++ outcomes use more (after use items s) := by
  induction items generalizing s with
  | nil => rfl
  | cons i items ih => rw [List.cons_append, outcomes, ih, outcomes, after_cons, List.cons_append]

theorem accepted_ok (h : use i s = .ok a s') :
    accepted use (i :: items) s = i :: accepted use items s' := by
  rw [accepted, h]

theorem accepted_error (h : use i s = .error e s') :
    accepted use (i :: items) s = accepted use items s' := by
  rw [accepted, h]

theorem accepted_append (more : List ι) :
    accepted use (items ++ more) s =
      accepted use items s ++ accepted use more (after use items s) := by
  induction items generalizing s with
  | nil => rfl
  | cons i items ih =>
    cases result : use i s with
    | ok a s' =>
      rw [List.cons_append, accepted_ok result, accepted_ok result, after_ok result, ih,
        List.cons_append]
    | error e s' =>
      rw [List.cons_append, accepted_error result, accepted_error result, after_cons, result, ih]
      rfl

/-- What every use keeps, a series keeps. -/
theorem after_induct {P : σ → Prop} (keep : ∀ i s, P s → P (left (use i s))) (h : P s) :
    P (after use items s) := by
  induction items generalizing s with
  | nil => exact h
  | cons i items ih => exact ih (keep i s h)

/-- States from which every use returns the same, and leaves such states behind, cannot be told
apart by a series. -/
theorem outcomes_eq {use' : ι → EStateM Error τ α} {R : σ → τ → Prop}
    (step : ∀ i s t, R s t →
      outcome (use i s) = outcome (use' i t) ∧ R (left (use i s)) (left (use' i t)))
    {t : τ} (related : R s t) : outcomes use items s = outcomes use' items t := by
  induction items generalizing s t with
  | nil => rfl
  | cons i items ih =>
    obtain ⟨same, next⟩ := step i s t related
    rw [outcomes, outcomes, same, ih next]

/-- As long as what a use returns is a matter of the item alone, so is what a series returns. -/
theorem outcomes_eq_map {P : σ → Prop} {f : ι → Except Error α}
    (step : ∀ i ∈ items, ∀ s, P s → outcome (use i s) = f i ∧ P (left (use i s))) (h : P s) :
    outcomes use items s = items.map f := by
  induction items generalizing s with
  | nil => rfl
  | cons i items ih =>
    obtain ⟨same, next⟩ := step i List.mem_cons_self s h
    rw [outcomes, same, List.map_cons, ih (fun j mem => step j (List.mem_cons_of_mem i mem)) next]

end Series

/-! Writing, as a body that is being written does it: each use appends what it has to write, or
refuses and appends nothing. -/

/-- With `out` written so far, `use` appends its encoding; if it has none it leaves `out`. -/
structure Appends (writing : List UInt8 → σ) (use : EStateM Error σ Unit)
    (encoding : Except Error (List UInt8)) : Prop where
  ok : ∀ bytes, encoding = .ok bytes → ∀ out, use (writing out) = .ok () (writing (out ++ bytes))
  error : ∀ e, encoding = .error e → ∀ out, use (writing out) = .error e (writing out)

theorem ofExcept_ok {β γ : Type} {x : Except Error β} {b : β} (h : x = .ok b)
    (f : β → EStateM Error σ γ) (s : σ) : (MonadExcept.ofExcept x >>= f) s = f b s := by
  subst h
  rfl

theorem ofExcept_error {β γ : Type} {x : Except Error β} {e : Error} (h : x = .error e)
    (f : β → EStateM Error σ γ) (s : σ) : (MonadExcept.ofExcept x >>= f) s = .error e s := by
  subst h
  rfl

/-- What is refused anyway is refused for the lack of what is to be used, if it is lacking. -/
theorem ofExcept_refused {β γ : Type} (x : Except Error β) {f : β → EStateM Error σ γ} {s : σ}
    {e : Error} (refused : ∀ b, f b s = .error e s) :
    (MonadExcept.ofExcept x >>= f) s = .error ((reason x).getD e) s := by
  cases x with
  | ok b => exact refused b
  | error e' => rfl

theorem bind_of_reason {β γ : Type} {x : Except Error β} {e : Error} (h : reason x = some e)
    (f : β → Except Error γ) : (x >>= f) = .error e := by
  cases x with
  | ok b => cases h
  | error e' => cases h; rfl

section Writing
variable {writing : List UInt8 → σ} {use : ι → EStateM Error σ Unit}
  {encoding : ι → Except Error (List UInt8)}

/-- What is written may be worked out first. -/
theorem Appends.ofExcept (x : Except Error ι)
    (appends : ∀ i, Appends writing (use i) (encoding i)) :
    Appends writing (MonadExcept.ofExcept x >>= use) (x >>= encoding) := by
  cases x with
  | ok i => exact ⟨(appends i).ok, (appends i).error⟩
  | error e =>
    refine ⟨?_, ?_⟩
    · intro bytes encoded
      cases encoded
    · intro e' failed out
      cases failed
      rfl

theorem Appends.error_iff {use : EStateM Error σ Unit} {encoding : Except Error (List UInt8)}
    (appends : Appends writing use encoding) (out : List UInt8) :
    (∃ e s, use (writing out) = .error e s) ↔ ∃ e, encoding = .error e := by
  cases encoded : encoding with
  | ok bytes => simp [appends.ok bytes encoded out]
  | error e => simp [appends.error e encoded out]

/-- After a series stand the encodings of the accepted items, one after the other. -/
theorem after_writing (appends : ∀ i, Appends writing (use i) (encoding i)) (items : List ι)
    (out : List UInt8) :
    ∃ segments, List.Forall₂ (fun i bytes => encoding i = .ok bytes)
        (accepted use items (writing out)) segments ∧
      after use items (writing out) = writing (out ++ segments.flatten) := by
  induction items generalizing out with
  | nil => exact ⟨[], .nil, by rw [List.flatten_nil, List.append_nil]; rfl⟩
  | cons i items ih =>
    cases encoded : encoding i with
    | ok bytes =>
      have put := (appends i).ok bytes encoded out
      obtain ⟨segments, matched, rest⟩ := ih (out ++ bytes)
      refine ⟨bytes :: segments, ?_, ?_⟩
      · rw [accepted_ok put]
        exact .cons encoded matched
      · rw [after_cons, put, List.flatten_cons, ← List.append_assoc]
        exact rest
    | error e =>
      have refused := (appends i).error e encoded out
      obtain ⟨segments, matched, rest⟩ := ih out
      refine ⟨segments, ?_, ?_⟩
      · rw [accepted_error refused]
        exact matched
      · rw [after_cons, refused]
        exact rest

end Writing

/-! A store may be locked. -/

/-- A setter of a store looks for a fault of its arguments first, then whether the store is locked,
and then for a flaw of what is to be written. It leaves a store it refuses to write to as it was,
and one it writes to open. -/
structure Guarded (readOnly : σ → Bool) (use : EStateM Error σ Unit)
    (fault : Option Error) (locked : Error) (flaw : Option Error) : Prop where
  faulty : ∀ s e, fault = some e → use s = .error e s
  frozen : ∀ s, fault = none → readOnly s = true → use s = .error locked s
  flawed : ∀ s e, fault = none → readOnly s = false → flaw = some e → use s = .error e s
  accepts : ∀ s, fault = none → readOnly s = false → flaw = none →
    ∃ s', use s = .ok () s' ∧ readOnly s' = false

/-- What a setter returns when its store is open. -/
def verdict (fault flaw : Option Error) : Except Error Unit :=
  match fault <|> flaw with
  | some e => .error e
  | none => .ok ()

theorem verdict_eq_ok_iff {fault flaw : Option Error} :
    verdict fault flaw = .ok () ↔ fault = none ∧ flaw = none := by
  cases fault <;> cases flaw <;> simp [verdict]

/-- What has an encoding is accepted. -/
theorem verdict_reason_iff {fault : Option Error} {encoding : Except Error (List UInt8)}
    (faulty : ∀ e, fault = some e → encoding = .error e) :
    verdict fault (reason encoding) = .ok () ↔ ¬ ∃ e, encoding = .error e := by
  rw [verdict_eq_ok_iff, reason_eq_none_iff]
  refine and_iff_right_of_imp fun encodes => ?_
  cases fault with
  | none => rfl
  | some e => exact absurd ⟨e, faulty e rfl⟩ encodes

namespace Guarded
variable {readOnly : σ → Bool} {use use' : EStateM Error σ Unit}
  {fault flaw : Option Error} {locked e : Error} {s s' : σ}

theorem throws (h : ∀ s, use s = .error e s) : Guarded readOnly use (some e) locked flaw where
  faulty s e' fault := by
    cases fault
    exact h s
  frozen _ fault := by cases fault
  flawed _ _ fault := by cases fault
  accepts _ fault := by cases fault

theorem congr (h : ∀ s, use' s = use s) (guarded : Guarded readOnly use fault locked flaw) :
    Guarded readOnly use' fault locked flaw := by
  have same : use' = use := funext h
  rwa [same]

theorem refuses (guarded : Guarded readOnly use fault locked flaw) (frozen : readOnly s = true) :
    use s = .error (fault.getD locked) s := by
  cases faulty : fault with
  | none => exact guarded.frozen s faulty frozen
  | some e => exact guarded.faulty s e faulty

/-- With an open store the write alone decides, and the store stays open. -/
theorem follows (guarded : Guarded readOnly use fault locked flaw) (writable : readOnly s = false) :
    outcome (use s) = verdict fault flaw ∧ readOnly (left (use s)) = false := by
  cases faulty : fault with
  | some e =>
    rw [guarded.faulty s e faulty]
    exact ⟨rfl, writable⟩
  | none =>
    cases flawed : flaw with
    | some e =>
      rw [guarded.flawed s e faulty writable flawed]
      exact ⟨rfl, writable⟩
    | none =>
      obtain ⟨s', ok, writable'⟩ := guarded.accepts s faulty writable flawed
      rw [ok]
      exact ⟨rfl, writable'⟩

/-- A setter that is written as its checks, one after the other, and the change. -/
theorem of_checks (put : σ → σ) (checks : ∀ s, use s =
    ((fault <|> if readOnly s then some locked else flaw).elim (.ok () (put s)) (.error · s)))
    (stays : ∀ s, readOnly (put s) = readOnly s) : Guarded readOnly use fault locked flaw where
  faulty s e fault := by
    rw [checks, fault]
    rfl
  frozen s fault frozen := by
    rw [checks, fault, if_pos frozen]
    rfl
  flawed s e fault writable flaw := by
    rw [checks, fault, if_neg (by simp [writable]), flaw]
    rfl
  accepts s fault writable flaw := by
    refine ⟨put s, ?_, (stays s).trans writable⟩
    rw [checks, fault, if_neg (by simp [writable]), flaw]
    rfl

/-- A use that is refused, for whatever reason, leaves the store as it was. -/
theorem keeps (guarded : Guarded readOnly use fault locked flaw) (refused : use s = .error e s') :
    s' = s := by
  have stays {e' : Error} (known : use s = .error e' s) : s' = s := by
    rw [known] at refused
    cases refused
    rfl
  -- whichever check refuses is told by the state, and only an open store comes to the last one
  by_cases frozen : readOnly s = true
  · exact stays (guarded.refuses frozen)
  · have writable : readOnly s = false := Bool.eq_false_iff.mpr frozen
    cases faulty : fault with
    | some e' => exact stays (guarded.faulty s e' faulty)
    | none =>
      cases flawed : flaw with
      | some e' => exact stays (guarded.flawed s e' faulty writable flawed)
      | none =>
        obtain ⟨s'', ok, -⟩ := guarded.accepts s faulty writable flawed
        rw [ok] at refused
        cases refused

/-- A store that is open as long as it is being written, where each write appends. -/
theorem of_appends {writing : List UInt8 → σ} {encoding : Except Error (List UInt8)}
    (appends : Appends writing use encoding) (writable : ∀ out, readOnly (writing out) = false)
    (faulty : ∀ e, fault = some e → encoding = .error e)
    (states : ∀ s, (∃ out, s = writing out) ∨
      readOnly s = true ∧ use s = .error (fault.getD locked) s) :
    Guarded readOnly use fault locked (reason encoding) where
  faulty s e fault := by
    obtain ⟨out, rfl⟩ | ⟨-, refused⟩ := states s
    · exact appends.error e (faulty e fault) out
    · rw [refused, fault, Option.getD_some]
  frozen s fault locked := by
    obtain ⟨out, rfl⟩ | ⟨-, refused⟩ := states s
    · rw [writable] at locked
      cases locked
    · rw [refused, fault, Option.getD_none]
  flawed s e _ isOpen flaw := by
    obtain ⟨out, rfl⟩ | ⟨locked, -⟩ := states s
    · cases encoding with
      | ok bytes => cases flaw
      | error e' =>
        cases flaw
        exact appends.error e rfl out
    · rw [isOpen] at locked
      cases locked
  accepts s _ isOpen flaw := by
    obtain ⟨out, rfl⟩ | ⟨locked, -⟩ := states s
    · cases encoding with
      | ok bytes => exact ⟨writing (out ++ bytes), appends.ok bytes rfl out, writable _⟩
      | error e => cases flaw
    · rw [isOpen] at locked
      cases locked

end Guarded

end Courier.Use
