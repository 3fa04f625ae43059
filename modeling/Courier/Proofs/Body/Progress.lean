import Courier.Proofs.Body.Frozen

/-!
# Reading any data

Bodies may have been decoded from anything. Still a read that fails leaves its body as it was, so it
might as well not have been made, and one that succeeds moves on within the data, by a byte at least
if it reads a value. So nobody reads values for ever.
-/

namespace Courier

set_option autoImplicit false

namespace Use

variable {σ ι α β : Type}

/-- The use goes over `content` from a `place` in it. It fails without a trace, and when it succeeds
it has moved on by `least` or more. -/
structure Forward (content : σ → List UInt8) (place : σ → Nat) (least : Nat)
    (use : EStateM Error σ α) : Prop where
  traceless : ∀ s e s', use s = .error e s' → s' = s
  advances : ∀ s a s', use s = .ok a s' → content s' = content s ∧ place s + least ≤ place s'

theorem Forward.map {content : σ → List UInt8} {place : σ → Nat} {least : Nat}
    {use : EStateM Error σ α} (forward : Forward content place least use) (f : α → β) :
    Forward content place least (f <$> use) := by
  refine ⟨?_, ?_⟩
  · intro s e s' failed
    simp only [Functor.map, EStateM.map] at failed
    cases result : use s with
    | ok a s₁ =>
      rw [result] at failed
      cases failed
    | error e' s₁ =>
      rw [result] at failed
      cases failed
      exact forward.traceless s e s' result
  · intro s b s' done
    simp only [Functor.map, EStateM.map] at done
    cases result : use s with
    | ok a s₁ =>
      rw [result] at done
      cases done
      exact forward.advances s a s' result
    | error e s₁ =>
      rw [result] at done
      cases done

/-- What always fails without a trace moves as far as one likes. -/
theorem Forward.throws {content : σ → List UInt8} {place : σ → Nat} {least : Nat}
    {use : EStateM Error σ α} {e : Error} (h : ∀ s, use s = .error e s) :
    Forward content place least use := by
  refine ⟨?_, ?_⟩
  · intro s e' s' failed
    rw [h] at failed
    cases failed
    rfl
  · intro s a s' done
    rw [h] at done
    cases done

section Series
variable {use : ι → EStateM Error σ α} {content : σ → List UInt8} {place : σ → Nat}
  {least : ι → Nat} {items : List ι} {s : σ}

/-- The uses that fail may be left out of a series. -/
theorem leave_out (forward : ∀ i, Forward content place (least i) (use i)) (items : List ι)
    (s : σ) :
    after use (accepted use items s) s = after use items s ∧
      outcomes use (accepted use items s) s = (outcomes use items s).filter (·.isOk) := by
  induction items generalizing s with
  | nil => exact ⟨rfl, rfl⟩
  | cons i items ih =>
    cases result : use i s with
    | ok a s' =>
      obtain ⟨left, returned⟩ := ih s'
      rw [accepted_ok result, after_ok result, after_ok result, outcomes_ok result,
        outcomes_ok result, List.filter_cons_of_pos rfl, returned]
      exact ⟨left, rfl⟩
    | error e s' =>
      obtain rfl := (forward i).traceless s e s' result
      obtain ⟨left, returned⟩ := ih s'
      rw [accepted_error result, after_cons, outcomes, result]
      exact ⟨left, returned⟩

/-- A series stays with its data and moves on by what its successful uses need. -/
theorem after_forward (forward : ∀ i, Forward content place (least i) (use i)) (items : List ι)
    (s : σ) : content (after use items s) = content s ∧
      place s + ((accepted use items s).map least).sum ≤ place (after use items s) := by
  induction items generalizing s with
  | nil => exact ⟨rfl, Nat.le_refl _⟩
  | cons i items ih =>
    cases result : use i s with
    | ok a s' =>
      obtain ⟨same, moved⟩ := ih s'
      obtain ⟨same', moved'⟩ := (forward i).advances s a s' result
      rw [accepted_ok result, after_ok result, List.map_cons, List.sum_cons]
      exact ⟨same.trans same', by omega⟩
    | error e s' =>
      obtain rfl := (forward i).traceless s e s' result
      rw [accepted_error result, after_cons, result]
      exact ih s'

end Series

section Endless
variable {use : ι → EStateM Error σ α} {content : σ → List UInt8} {place : σ → Nat}

/-- What a series without end has come to after `n` uses. -/
def reachedBy (use : ι → EStateM Error σ α) (next : Nat → ι) (s : σ) (n : Nat) : σ :=
  after use ((List.range n).map next) s

theorem reachedBy_succ (next : Nat → ι) (s : σ) (n : Nat) :
    reachedBy use next s (n + 1) = left (use (next n) (reachedBy use next s n)) := by
  rw [reachedBy, List.range_succ, List.map_append, after_append]
  rfl

/-- As long as every use succeeds, a use that needs a byte each time has come `n` bytes far. -/
theorem le_place_reachedBy {next : Nat → ι} (forward : ∀ n, Forward content place 1 (use (next n)))
    {s : σ} {n : Nat}
    (succeed : ∀ i < n, ∃ a s', use (next i) (reachedBy use next s i) = .ok a s') :
    content (reachedBy use next s n) = content s ∧
      place s + n ≤ place (reachedBy use next s n) := by
  induction n with
  | zero => exact ⟨rfl, Nat.le_refl _⟩
  | succ n ih =>
    obtain ⟨same, far⟩ := ih fun i before => succeed i (Nat.lt_succ_of_lt before)
    obtain ⟨a, s', done⟩ := succeed n (Nat.lt_succ_self n)
    obtain ⟨same', further⟩ := (forward n).advances _ a s' done
    rw [reachedBy_succ, done]
    refine ⟨same'.trans same, ?_⟩
    show place s + (n + 1) ≤ place s'
    omega

/-- Within finite data there is a first use that fails. -/
theorem exists_first_failure {next : Nat → ι}
    (forward : ∀ n, Forward content place 1 (use (next n)))
    (inside : ∀ s, place s ≤ (content s).length) (s : σ) :
    ∃ n ≤ (content s).length,
      (∀ i < n, ∃ a s', use (next i) (reachedBy use next s i) = .ok a s') ∧
      ∃ e, use (next n) (reachedBy use next s n) = .error e (reachedBy use next s n) := by
  -- count up while all uses so far have succeeded; the data has too few bytes for one more of them
  suffices search : ∀ k n, n + k = (content s).length + 1 →
      (∀ i < n, ∃ a s', use (next i) (reachedBy use next s i) = .ok a s') →
      ∃ n ≤ (content s).length,
        (∀ i < n, ∃ a s', use (next i) (reachedBy use next s i) = .ok a s') ∧
        ∃ e, use (next n) (reachedBy use next s n) = .error e (reachedBy use next s n) from
    search _ 0 (Nat.zero_add _) fun i before => absurd before (Nat.not_lt_zero i)
  intro k
  induction k with
  | zero =>
    intro n last succeed
    obtain ⟨same, far⟩ := le_place_reachedBy forward succeed
    have most := inside (reachedBy use next s n)
    rw [same] at most
    omega
  | succ k ih =>
    intro n left succeed
    cases result : use (next n) (reachedBy use next s n) with
    | error e s' =>
      obtain rfl := (forward n).traceless _ e s' result
      exact ⟨n, by omega, succeed, e, result⟩
    | ok a s' =>
      refine ih (n + 1) (by omega) ?_
      intro i before
      rcases Nat.lt_succ_iff_lt_or_eq.mp before with earlier | rfl
      · exact succeed i earlier
      · exact ⟨a, s', result⟩

end Endless

end Use

/-! ## Bytes bodies -/

namespace BytesBody

/-- Where reading stands. -/
def position : BytesBody → Nat
  | writing _ => 0
  | reading c => c.position

theorem position_le (b : BytesBody) : b.position ≤ b.encode.length := by
  cases b with
  | writing out => exact Nat.zero_le _
  | reading c => exact Nat.sub_le _ _

theorem forward_read {α : Type} {r : Wire.Read α} {k : Nat} (advances : r.Advances k) :
    Use.Forward encode position k (read r) := by
  refine ⟨?_, ?_⟩
  · intro b e b' failed
    cases b with
    | writing out =>
      cases failed
      rfl
    | reading c =>
      cases result : r c with
      | error e' c' =>
        simp only [read, result] at failed
        cases failed
        rfl
      | ok a c' =>
        simp only [read, result] at failed
        cases failed
  · intro b a b' done
    cases b with
    | writing out => cases done
    | reading c =>
      cases result : r c with
      | error e c' =>
        simp only [read, result] at done
        cases done
      | ok a' c' =>
        simp only [read, result] at done
        cases done
        obtain ⟨n, least, most, rfl⟩ := advances c c' a result
        refine ⟨rfl, ?_⟩
        show c.position + k ≤ (c.skip n).position
        rw [c.position_skip most]
        omega

theorem forward_readBytesUpTo (buffer : List UInt8) (length : Nat) :
    Use.Forward encode position 0 (readBytesUpTo buffer length) := by
  by_cases long : buffer.length < length
  · refine Use.Forward.throws (e := .lengthExceeds length buffer.length) fun b => ?_
    simp only [readBytesUpTo, if_pos long]
    rfl
  · have within : readBytesUpTo buffer length =
        (fun part => (part.1, part.2 ++ buffer.drop length)) <$>
          readBytes (buffer.take length) := by
      simp only [readBytesUpTo, if_neg long]
      rfl
    rw [within]
    exact (forward_read (Wire.Read.advances_into _)).map _

end BytesBody

/-! ## Stream bodies -/

namespace StreamBody

/-- Where reading stands. Bytes that are being handed out have been left behind. -/
def position : StreamBody → Nat
  | writing _ => 0
  | reading c _ => c.position

theorem position_le (b : StreamBody) : b.position ≤ b.encode.length := by
  cases b with
  | writing out => exact Nat.zero_le _
  | reading c chunk => exact Nat.sub_le _ _

/-- A value that was read lies behind the place where it was found. -/
theorem position_of_value {c c' : Wire.Cursor} {v : Value} (read : Wire.Read.value c = .ok v c') :
    c'.data = c.data ∧ c.position + 1 ≤ c'.position := by
  obtain ⟨n, least, most, rfl⟩ := Wire.Read.advances_value c c' v read
  rw [c.position_skip most]
  exact ⟨rfl, by omega⟩

theorem forward_read {α : Type} (convert : Value → Except Error α) :
    Use.Forward encode position 1 (read convert) := by
  refine ⟨?_, ?_⟩
  · intro b e b' failed
    unfold read at failed
    split at failed
    · cases failed
      rfl
    · cases failed
      rfl
    · split at failed
      · cases failed
        rfl
      · split at failed
        · cases failed
        · cases failed
          rfl
  · intro b a b' done
    unfold read at done
    split at done
    · cases done
    · cases done
    · split at done
      · cases done
      · rename_i result
        split at done
        · cases done
          exact position_of_value result
        · cases done

theorem forward_readBytes (buffer : List UInt8) :
    Use.Forward encode position 0 (readBytes buffer) := by
  refine ⟨?_, ?_⟩
  · intro b e b' failed
    unfold readBytes at failed
    split at failed
    · cases failed
      rfl
    · cases failed
    · split at failed
      · cases failed
        rfl
      · cases failed
      · cases failed
      · cases failed
        rfl
  · intro b a b' done
    -- bytes are handed out without a move, and an entry is opened by moving behind it
    have stays (c : Wire.Cursor) (chunk : Chunk) (handed : (handOut c chunk buffer).2 = b') :
        b'.encode = c.data ∧ b'.position = c.position := by
      obtain ⟨chunk', out⟩ := handOut_data c chunk buffer
      rw [← handed, out]
      exact ⟨rfl, rfl⟩
    unfold readBytes at done
    split at done
    · cases done
    · rename_i c chunk
      cases done
      obtain ⟨data, place⟩ := stays c chunk rfl
      exact ⟨data, Nat.le_of_eq place.symm⟩
    · split at done
      · cases done
      · rename_i result
        cases done
        obtain ⟨data, further⟩ := position_of_value result
        exact ⟨data, Nat.le_of_succ_le further⟩
      · rename_i bytes c' result
        cases done
        obtain ⟨data, place⟩ := stays c' ⟨bytes, false⟩ rfl
        obtain ⟨data', further⟩ := position_of_value result
        refine ⟨data.trans data', ?_⟩
        rw [place]
        exact Nat.le_of_succ_le further
      · cases done

end StreamBody

/-! ## Bodies -/

namespace Body

/-- The data that is read from a place in it. Other bodies have none. -/
def content : Body → List UInt8
  | bytes b => b.encode
  | stream b => b.encode
  | _ => []

def position : Body → Nat
  | bytes b => b.position
  | stream b => b.position
  | _ => 0

/-- Everything that reads from a place in a body: values, and bytes into buffers. -/
inductive Pull
  | bytes (g : BytesBody.Get)
  | bytesUpTo (buffer : List UInt8) (length : Nat)
  | stream (wanted : Option ValueType)
  | streamBytes (buffer : List UInt8)

namespace Pull

def use : Pull → EStateM Error Body BytesBody.Answer
  | bytes g => onBytes g.use
  | bytesUpTo buffer length =>
    onBytes ((fun part => .part part.1 part.2) <$> BytesBody.readBytesUpTo buffer length)
  | stream wanted => onStream (.value <$> StreamBody.read (StreamBody.conversion wanted))
  | streamBytes buffer =>
    onStream ((fun part => .part part.1 part.2) <$> StreamBody.readBytes buffer)

/-- It reads a value. -/
def typed : Pull → Bool
  | bytes (.one _) | stream _ => true
  | _ => false

def least (p : Pull) : Nat := if p.typed then 1 else 0

end Pull

theorem position_le (b : Body) : b.position ≤ b.content.length := by
  cases b with
  | bytes b => exact b.position_le
  | stream b => exact b.position_le
  | _ => exact Nat.zero_le _

section Shapes
variable {α : Type} {least : Nat}

theorem forward_within {β : Type} (whole : β → Body) {inner : β → List UInt8} {place : β → Nat}
    {use : EStateM Error β α} (forward : Use.Forward inner place least use)
    (content : ∀ part, (whole part).content = inner part)
    (position : ∀ part, (whole part).position = place part) (part : β) :
    (∀ e b, within whole (use part) = .error e b → b = whole part) ∧
    ∀ a b, within whole (use part) = .ok a b →
      b.content = (whole part).content ∧ (whole part).position + least ≤ b.position := by
  cases result : use part with
  | error e part' =>
    obtain rfl := forward.traceless part e part' result
    refine ⟨?_, ?_⟩
    · intro e' b failed
      cases failed
      rfl
    · intro a b done
      cases done
  | ok a part' =>
    refine ⟨?_, ?_⟩
    · intro e b failed
      cases failed
    · intro a' b done
      cases done
      rw [content, content, position, position]
      exact forward.advances part a part' result

theorem forward_onBytes {use : EStateM Error BytesBody α}
    (forward : Use.Forward BytesBody.encode BytesBody.position least use) :
    Use.Forward content position least (onBytes use) := by
  have part (b : BytesBody) := forward_within bytes forward (fun _ => rfl) (fun _ => rfl) b
  refine ⟨?_, ?_⟩
  · intro b e b' failed
    cases b with
    | bytes b => exact (part b).1 e b' failed
    | _ => cases failed; rfl
  · intro b a b' done
    cases b with
    | bytes b => exact (part b).2 a b' done
    | _ => cases done

theorem forward_onStream {use : EStateM Error StreamBody α}
    (forward : Use.Forward StreamBody.encode StreamBody.position least use) :
    Use.Forward content position least (onStream use) := by
  have part (b : StreamBody) := forward_within stream forward (fun _ => rfl) (fun _ => rfl) b
  refine ⟨?_, ?_⟩
  · intro b e b' failed
    cases b with
    | stream b => exact (part b).1 e b' failed
    | _ => cases failed; rfl
  · intro b a b' done
    cases b with
    | stream b => exact (part b).2 a b' done
    | _ => cases done

end Shapes

theorem Pull.forward (p : Pull) : Use.Forward content position p.least p.use := by
  cases p with
  | bytes g =>
    refine forward_onBytes ?_
    rw [g.use_eq]
    cases g with
    | one type => exact BytesBody.forward_read (type.advances.map _)
    | part buffer => exact BytesBody.forward_read ((Wire.Read.advances_into buffer).map _)
  | bytesUpTo buffer length => exact forward_onBytes ((BytesBody.forward_readBytesUpTo _ _).map _)
  | stream wanted => exact forward_onStream ((StreamBody.forward_read _).map _)
  | streamBytes buffer => exact forward_onStream ((StreamBody.forward_readBytes buffer).map _)

theorem sum_least (pulls : List Pull) :
    (pulls.map Pull.least).sum = (pulls.filter Pull.typed).length := by
  induction pulls with
  | nil => rfl
  | cons p pulls ih =>
    rw [List.map_cons, List.sum_cons, ih, Pull.least]
    cases typed : p.typed with
    | false => rw [List.filter_cons_of_neg (by simp [typed]), if_neg (by decide), Nat.zero_add]
    | true =>
      rw [List.filter_cons_of_pos typed, if_pos rfl, List.length_cons]
      exact Nat.add_comm _ _

/-- Whatever a bytes or stream body was decoded from and wherever its reading stands, a read that
fails leaves the body as it was, array in progress included, and might be left out of any series. A
series never leaves the data and never goes back; each value read takes a byte at least. So of reads
of values without end one fails, and before it there are no more of them than bytes of data. -/
theorem reads_without_trace :
    (∀ (p : Pull) (b : Body), (∃ a b', p.use b = .ok a b') ∨ ∃ e, p.use b = .error e b) ∧
    (∀ (pulls : List Pull) (b : Body),
      Use.after Pull.use (Use.accepted Pull.use pulls b) b = Use.after Pull.use pulls b ∧
      Use.outcomes Pull.use (Use.accepted Pull.use pulls b) b =
        (Use.outcomes Pull.use pulls b).filter (·.isOk)) ∧
    (∀ (pulls : List Pull) (b : Body),
      (Use.after Pull.use pulls b).content = b.content ∧
      b.position + ((Use.accepted Pull.use pulls b).filter Pull.typed).length ≤
        (Use.after Pull.use pulls b).position ∧
      (Use.after Pull.use pulls b).position ≤ b.content.length) ∧
    (∀ data : List UInt8,
      ((Body.bytes (.decode (some data))).content = data ∧
        (Body.bytes (.decode (some data))).position = 0) ∧
      (Body.stream (.decode (some data))).content = data ∧
        (Body.stream (.decode (some data))).position = 0) ∧
    ∀ (next : Nat → Pull) (b : Body), (∀ n, (next n).typed = true) →
      ∃ n ≤ b.content.length,
        (∀ i < n, ∃ a b', (next i).use (Use.reachedBy Pull.use next b i) = .ok a b') ∧
        ∃ e, (next n).use (Use.reachedBy Pull.use next b n) =
          .error e (Use.reachedBy Pull.use next b n) := by
  refine ⟨?_, Use.leave_out Pull.forward, ?_, ?_, ?_⟩
  · intro p b
    cases result : p.use b with
    | ok a b' => exact .inl ⟨a, b', rfl⟩
    | error e b' =>
      obtain rfl := p.forward.traceless b e b' result
      exact .inr ⟨e, rfl⟩
  · intro pulls b
    obtain ⟨same, moved⟩ := Use.after_forward Pull.forward pulls b
    rw [sum_least] at moved
    have inside := position_le (Use.after Pull.use pulls b)
    rw [same] at inside
    exact ⟨same, moved, inside⟩
  · intro data
    have start : (Wire.Cursor.start data).position = 0 := Nat.sub_self _
    exact ⟨⟨rfl, start⟩, rfl, start⟩
  · intro next b typed
    have forward (n : Nat) : Use.Forward content position 1 (next n).use := by
      have forward := (next n).forward
      rwa [Pull.least, if_pos (typed n)] at forward
    exact Use.exists_first_failure forward position_le b

/-- A number, half a pair of characters and a tag that means nothing. -/
def sampleDebris : Body := .stream (.decode (some [2, 7, 3, 0xD8, 0, 99]))

/-- The number is read, and then no value any more, however often it is tried. -/
theorem reads_without_trace_debris :
    (Pull.stream none).typed = true ∧
    ∃ n ≤ 6, (∀ i < n, ∃ a b', (Pull.stream none).use
        (Use.reachedBy Pull.use (fun _ => .stream none) sampleDebris i) = .ok a b') ∧
      ∃ e, (Pull.stream none).use
          (Use.reachedBy Pull.use (fun _ => .stream none) sampleDebris n) =
        .error e (Use.reachedBy Pull.use (fun _ => .stream none) sampleDebris n) :=
  ⟨rfl, reads_without_trace.2.2.2.2 (fun _ => .stream none) sampleDebris fun _ => rfl⟩

end Body

end Courier
