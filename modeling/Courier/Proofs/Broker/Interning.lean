import Courier.Proofs.Broker.Representation

/-!
# How names are interned

The table of names after a run is read off the run: under each kind and lowercase name stands the
spelling of the first call that asked for it. What stands there stays, since only operations on
the consumers of a lasting destination touch its site.
-/

namespace Courier.Broker

set_option autoImplicit false

variable {ε : Type}

namespace Operation

/-- The name an operation interns a destination of that kind and lowercase name under, if the name
is still free. A call with an empty name fails. -/
def spelling (kind : DestinationKind) (key : String) : Operation ε → Option String
  | .createDestination name kind' =>
    if name ≠ "" ∧ kind' = kind ∧ Text.lowercase name = key then some name else none
  | _ => none

/-- The destination whose consumers an operation is about. -/
def site? : Operation ε → Option Destination
  | .register d _ _ _ | .unregister d _ => some d
  | _ => none

theorem lowercase_of_spelling {op : Operation ε} {kind : DestinationKind} {key name : String}
    (spelled : op.spelling kind key = some name) : Text.lowercase name = key := by
  cases op with
  | createDestination name' kind' =>
    obtain ⟨⟨-, -, folded⟩, rfl⟩ := Option.ite_none_right_eq_some.mp spelled |>.imp id Option.some.inj
    exact folded
  | createTemporary | deleteTemporary | register | unregister | send | claim | release
  | releaseConnection => cases spelled

end Operation

/-- The spelling of the first call in a run to ask for that kind and lowercase name. -/
def firstSpelling (ops : List (Operation ε)) (kind : DestinationKind) (key : String) :
    Option String :=
  ops.findSome? (·.spelling kind key)

section
variable {ops ops' : List (Operation ε)} {kind : DestinationKind} {key name : String}

theorem lowercase_of_firstSpelling (first : firstSpelling ops kind key = some name) :
    Text.lowercase name = key := by
  obtain ⟨op, -, spelled⟩ := List.exists_of_findSome?_eq_some first
  exact Operation.lowercase_of_spelling spelled

theorem lowercase_firstSpelling_getD (ops : List (Operation ε)) (kind : DestinationKind)
    (name : String) :
    Text.lowercase ((firstSpelling ops kind (Text.lowercase name)).getD name) =
      Text.lowercase name := by
  cases first : firstSpelling ops kind (Text.lowercase name) with
  | none => rfl
  | some name' => exact lowercase_of_firstSpelling first

theorem firstSpelling_append :
    firstSpelling (ops ++ ops') kind key =
      (firstSpelling ops kind key).or (firstSpelling ops' kind key) :=
  List.findSome?_append

theorem firstSpelling_singleton (op : Operation ε) :
    firstSpelling [op] kind key = op.spelling kind key := by
  rw [firstSpelling, List.findSome?_cons]
  cases op.spelling kind key <;> rfl

end

variable {b x : Broker ε} {d : Destination} {name : String} {kind : DestinationKind}

/-- A call gives what stands under the name, or else a new destination with its own spelling. -/
theorem createDestination_given (done : b.createDestination name kind = .ok (d, x)) :
    name ≠ "" ∧
      d = (b.names.get? (kind, Text.lowercase name)).getD { name, kind } ∧
      x = b.after (.createDestination name kind) := by
  refine ⟨?_, ?_, ?_⟩
  · rintro rfl
    cases done
  · unfold createDestination at done
    split at done
    · cases done
    · dsimp only at done
      split at done
      · rename_i found
        cases done
        rw [found]
        rfl
      · rename_i fresh
        cases done
        rw [fresh]
        rfl
  · rw [after, perform, done]
    rfl

theorem names_createDestination (b : Broker ε) (name : String) (kind : DestinationKind) :
    (b.after (.createDestination name kind)).names =
      if name ≠ "" ∧ b.names.get? (kind, Text.lowercase name) = none then
        b.names.insert (kind, Text.lowercase name) { name, kind }
      else b.names := by
  change (b.adopt ((b.createDestination name kind).map (·.2))).2.names = _
  unfold createDestination
  by_cases empty : name = ""
  · subst empty
    rfl
  · have given : ¬ name.isEmpty = true := by simpa using empty
    rw [if_neg given]
    cases found : b.names.get? (kind, Text.lowercase name) with
    | some d =>
      rw [if_neg (by simp)]
      simp only [found]
      rfl
    | none =>
      rw [if_pos ⟨empty, rfl⟩]
      simp only [found]
      rfl

/-- No operation takes a name out of the table or changes what it stands for. -/
theorem names_after (b : Broker ε) (op : Operation ε) (kind : DestinationKind) (key : String) :
    (b.after op).names.get? (kind, key) =
      (b.names.get? (kind, key)).or ((op.spelling kind key).map fun name => { name, kind }) := by
  have same (kept : (b.after op).names = b.names) (other : op.spelling kind key = none) :
      (b.after op).names.get? (kind, key) =
        (b.names.get? (kind, key)).or ((op.spelling kind key).map fun name => { name, kind }) := by
    rw [kept, other, Option.map_none, Option.or_none]
  have kept {r : Except Error (Broker ε)} (changed : ∀ x, r = .ok x → x.names = b.names) :
      (b.adopt r).2.names = b.names := adopt_of (P := (·.names = b.names)) rfl changed
  cases op with
  | createDestination name kind' =>
    rw [names_createDestination]
    by_cases asked : name ≠ "" ∧ kind' = kind ∧ Text.lowercase name = key
    · have spelled : (Operation.createDestination name kind' : Operation ε).spelling kind key =
          some name := if_pos asked
      rw [spelled]
      obtain ⟨given, rfl, rfl⟩ := asked
      cases found : b.names.get? (kind', Text.lowercase name) with
      | some d => rw [if_neg (by simp), found, Option.some_or]
      | none => rw [if_pos ⟨given, rfl⟩, Table.get?_insert_self, Option.none_or, Option.map_some]
    · have unspelled : (Operation.createDestination name kind' : Operation ε).spelling kind key =
          none := if_neg asked
      rw [unspelled, Option.map_none, Option.or_none]
      split
      · rename_i fresh
        refine Table.get?_insert_of_ne _ ?_ _
        rintro ⟨⟩
        exact asked ⟨fresh.1, rfl, rfl⟩
      · rfl
  | createTemporary | send | releaseConnection => exact same rfl rfl
  | deleteTemporary d owner =>
    refine same (kept fun x done => ?_) rfl
    obtain ⟨_, -, -, -, -, rfl⟩ := deleteTemporary_ok done
    rfl
  | register d id owner e =>
    refine same (kept fun x done => ?_) rfl
    obtain ⟨_, -, -, -, rfl⟩ := register_ok done
    rfl
  | unregister d id =>
    refine same (kept fun x done => ?_) rfl
    obtain ⟨_, -, rfl⟩ := unregister_ok done
    rfl
  | claim id owner => exact same (kept fun x done => (claim_ok done).2) rfl
  | release id owner =>
    refine same ?_ rfl
    change (b.release id owner).names = b.names
    unfold release
    split <;> rfl

/-- The table of names after a run tells who asked first. -/
theorem names_reached (broker : String) (ops : List (Operation ε)) (kind : DestinationKind)
    (key : String) :
    (reached broker ops).names.get? (kind, key) =
      (firstSpelling ops kind key).map fun name => { name, kind } := by
  induction ops using List.reverseRecOn with
  | nil => rfl
  | append_singleton ops op ih =>
    rw [reached_append_singleton, names_after, ih, firstSpelling_append, firstSpelling_singleton,
      Option.map_or]

/-- What a name stands for lasts. -/
theorem names_run {b : Broker ε} {kind : DestinationKind} {key : String} {d : Destination}
    (found : b.names.get? (kind, key) = some d) (ops : List (Operation ε)) :
    (b.run ops).names.get? (kind, key) = some d := by
  induction ops generalizing b with
  | nil => exact found
  | cons op ops ih =>
    apply ih
    rw [names_after, found, Option.some_or]

/-- Only operations on its consumers touch the site of a lasting destination. -/
theorem Coherent.site_after {b : Broker ε} {d : Destination} (coherent : b.Coherent)
    (here : b.interned d = true) (lasting : d.temporary = false) {op : Operation ε}
    (elsewhere : op.site? ≠ some d) :
    (b.after op).destinations.get? d = b.destinations.get? d := by
  have kept {r : Except Error (Broker ε)}
      (changed : ∀ x, r = .ok x → x.destinations.get? d = b.destinations.get? d) :
      (b.adopt r).2.destinations.get? d = b.destinations.get? d :=
    adopt_of (P := (·.destinations.get? d = b.destinations.get? d)) rfl changed
  cases op with
  | createDestination name kind =>
    refine kept fun x done => ?_
    obtain ⟨r, made, rfl⟩ := ok_of_map done
    rcases createDestination_ok (d := r.1) made with same | ⟨new, fresh, same⟩
    · rw [same]
    · have other : d ≠ r.1 := by
        rintro rfl
        have spelled := coherent.spelled here lasting
        rw [new, fresh] at spelled
        cases spelled
      rw [same]
      exact Table.get?_insert_of_ne _ other _
  | createTemporary token kind owner =>
    refine Table.get?_insert_of_ne _ ?_ _
    rintro rfl
    cases lasting
  | deleteTemporary d' owner =>
    refine kept fun x done => ?_
    obtain ⟨_, temporary, -, -, -, rfl⟩ := deleteTemporary_ok done
    rw [Table.get?_erase, if_neg]
    rintro rfl
    rw [temporary] at lasting
    cases lasting
  | register d' id owner e =>
    refine kept fun x done => ?_
    obtain ⟨_, -, -, -, rfl⟩ := register_ok done
    exact Table.get?_insert_of_ne _ (fun same => elsewhere (congrArg some same.symm)) _
  | unregister d' id =>
    refine kept fun x done => ?_
    obtain ⟨_, -, rfl⟩ := unregister_ok done
    exact Table.get?_insert_of_ne _ (fun same => elsewhere (congrArg some same.symm)) _
  | send => rfl
  | claim id owner =>
    refine kept fun x done => ?_
    rw [(claim_ok done).1]
  | release id owner =>
    change (b.release id owner).destinations.get? d = _
    unfold Broker.release
    split <;> rfl
  | releaseConnection owner =>
    apply Option.ext
    intro s
    refine (destinations_releaseConnection b).trans (and_iff_left_of_imp fun site => ?_)
    rw [coherent.unowned site lasting]
    simp

/-- A call in a run gives the first spelling there was, its own if there was none. -/
theorem created_reached {broker : String} {ops : List (Operation ε)}
    (done : (reached broker ops).createDestination name kind = .ok (d, x)) :
    name ≠ "" ∧
      d = { name := (firstSpelling ops kind (Text.lowercase name)).getD name, kind } ∧
      x = reached broker (ops ++ [.createDestination name kind]) := by
  obtain ⟨given, result, rfl⟩ := createDestination_given done
  refine ⟨given, ?_, (reached_append_singleton ..).symm⟩
  rw [result, names_reached]
  cases firstSpelling ops kind (Text.lowercase name) <;> rfl

theorem firstSpelling_snoc_getD (ops : List (Operation ε)) (kind : DestinationKind)
    (given : name ≠ "") :
    firstSpelling (ops ++ [.createDestination name kind]) kind (Text.lowercase name) =
      some ((firstSpelling ops kind (Text.lowercase name)).getD name) := by
  have own : (Operation.createDestination name kind : Operation ε).spelling kind
      (Text.lowercase name) = some name := if_pos ⟨given, rfl, rfl⟩
  rw [firstSpelling_append, firstSpelling_singleton, own]
  cases firstSpelling ops kind (Text.lowercase name) <;> rfl

/-- Two calls in a run give one destination exactly when they ask for one kind and, up to case, for
one name. The destination has the first spelling of all, is never dropped, and no operation but a
registration or an unregistration there, such as the deletion of a temporary destination or the
release of a connection, touches it or its consumers. -/
theorem interning_stable {broker : String} {before between : List (Operation ε)}
    {name name' : String} {kind kind' : DestinationKind} {d d' : Destination} {x x' : Broker ε}
    (first : (reached broker before).createDestination name kind = .ok (d, x))
    (second : (x.run between).createDestination name' kind' = .ok (d', x')) :
    (d' = d ↔ kind' = kind ∧ Text.lowercase name' = Text.lowercase name) ∧
    d = { name := (firstSpelling before kind (Text.lowercase name)).getD name, kind } ∧
    d' = { name := (firstSpelling (before ++ .createDestination name kind :: between) kind'
      (Text.lowercase name')).getD name', kind := kind' } ∧
    ∀ later, (x.run later).interned d = true ∧
      ∀ op, op.site? ≠ some d →
        ((x.run later).after op).destinations.get? d = (x.run later).destinations.get? d := by
  obtain ⟨given, result, rfl⟩ := created_reached first
  rw [← reached_append] at second
  obtain ⟨-, result', -⟩ := created_reached second
  refine ⟨⟨?_, ?_⟩, result, ?_, ?_⟩
  · intro same
    rw [result, result'] at same
    obtain ⟨names, kinds, -⟩ := Destination.mk.inj same
    refine ⟨kinds, ?_⟩
    have folded := congrArg Text.lowercase names
    rwa [lowercase_firstSpelling_getD, lowercase_firstSpelling_getD] at folded
  · rintro ⟨rfl, folded⟩
    have known := firstSpelling_snoc_getD before kind' given
    rw [result', result, folded, firstSpelling_append, known]
    rfl
  · rw [result', List.append_assoc]
    rfl
  · intro later
    rw [← reached_append]
    have coherent := coherent_reached broker (before ++ [.createDestination name kind] ++ later)
    have found : (reached broker (before ++ [.createDestination name kind] ++ later)).names.get?
        (kind, Text.lowercase name) = some d := by
      rw [reached_append]
      apply names_run
      rw [names_reached, firstSpelling_snoc_getD before kind given, result]
      rfl
    obtain ⟨lasting, -, -, s, site, -⟩ := coherent.listed found
    have here := interned_iff.mpr ⟨s, site⟩
    exact ⟨here, fun op => coherent.site_after here lasting⟩

/-- A queue gets its first consumer, and the connection that owns a temporary topic goes. -/
def sampleBetween : List (Operation Unit) :=
  [.register { name := "Orders", kind := .queue } "c1" "conn" (), .createTemporary "1" .topic "conn",
    .createDestination "orders" .topic, .releaseConnection "conn"]

def sampleQueue : Destination := { name := "Orders", kind := .queue }

def sampleFirst : Broker Unit := reached "main" [.createDestination "Orders" .queue]

/-- Asked for again in another case, the queue is what it was. -/
theorem interning_stable_orders :
    (reached "main" []).createDestination "Orders" .queue = .ok (sampleQueue, sampleFirst) ∧
    (∃ d', (sampleFirst.run sampleBetween).createDestination "oRDERS" .queue =
      .ok (d', sampleFirst.run sampleBetween) ∧ d' = sampleQueue) ∧
    (sampleFirst.run sampleBetween).consumerIds sampleQueue = ["c1"] ∧
    ∀ owner, ((sampleFirst.run sampleBetween).after (.deleteTemporary sampleQueue owner)
      ).destinations.get? sampleQueue = (sampleFirst.run sampleBetween).destinations.get?
        sampleQueue := by
  have first : (reached "main" []).createDestination "Orders" .queue =
      .ok (sampleQueue, sampleFirst) := rfl
  have second : (sampleFirst.run sampleBetween).createDestination "oRDERS" .queue =
      .ok (sampleQueue, sampleFirst.run sampleBetween) := rfl
  obtain ⟨same, -, -, lasting⟩ := interning_stable first second
  refine ⟨first, ⟨_, second, same.mpr ⟨rfl, by decide⟩⟩, by decide, ?_⟩
  intro owner
  obtain ⟨-, kept⟩ := lasting sampleBetween
  exact kept _ (by simp [Operation.site?])

end Courier.Broker
