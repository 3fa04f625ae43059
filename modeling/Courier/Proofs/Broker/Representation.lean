import Mathlib.Data.List.Induction
import Courier.Proofs.Broker

/-!
# What a broker keeps consistent

A run is any sequence of operations on one broker, with any destinations, owners and ids. After
each of them the table of names and the table of destinations agree: a lasting destination stands
in both, a temporary one in the second only, under its owner.
-/

namespace Courier.Broker

set_option autoImplicit false

variable {ε : Type}

/-- What can be asked of a broker; `token` makes the name of a temporary destination. Sending hands
out the endpoints and changes nothing; what these do next are operations of their own. -/
inductive Operation (ε : Type)
  | createDestination (name : String) (kind : DestinationKind)
  | createTemporary (token : String) (kind : DestinationKind) (owner : String)
  | deleteTemporary (d : Destination) (owner : String)
  | register (d : Destination) (id owner : String) (endpoint : ε)
  | unregister (d : Destination) (id : String)
  | send (d : Destination)
  | claim (id owner : String)
  | release (id owner : String)
  | releaseConnection (owner : String)

/-- The broker after an operation, which is the old one when the operation failed. -/
def adopt (b : Broker ε) : Except Error (Broker ε) → Except Error Unit × Broker ε
  | .ok x => (.ok (), x)
  | .error e => (.error e, b)

/-- How an operation ends, and the broker after it. -/
def perform (b : Broker ε) : Operation ε → Except Error Unit × Broker ε
  | .createDestination name kind => b.adopt ((b.createDestination name kind).map (·.2))
  | .createTemporary token kind owner => (.ok (), (b.createTemporary token kind owner).2)
  | .deleteTemporary d owner => b.adopt (b.deleteTemporary d owner)
  | .register d id owner endpoint => b.adopt (b.register d id owner endpoint)
  | .unregister d id => b.adopt (b.unregister d id)
  | .send d => ((b.endpoints d).map fun _ => (), b)
  | .claim id owner => b.adopt (b.claim id owner)
  | .release id owner => (.ok (), b.release id owner)
  | .releaseConnection owner => (.ok (), b.releaseConnection owner)

def after (b : Broker ε) (op : Operation ε) : Broker ε := (b.perform op).2

def run (b : Broker ε) (ops : List (Operation ε)) : Broker ε := ops.foldl after b

/-- The broker of that name after operations from the empty one. -/
def reached (name : String) (ops : List (Operation ε)) : Broker ε := run { name } ops

theorem run_append (b : Broker ε) (ops ops' : List (Operation ε)) :
    b.run (ops ++ ops') = (b.run ops).run ops' := List.foldl_append

theorem reached_append (name : String) (ops ops' : List (Operation ε)) :
    reached name (ops ++ ops') = (reached name ops).run ops' := run_append _ _ _

theorem reached_append_singleton (name : String) (ops : List (Operation ε)) (op : Operation ε) :
    reached name (ops ++ [op]) = (reached name ops).after op := run_append _ _ _

variable {b x : Broker ε} {d : Destination} {id owner : String}

/-- What holds of the old broker and of a successful outcome holds afterwards. -/
theorem adopt_of {P : Broker ε → Prop} {r : Except Error (Broker ε)} (same : P b)
    (changed : ∀ x, r = .ok x → P x) : P (b.adopt r).2 := by
  cases r with
  | error e => exact same
  | ok x => exact changed x rfl

theorem adopt_error {r : Except Error (Broker ε)} {e : Error} (failed : (b.adopt r).1 = .error e) :
    (b.adopt r).2 = b := by
  cases r with
  | error e' => rfl
  | ok x => cases failed

theorem perform_error {op : Operation ε} {e : Error} (failed : (b.perform op).1 = .error e) :
    (b.perform op).2 = b := by
  cases op with
  | createDestination | deleteTemporary | register | unregister | claim => exact adopt_error failed
  | send => rfl
  | createTemporary | release | releaseConnection => cases failed

/-- Names lead to lasting destinations and back, temporary destinations have owners, nobody is
registered twice in one place, and a client id has a text. -/
structure Coherent (b : Broker ε) : Prop where
  listed : ∀ {kind key d}, b.names.get? (kind, key) = some d →
    d.temporary = false ∧ d.kind = kind ∧ Text.lowercase d.name = key ∧
      ∃ s, b.destinations.get? d = some s ∧ s.owner = none
  spelled : ∀ {d}, b.interned d = true → d.temporary = false →
    b.names.get? (d.kind, Text.lowercase d.name) = some d
  owned : ∀ {d s}, b.destinations.get? d = some s → d.temporary = true → ∃ o, s.owner = some o
  distinct : ∀ d, (b.consumerIds d).Nodup
  given : b.clientIds.get? "" = none

/-- Who owns a destination; nothing if it is not interned. -/
def owner? (b : Broker ε) (d : Destination) : Option (Option String) :=
  (b.destinations.get? d).map (·.owner)

theorem owner?_eq_some_iff {o : Option String} :
    b.owner? d = some o ↔ ∃ s, b.destinations.get? d = some s ∧ s.owner = o :=
  Option.map_eq_some_iff

theorem interned_iff_owner? : b.interned d = true ↔ ∃ o, b.owner? d = some o := by
  rw [interned_iff]
  constructor
  · rintro ⟨s, site⟩
    exact ⟨s.owner, owner?_eq_some_iff.mpr ⟨s, site, rfl⟩⟩
  · rintro ⟨o, owned⟩
    obtain ⟨s, site, -⟩ := owner?_eq_some_iff.mp owned
    exact ⟨s, site⟩

/-- A site that has changed its consumers only has the owner it had. -/
theorem owner?_insert_site {s s' : Site ε} (found : b.destinations.get? d = some s)
    (same : s'.owner = s.owner) (d' : Destination) :
    ({ b with destinations := b.destinations.insert d s' } : Broker ε).owner? d' = b.owner? d' := by
  unfold owner?
  rw [Table.get?_insert]
  split
  · rename_i here
    rw [here, found, Option.map_some, Option.map_some, same]
  · rfl

namespace Coherent

theorem initial (name : String) : Coherent ({ name } : Broker ε) where
  listed found := by cases found
  spelled here := by cases here
  owned site := by cases site
  distinct _ := List.nodup_nil
  given := rfl

/-- A lasting destination has no owner. -/
theorem unowned (coherent : b.Coherent) {s : Site ε} (site : b.destinations.get? d = some s)
    (lasting : d.temporary = false) : s.owner = none := by
  have here : b.interned d = true := interned_iff.mpr ⟨s, site⟩
  obtain ⟨-, -, -, s', site', none⟩ := coherent.listed (coherent.spelled here lasting)
  rw [site] at site'
  cases site'
  exact none

/-- Names are as before, and so are the owners of lasting destinations; others have owners. -/
theorem of_owners (coherent : b.Coherent) (names : x.names = b.names)
    (lasting : ∀ d, d.temporary = false → x.owner? d = b.owner? d)
    (owned : ∀ {d}, d.temporary = true → x.owner? d ≠ some none)
    (distinct : ∀ d, (x.consumerIds d).Nodup) (given : x.clientIds.get? "" = none) :
    x.Coherent := by
  refine ⟨?_, ?_, ?_, distinct, given⟩
  · intro kind key d found
    rw [names] at found
    obtain ⟨lasts, same, folded, site⟩ := coherent.listed found
    refine ⟨lasts, same, folded, owner?_eq_some_iff.mp ?_⟩
    rw [lasting d lasts]
    exact owner?_eq_some_iff.mpr site
  · intro d here lasts
    rw [names]
    apply coherent.spelled _ lasts
    rwa [interned_iff_owner?, ← lasting d lasts, ← interned_iff_owner?]
  · intro d s site temporary
    cases owner : s.owner with
    | some o => exact ⟨o, rfl⟩
    | none => exact absurd (owner?_eq_some_iff.mpr ⟨s, site, owner⟩) (owned temporary)

theorem owner?_ne (coherent : b.Coherent) (temporary : d.temporary = true) :
    b.owner? d ≠ some none := by
  intro unowned
  obtain ⟨s, site, none⟩ := owner?_eq_some_iff.mp unowned
  obtain ⟨o, owner⟩ := coherent.owned site temporary
  rw [none] at owner
  cases owner

/-- All owners are as before. -/
theorem of_same (coherent : b.Coherent) (names : x.names = b.names)
    (owners : ∀ d, x.owner? d = b.owner? d) (distinct : ∀ d, (x.consumerIds d).Nodup)
    (given : x.clientIds.get? "" = none) : x.Coherent := by
  refine coherent.of_owners names (fun d _ => owners d) ?_ distinct given
  intro d temporary
  rw [owners]
  exact coherent.owner?_ne temporary

/-- Only temporary destinations have gone. -/
theorem of_gone (coherent : b.Coherent) (names : x.names = b.names)
    (lasting : ∀ d, d.temporary = false → x.destinations.get? d = b.destinations.get? d)
    (kept : ∀ d s, x.destinations.get? d = some s → b.destinations.get? d = some s)
    (given : x.clientIds.get? "" = none) : x.Coherent := by
  refine coherent.of_owners names ?_ ?_ ?_ given
  · intro d lasts
    rw [owner?, lasting d lasts, owner?]
  · intro d temporary unowned
    obtain ⟨s, site, none⟩ := owner?_eq_some_iff.mp unowned
    exact coherent.owner?_ne temporary (owner?_eq_some_iff.mpr ⟨s, kept d s site, none⟩)
  · exact fun d => (thins_of_kept kept).nodup (coherent.distinct d)

/-- A name asked for the first time. -/
theorem intern (coherent : b.Coherent) {name : String} {kind : DestinationKind}
    (fresh : b.names.get? (kind, Text.lowercase name) = none) :
    Coherent { b with
      destinations := b.destinations.insert { name, kind } ⟨none, []⟩
      names := b.names.insert (kind, Text.lowercase name) { name, kind } } := by
  constructor
  case listed =>
    intro kind' key d found
    rw [Table.get?_insert] at found
    split at found
    · rename_i here
      cases here
      cases found
      exact ⟨rfl, rfl, rfl, _, Table.get?_insert_self .., rfl⟩
    · obtain ⟨lasts, same, folded, s, site, none⟩ := coherent.listed found
      refine ⟨lasts, same, folded, ?_⟩
      rw [Table.get?_insert]
      split
      · exact ⟨_, rfl, rfl⟩
      · exact ⟨s, site, none⟩
  case spelled =>
    intro d here lasts
    obtain ⟨s, site⟩ := interned_iff.mp here
    rw [Table.get?_insert] at site
    split at site
    · rename_i new
      rw [new]
      exact Table.get?_insert_self ..
    · have spelled := coherent.spelled (interned_iff.mpr ⟨s, site⟩) lasts
      have other : (d.kind, Text.lowercase d.name) ≠ (kind, Text.lowercase name) := by
        intro same
        rw [same, fresh] at spelled
        cases spelled
      rwa [Table.get?_insert_of_ne _ other]
  case owned =>
    intro d s site temporary
    have other : d ≠ { name, kind } := by
      rintro rfl
      cases temporary
    rw [Table.get?_insert_of_ne _ other] at site
    exact coherent.owned site temporary
  case distinct =>
    intro d
    exact (thins_insert rfl (List.nil_sublist _)).nodup (coherent.distinct d)
  case given => exact coherent.given

theorem createDestination (coherent : b.Coherent) {name : String} {kind : DestinationKind}
    (done : b.createDestination name kind = .ok (d, x)) : x.Coherent := by
  rcases createDestination_ok done with rfl | ⟨rfl, fresh, rfl⟩
  · exact coherent
  · exact coherent.intern fresh

theorem createTemporary (coherent : b.Coherent) (token : String) (kind : DestinationKind)
    (owner : String) : (b.createTemporary token kind owner).2.Coherent := by
  have owners : ∀ d', (b.createTemporary token kind owner).2.owner? d' =
      if d' = (b.createTemporary token kind owner).1 then some (some owner) else b.owner? d' := by
    intro d'
    unfold owner? Broker.createTemporary
    rw [Table.get?_insert]
    split <;> rfl
  refine coherent.of_owners rfl ?_ ?_ ?_ coherent.given
  · intro d' lasting
    rw [owners, if_neg]
    rintro rfl
    cases lasting
  · intro d' temporary
    rw [owners]
    split
    · simp
    · exact coherent.owner?_ne temporary
  · exact fun d' => (createTemporary_thins b token kind owner).nodup (coherent.distinct d')

theorem deleteTemporary (coherent : b.Coherent) (done : b.deleteTemporary d owner = .ok x) :
    x.Coherent := by
  obtain ⟨s, temporary, -, -, -, rfl⟩ := deleteTemporary_ok done
  refine coherent.of_gone rfl ?_ ?_ coherent.given
  · intro d' lasting
    rw [Table.get?_erase, if_neg]
    rintro rfl
    rw [temporary] at lasting
    cases lasting
  · intro d' s' site
    rw [Table.get?_erase] at site
    split at site
    · cases site
    · exact site

theorem register (coherent : b.Coherent) {e : ε} (done : b.register d id owner e = .ok x) :
    x.Coherent := by
  have distinct : ∀ d', (x.consumerIds d').Nodup :=
    fun d' => nodup_register done (coherent.distinct d')
  obtain ⟨s, found, -, -, rfl⟩ := register_ok done
  exact coherent.of_same rfl (owner?_insert_site found rfl) distinct coherent.given

theorem unregister (coherent : b.Coherent) (done : b.unregister d id = .ok x) : x.Coherent := by
  have distinct : ∀ d', (x.consumerIds d').Nodup :=
    fun d' => (unregister_thins done).nodup (coherent.distinct d')
  obtain ⟨s, found, rfl⟩ := unregister_ok done
  exact coherent.of_same rfl (owner?_insert_site found rfl) distinct coherent.given

/-- Only client ids have changed. -/
theorem of_clientIds (coherent : b.Coherent) (names : x.names = b.names)
    (destinations : x.destinations = b.destinations) (given : x.clientIds.get? "" = none) :
    x.Coherent := by
  refine coherent.of_same names ?_ ?_ given
  · intro d
    rw [owner?, destinations, owner?]
  · exact fun d => (thins_of_eq destinations).nodup (coherent.distinct d)

theorem claim (coherent : b.Coherent) (done : b.claim id owner = .ok x) : x.Coherent := by
  obtain ⟨destinations, names⟩ := claim_ok done
  refine coherent.of_clientIds names destinations ?_
  rw [clientIds_claim done, if_neg (claim_given done).symm]
  exact coherent.given

theorem release (coherent : b.Coherent) (id owner : String) : (b.release id owner).Coherent := by
  unfold Broker.release
  split
  · refine coherent.of_clientIds rfl rfl ?_
    rw [Table.get?_erase, coherent.given, ite_self]
  · exact coherent

theorem releaseConnection (coherent : b.Coherent) (owner : String) :
    (b.releaseConnection owner).Coherent := by
  refine coherent.of_gone rfl ?_ ?_ ?_
  · intro d lasting
    apply Option.ext
    intro s
    rw [destinations_releaseConnection]
    refine and_iff_left_of_imp fun site => ?_
    rw [coherent.unowned site lasting]
    simp
  · intro d s site
    exact (destinations_releaseConnection b).mp site |>.1
  · rw [Broker.releaseConnection, Table.get?_filter, coherent.given]
    rfl

theorem after (coherent : b.Coherent) (op : Operation ε) : (b.after op).Coherent := by
  cases op with
  | createDestination name kind =>
    refine adopt_of coherent fun x done => ?_
    obtain ⟨r, made, rfl⟩ := ok_of_map done
    exact coherent.createDestination (d := r.1) made
  | createTemporary token kind owner => exact coherent.createTemporary token kind owner
  | deleteTemporary d owner => exact adopt_of coherent fun _ => coherent.deleteTemporary
  | register d id owner e => exact adopt_of coherent fun _ => coherent.register
  | unregister d id => exact adopt_of coherent fun _ => coherent.unregister
  | send d => exact coherent
  | claim id owner => exact adopt_of coherent fun _ => coherent.claim
  | release id owner => exact coherent.release id owner
  | releaseConnection owner => exact coherent.releaseConnection owner

theorem run (coherent : b.Coherent) (ops : List (Operation ε)) : (b.run ops).Coherent := by
  induction ops generalizing b with
  | nil => exact coherent
  | cons op ops ih => exact ih (coherent.after op)

end Coherent

theorem coherent_reached (name : String) (ops : List (Operation ε)) : (reached name ops).Coherent :=
  (Coherent.initial name).run ops

/-- After every run the two tables agree, and an operation that fails leaves all as it was. -/
theorem tables_agree (name : String) (ops : List (Operation ε)) :
    (∀ kind key d, (reached name ops).names.get? (kind, key) = some d →
      d.temporary = false ∧ d.kind = kind ∧ Text.lowercase d.name = key ∧
        ∃ s, (reached name ops).destinations.get? d = some s ∧ s.owner = none) ∧
    (∀ d, (reached name ops).interned d = true → d.temporary = false →
      (reached name ops).names.get? (d.kind, Text.lowercase d.name) = some d) ∧
    (∀ d s, (reached name ops).destinations.get? d = some s → d.temporary = true →
      (∃ o, s.owner = some o) ∧ ∀ key, (reached name ops).names.get? key ≠ some d) ∧
    (∀ d, ((reached name ops).consumerIds d).Nodup) ∧
    (∀ id owner, (reached name ops).clientIds.get? id = some owner → id ≠ "") ∧
    ∀ op e, ((reached name ops).perform op).1 = .error e →
      ((reached name ops).perform op).2 = reached name ops := by
  have coherent := coherent_reached name ops
  refine ⟨fun _ _ _ => coherent.listed, fun _ => coherent.spelled, ?_, coherent.distinct, ?_,
    fun _ _ => perform_error⟩
  · intro d s site temporary
    refine ⟨coherent.owned site temporary, ?_⟩
    rintro ⟨kind, key⟩ found
    obtain ⟨lasting, -⟩ := coherent.listed found
    rw [temporary] at lasting
    cases lasting
  · rintro id owner held rfl
    rw [coherent.given] at held
    cases held

end Courier.Broker
