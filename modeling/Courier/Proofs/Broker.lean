import Courier.Broker
import Courier.Proofs.Table

/-!
# What a broker holds after each operation

Each operation that succeeds is described by the sites it leaves. A site's list of consumers grows
at its end and shrinks in place, so its order is the order of registration.
-/

namespace Courier

set_option autoImplicit false

section Outcomes
variable {ε α β : Type}

theorem ok_of_bind {x : Except ε α} {f : α → Except ε β} {r : β} (h : (x >>= f) = .ok r) :
    ∃ a, x = .ok a ∧ f a = .ok r := by
  cases x with
  | error e => cases h
  | ok a => exact ⟨a, rfl, h⟩

theorem ok_of_map {x : Except ε α} {f : α → β} {r : β} (h : x.map f = .ok r) :
    ∃ a, x = .ok a ∧ f a = r := by
  cases x with
  | error e => cases h
  | ok a => exact ⟨a, rfl, Except.ok.inj h⟩

theorem map_eq_error_iff {x : Except ε α} {f : α → β} {e : ε} :
    x.map f = .error e ↔ x = .error e := by
  cases x <;> simp [Except.map]

end Outcomes

/-- A site after a consumer has left. -/
def Site.without {ε : Type} (s : Site ε) (id : String) : Site ε :=
  { s with consumers := s.consumers.filter (·.id ≠ id) }

namespace Site
variable {ε : Type}

theorem ids_without (s : Site ε) (id : String) : (s.without id).ids = s.ids.filter (· ≠ id) := by
  simp only [ids, without, List.filter_map]
  rfl

theorem without_without (s : Site ε) (id : String) : (s.without id).without id = s.without id := by
  simp only [without, List.filter_filter, Bool.and_self]

end Site

namespace Broker
variable {ε : Type} {b x : Broker ε} {d : Destination} {id owner : String}

theorem interned_iff : b.interned d = true ↔ ∃ s, b.destinations.get? d = some s :=
  Table.contains_iff

theorem site_ok {s : Site ε} : b.site d = .ok s ↔ b.destinations.get? d = some s := by
  unfold site
  cases b.destinations.get? d <;> simp

theorem consumerIds_of_some {s : Site ε} (h : b.destinations.get? d = some s) :
    b.consumerIds d = s.ids := by
  rw [consumerIds, h]
  rfl

theorem consumerIds_of_none (h : b.destinations.get? d = none) : b.consumerIds d = [] := by
  rw [consumerIds, h]
  rfl

/-- The consumers registered on a destination; there are none where there is no site. -/
def registrations (b : Broker ε) (d : Destination) : List (Registration ε) :=
  ((b.destinations.get? d).map (·.consumers)).getD []

theorem registrations_of_some {s : Site ε} (h : b.destinations.get? d = some s) :
    b.registrations d = s.consumers := by
  rw [registrations, h]
  rfl

theorem registrations_of_none (h : b.destinations.get? d = none) : b.registrations d = [] := by
  rw [registrations, h]
  rfl

theorem registrations_congr (h : x.destinations.get? d = b.destinations.get? d) :
    x.registrations d = b.registrations d := by
  rw [registrations, h, registrations]

theorem consumerIds_eq_map (b : Broker ε) (d : Destination) :
    b.consumerIds d = (b.registrations d).map (·.id) := by
  unfold consumerIds registrations
  cases b.destinations.get? d <;> rfl

theorem endpoints_ok {es : List ε} (h : b.endpoints d = .ok es) :
    b.interned d = true ∧ es = (b.registrations d).map (·.endpoint) := by
  obtain ⟨s, site, rfl⟩ := ok_of_map h
  rw [site_ok] at site
  exact ⟨interned_iff.mpr ⟨s, site⟩, by rw [registrations_of_some site]⟩

theorem endpoints_of_interned (h : b.interned d = true) :
    b.endpoints d = .ok ((b.registrations d).map (·.endpoint)) := by
  obtain ⟨s, found⟩ := interned_iff.mp h
  rw [endpoints, site_ok.mpr found, registrations_of_some found]
  rfl

theorem endpoints_of_not_interned (h : b.interned d = false) :
    b.endpoints d = .error (.notInterned d b.name) := by
  have absent : b.destinations.get? d = none := Table.contains_eq_false_iff.mp h
  rw [endpoints, site, absent]
  rfl

/-- A site is looked up by its destination alone. -/
theorem consumerIds_congr (h : x.destinations.get? d = b.destinations.get? d) :
    x.consumerIds d = b.consumerIds d := by
  rw [consumerIds, h, consumerIds]

theorem register_ok {e : ε} (h : b.register d id owner e = .ok x) :
    ∃ s, b.destinations.get? d = some s ∧ (∀ o, s.owner = some o → o = owner) ∧ id ∉ s.ids ∧
      x = { b with destinations :=
        b.destinations.insert d { s with consumers := s.consumers ++ [⟨id, e⟩] } } := by
  obtain ⟨s, site, h⟩ := ok_of_bind h
  by_cases foreign : s.owner.any (· ≠ owner)
  · rw [if_pos foreign] at h
    cases h
  · by_cases known : s.ids.contains id
    · rw [if_neg foreign, if_pos known] at h
      cases h
    · rw [if_neg foreign, if_neg known] at h
      refine ⟨s, site_ok.mp site, ?_, by simpa using known, (Except.ok.inj h).symm⟩
      intro o owned
      simpa [owned] using foreign

theorem consumerIds_register {e : ε} (h : b.register d id owner e = .ok x) (d' : Destination) :
    x.consumerIds d' = if d' = d then b.consumerIds d ++ [id] else b.consumerIds d' := by
  obtain ⟨s, found, -, -, rfl⟩ := register_ok h
  by_cases same : d' = d
  · subst same
    rw [if_pos rfl, consumerIds_of_some found, consumerIds_of_some (Table.get?_insert_self ..)]
    simp [Site.ids]
  · rw [if_neg same]
    exact consumerIds_congr (Table.get?_insert_of_ne _ same _)

theorem registrations_register {e : ε} (h : b.register d id owner e = .ok x) (d' : Destination) :
    x.registrations d' =
      if d' = d then b.registrations d ++ [⟨id, e⟩] else b.registrations d' := by
  obtain ⟨s, found, -, -, rfl⟩ := register_ok h
  by_cases same : d' = d
  · subst same
    rw [if_pos rfl, registrations_of_some found, registrations_of_some (Table.get?_insert_self ..)]
  · rw [if_neg same]
    exact registrations_congr (Table.get?_insert_of_ne _ same _)

theorem register_fresh {e : ε} (h : b.register d id owner e = .ok x) : id ∉ b.consumerIds d := by
  obtain ⟨s, found, -, fresh, -⟩ := register_ok h
  rwa [consumerIds_of_some found]

theorem mem_registrations_register {e : ε} (h : b.register d id owner e = .ok x)
    {d' : Destination} {r : Registration ε} (mem : r ∈ x.registrations d') :
    r ∈ b.registrations d' ∨ r = ⟨id, e⟩ := by
  rw [registrations_register h] at mem
  split at mem
  · rename_i same
    rw [List.mem_append, List.mem_singleton] at mem
    rwa [same]
  · exact .inl mem

theorem nodup_register {e : ε} (h : b.register d id owner e = .ok x) {d' : Destination}
    (distinct : (b.consumerIds d').Nodup) : (x.consumerIds d').Nodup := by
  rw [consumerIds_register h]
  split
  · rename_i same
    subst same
    rw [List.nodup_append]
    refine ⟨distinct, List.nodup_singleton _, ?_⟩
    intro old mem new last same
    rw [List.mem_singleton] at last
    rw [same, last] at mem
    exact register_fresh h mem
  · exact distinct

theorem unregister_ok (h : b.unregister d id = .ok x) :
    ∃ s, b.destinations.get? d = some s ∧
      x = { b with destinations := b.destinations.insert d (s.without id) } := by
  obtain ⟨s, site, h⟩ := ok_of_bind h
  exact ⟨s, site_ok.mp site, (Except.ok.inj h).symm⟩

theorem unregister_error {e : Error} (h : b.unregister d id = .error e) :
    b.destinations.get? d = none := by
  cases found : b.destinations.get? d with
  | none => rfl
  | some s =>
    rw [unregister, site_ok.mpr found] at h
    cases h

theorem createDestination_ok {name : String} {kind : DestinationKind}
    (h : b.createDestination name kind = .ok (d, x)) :
    x = b ∨ d = { name, kind } ∧ b.names.get? (kind, Text.lowercase name) = none ∧
      x = { b with
        destinations := b.destinations.insert d ⟨none, []⟩
        names := b.names.insert (kind, Text.lowercase name) d } := by
  unfold createDestination at h
  split at h
  · cases h
  · dsimp only at h
    split at h
    · cases h
      exact .inl rfl
    · cases h
      exact .inr ⟨rfl, ‹_›, rfl⟩

theorem deleteTemporary_ok (h : b.deleteTemporary d owner = .ok x) :
    ∃ s, d.temporary = true ∧ b.destinations.get? d = some s ∧ s.owner = some owner ∧
      s.consumers = [] ∧ x = { b with destinations := b.destinations.erase d } := by
  unfold deleteTemporary at h
  split at h
  · cases h
  · rename_i temporary
    split at h
    · cases h
    · rename_i s found
      split at h
      · cases h
      · rename_i owned
        split at h
        · cases h
        · rename_i empty
          cases h
          simp only [Bool.not_eq_true', Bool.not_eq_false, Decidable.not_not,
            List.isEmpty_iff] at temporary owned empty
          exact ⟨s, temporary, found, owned, empty, rfl⟩

theorem claim_ok (h : b.claim id owner = .ok x) :
    x.destinations = b.destinations ∧ x.names = b.names := by
  unfold claim at h
  split at h
  · cases h
  · split at h
    · split at h
      · cases h
        exact ⟨rfl, rfl⟩
      · cases h
    · cases h
      exact ⟨rfl, rfl⟩

/-- An id is granted to the owner that holds it already, or entered when nobody does. -/
theorem claim_grants (h : b.claim id owner = .ok x) :
    (b.clientIds.get? id = some owner ∧ x = b) ∨
    (b.clientIds.get? id = none ∧ x = { b with clientIds := b.clientIds.insert id owner }) := by
  unfold claim at h
  split at h
  · cases h
  · split at h
    · rename_i holder held
      split at h
      · rename_i same
        cases h
        exact .inl ⟨same ▸ held, rfl⟩
      · cases h
    · rename_i free
      cases h
      exact .inr ⟨free, rfl⟩

theorem claim_unheld (h : b.claim id owner = .ok x) :
    b.clientIds.get? id = none ∨ b.clientIds.get? id = some owner := by
  rcases claim_grants h with ⟨held, -⟩ | ⟨free, -⟩
  · exact .inr held
  · exact .inl free

theorem clientIds_claim (h : b.claim id owner = .ok x) (id' : String) :
    x.clientIds.get? id' = if id' = id then some owner else b.clientIds.get? id' := by
  rcases claim_grants h with ⟨held, rfl⟩ | ⟨free, rfl⟩
  · split
    · rename_i same
      rw [same, held]
    · rfl
  · exact Table.get?_insert _ _ _ _

theorem claim_given (h : b.claim id owner = .ok x) : id ≠ "" := by
  rintro rfl
  cases h

theorem claim_of_held {holder : String} (given : id ≠ "")
    (held : b.clientIds.get? id = some holder) (other : holder ≠ owner) :
    b.claim id owner = .error (.clientIdInUse id) := by
  have nonempty : ¬ id.isEmpty = true := by simpa using given
  rw [claim, if_neg nonempty, held]
  exact if_neg other

theorem claim_of_free (given : id ≠ "") (free : b.clientIds.get? id = none) :
    b.claim id owner = .ok { b with clientIds := b.clientIds.insert id owner } := by
  have nonempty : ¬ id.isEmpty = true := by simpa using given
  rw [claim, if_neg nonempty, free]

theorem clientIds_releaseConnection (b : Broker ε) {owner holder id : String} :
    (b.releaseConnection owner).clientIds.get? id = some holder ↔
      b.clientIds.get? id = some holder ∧ holder ≠ owner := by
  rw [releaseConnection, Table.get?_filter, Option.filter_eq_some_iff, decide_eq_true_eq]

theorem destinations_releaseConnection (b : Broker ε) {owner : String} {s : Site ε} :
    (b.releaseConnection owner).destinations.get? d = some s ↔
      b.destinations.get? d = some s ∧ s.owner ≠ some owner := by
  rw [releaseConnection, Table.get?_filter, Option.filter_eq_some_iff, decide_eq_true_eq]

/-- No destination has gained a registration, and those left keep their order. -/
def Thins (b x : Broker ε) : Prop := ∀ d, (x.registrations d).Sublist (b.registrations d)

theorem Thins.nodup {d : Destination} (thins : Thins b x) (distinct : (b.consumerIds d).Nodup) :
    (x.consumerIds d).Nodup := by
  rw [consumerIds_eq_map] at distinct ⊢
  exact distinct.sublist ((thins d).map _)

theorem thins_of_eq (h : x.destinations = b.destinations) : Thins b x := by
  intro d
  have same : x.registrations d = b.registrations d := registrations_congr (by rw [h])
  rw [same]

/-- A site that is new and empty, or has lost some of its consumers. -/
theorem thins_insert {s : Site ε} (h : x.destinations = b.destinations.insert d s)
    (fewer : s.consumers.Sublist (b.registrations d)) : Thins b x := by
  intro d'
  by_cases same : d' = d
  · subst same
    rwa [registrations_of_some (h ▸ Table.get?_insert_self ..)]
  · have kept : x.registrations d' = b.registrations d' :=
      registrations_congr (by rw [h, Table.get?_insert_of_ne _ same])
    rw [kept]

/-- Sites may go. -/
theorem thins_of_kept
    (kept : ∀ d s, x.destinations.get? d = some s → b.destinations.get? d = some s) :
    Thins b x := by
  intro d
  cases found : x.destinations.get? d with
  | none =>
    rw [registrations_of_none found]
    exact List.nil_sublist _
  | some s => rw [registrations_of_some found, registrations_of_some (kept d s found)]

theorem createDestination_thins {name : String} {kind : DestinationKind}
    (h : b.createDestination name kind = .ok (d, x)) : Thins b x := by
  rcases createDestination_ok h with rfl | ⟨-, -, rfl⟩
  · exact thins_of_eq rfl
  · exact thins_insert rfl (List.nil_sublist _)

theorem createTemporary_thins (b : Broker ε) (token : String) (kind : DestinationKind)
    (owner : String) : Thins b (b.createTemporary token kind owner).2 :=
  thins_insert rfl (List.nil_sublist _)

theorem deleteTemporary_thins (h : b.deleteTemporary d owner = .ok x) : Thins b x := by
  obtain ⟨s, -, -, -, -, rfl⟩ := deleteTemporary_ok h
  apply thins_of_kept
  intro d' s' found
  rw [Table.get?_erase] at found
  split at found
  · cases found
  · exact found

theorem unregister_thins (h : b.unregister d id = .ok x) : Thins b x := by
  obtain ⟨s, found, rfl⟩ := unregister_ok h
  apply thins_insert rfl
  rw [registrations_of_some found]
  exact List.filter_sublist

theorem claim_thins (h : b.claim id owner = .ok x) : Thins b x := thins_of_eq (claim_ok h).1

theorem release_thins (b : Broker ε) (id owner : String) : Thins b (b.release id owner) := by
  apply thins_of_eq
  unfold release
  split <;> rfl

theorem releaseConnection_thins (b : Broker ε) (owner : String) :
    Thins b (b.releaseConnection owner) := by
  apply thins_of_kept
  intro d s found
  rw [releaseConnection, Table.get?_filter, Option.filter_eq_some_iff] at found
  exact found.1

end Broker

end Courier
