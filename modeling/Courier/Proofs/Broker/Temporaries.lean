import Courier.Proofs.Broker.Representation

/-!
# The life of a temporary destination

A temporary destination is interned from its creation until its owner deletes it or is released,
and never again after that. While it lives only its owner registers on it, and only its owner can
delete it, once its last consumer has left. Releasing a connection takes its temporary
destinations and its client ids out of the broker and leaves all else as it was.
-/

namespace Courier.Broker

set_option autoImplicit false

variable {ε : Type}

namespace Operation

/-- The temporary destination an operation makes. -/
def made? : Operation ε → Option Destination
  | .createTemporary token kind _ => some { name := "temp-" ++ token, kind, temporary := true }
  | _ => none

/-- The destination an operation is about, if it is about an interned one. -/
def target? : Operation ε → Option Destination
  | .deleteTemporary d _ | .register d _ _ _ | .unregister d _ | .send d => some d
  | _ => none

/-- Whether an operation with that result was a deletion of `d` that succeeded. -/
def deletes (d : Destination) : Operation ε → Except Error Unit → Bool
  | .deleteTemporary d' _, .ok _ => d' = d
  | _, _ => false

theorem deletes_iff {d : Destination} {op : Operation ε} {r : Except Error Unit} :
    op.deletes d r = true ↔ ∃ owner, op = .deleteTemporary d owner ∧ r = .ok () := by
  constructor
  · intro deleted
    cases op with
    | deleteTemporary d' owner =>
      cases r with
      | error e => cases deleted
      | ok u =>
        obtain rfl : d' = d := of_decide_eq_true deleted
        exact ⟨owner, rfl, rfl⟩
    | createDestination | createTemporary | register | unregister | send | claim | release
    | releaseConnection => simp [deletes] at deleted
  · rintro ⟨owner, rfl, rfl⟩
    exact decide_eq_true rfl

/-- An operation with that result ends the life of `d`, which belongs to `owner`. -/
inductive Ends (d : Destination) (owner : String) : Operation ε → Except Error Unit → Prop
  | deletion : Ends d owner (.deleteTemporary d owner) (.ok ())
  | release (r : Except Error Unit) : Ends d owner (.releaseConnection owner) r

end Operation

/-- The operations of a run, each with its result. -/
def outcomes (b : Broker ε) : List (Operation ε) → List (Operation ε × Except Error Unit)
  | [] => []
  | op :: ops => (op, (b.perform op).1) :: (b.after op).outcomes ops

variable {b x : Broker ε} {d t : Destination} {owner : String}

theorem perform_ok_of_adopt {r : Except Error (Broker ε)} (done : (b.adopt r).1 = .ok ()) :
    r = .ok (b.adopt r).2 := by
  cases r with
  | error e => cases done
  | ok x => rfl

theorem owner?_eq_none_iff : b.owner? d = none ↔ b.destinations.get? d = none :=
  Option.map_eq_none_iff

theorem interned_eq_false_iff : b.interned d = false ↔ b.owner? d = none :=
  Table.contains_eq_false_iff.trans owner?_eq_none_iff.symm

/-- Nothing that is about a destination succeeds where it is not interned. -/
theorem perform_of_absent (absent : b.owner? d = none) {op : Operation ε}
    (about : op.target? = some d) : ∃ e, (b.perform op).1 = .error e := by
  rw [owner?_eq_none_iff] at absent
  have site : b.site d = .error (.notInterned d b.name) := by rw [site, absent]
  cases op with
  | deleteTemporary d' owner =>
    cases about
    simp only [perform, deleteTemporary, absent]
    split
    · exact ⟨_, rfl⟩
    · exact ⟨_, rfl⟩
  | register d' id owner e =>
    cases about
    exact ⟨_, by rw [perform, register, site]; rfl⟩
  | unregister d' id =>
    cases about
    exact ⟨_, by rw [perform, unregister, site]; rfl⟩
  | send d' =>
    cases about
    exact ⟨_, by rw [perform, endpoints, site]; rfl⟩
  | createDestination | createTemporary | claim | release | releaseConnection => cases about

/-- Only its creation, its deletion and the release of its owner touch the owner of a temporary
destination. -/
theorem owner?_after (temporary : t.temporary = true) {op : Operation ε}
    (unmade : op.made? ≠ some t) (undeleted : op.deletes t (b.perform op).1 = false)
    (unreleased : ∀ owner, op = .releaseConnection owner → b.owner? t ≠ some (some owner)) :
    (b.after op).owner? t = b.owner? t := by
  have same {r : Except Error (Broker ε)} (kept : ∀ x, r = .ok x → x.owner? t = b.owner? t) :
      (b.adopt r).2.owner? t = b.owner? t := adopt_of (P := (·.owner? t = b.owner? t)) rfl kept
  cases op with
  | createDestination name kind =>
    refine same fun x done => ?_
    obtain ⟨r, made, rfl⟩ := ok_of_map done
    rcases createDestination_ok (d := r.1) made with old | ⟨new, -, changed⟩
    · rw [old]
    · have other : t ≠ r.1 := by
        rintro rfl
        rw [new] at temporary
        cases temporary
      rw [changed, owner?, Table.get?_insert_of_ne _ other, owner?]
  | createTemporary token kind owner =>
    have other : t ≠ (b.createTemporary token kind owner).1 := fun made =>
      unmade (congrArg some made.symm)
    exact congrArg (Option.map _) (Table.get?_insert_of_ne _ other _)
  | deleteTemporary d owner =>
    refine same fun x done => ?_
    have other : t ≠ d := by
      rintro rfl
      have deleted : (b.perform (.deleteTemporary t owner)).1 = .ok () := by
        rw [perform, done]
        rfl
      rw [Bool.eq_false_iff, ne_eq, Operation.deletes_iff] at undeleted
      exact undeleted ⟨owner, rfl, deleted⟩
    obtain ⟨_, -, -, -, -, rfl⟩ := deleteTemporary_ok done
    rw [owner?, Table.get?_erase, if_neg other, owner?]
  | register d id owner e =>
    refine same fun x done => ?_
    obtain ⟨s, found, -, -, rfl⟩ := register_ok done
    refine owner?_insert_site found ?_ t
    rfl
  | unregister d id =>
    refine same fun x done => ?_
    obtain ⟨s, found, rfl⟩ := unregister_ok done
    refine owner?_insert_site found ?_ t
    rfl
  | send d => rfl
  | claim id owner =>
    refine same fun x done => ?_
    rw [owner?, (claim_ok done).1, owner?]
  | release id owner =>
    change (b.release id owner).owner? t = _
    unfold Broker.release
    split <;> rfl
  | releaseConnection owner =>
    have foreign := unreleased owner rfl
    apply Option.ext
    intro o
    change (b.releaseConnection owner).owner? t = some o ↔ b.owner? t = some o
    simp only [owner?_eq_some_iff, destinations_releaseConnection]
    constructor
    · rintro ⟨s, ⟨site, -⟩, rfl⟩
      exact ⟨s, site, rfl⟩
    · rintro ⟨s, site, rfl⟩
      refine ⟨s, ⟨site, fun owned => foreign ?_⟩, rfl⟩
      exact owner?_eq_some_iff.mpr ⟨s, site, owned⟩

/-- A deletion succeeds for the owner only, and when no consumer is left. -/
theorem deleteTemporary_owned (owned : b.owner? t = some (some owner)) {owner' : String}
    (done : b.deleteTemporary t owner' = .ok x) : owner' = owner ∧ b.registrations t = [] := by
  obtain ⟨s, -, found, holder, empty, -⟩ := deleteTemporary_ok done
  obtain ⟨s', found', same⟩ := owner?_eq_some_iff.mp owned
  rw [found] at found'
  cases found'
  rw [holder] at same
  exact ⟨Option.some.inj same, (registrations_of_some found).trans empty⟩

theorem register_owned (owned : b.owner? t = some (some owner)) {id owner' : String} {e : ε}
    (done : b.register t id owner' e = .ok x) : owner' = owner := by
  obtain ⟨s, found, mine, -, -⟩ := register_ok done
  obtain ⟨s', found', same⟩ := owner?_eq_some_iff.mp owned
  rw [found] at found'
  cases found'
  exact (mine owner same).symm

section Steps
variable {op : Operation ε}

/-- A deletion takes a destination out of the broker, and so does the release of its owner. -/
theorem owner?_of_ends (owned : b.owner? t = some (some owner))
    (ends : op.Ends t owner (b.perform op).1) : (b.after op).owner? t = none := by
  rw [owner?_eq_none_iff]
  generalize result : (b.perform op).1 = r at ends
  cases ends with
  | deletion =>
    obtain ⟨_, -, -, -, -, same⟩ := deleteTemporary_ok (perform_ok_of_adopt result)
    have changed : b.after (.deleteTemporary t owner) = _ := same
    rw [changed, Table.get?_erase, if_pos rfl]
  | release r =>
    rw [Option.eq_none_iff_forall_ne_some]
    intro s site
    obtain ⟨kept, foreign⟩ := (destinations_releaseConnection b).mp site
    obtain ⟨s', found, same⟩ := owner?_eq_some_iff.mp owned
    rw [kept] at found
    cases found
    exact foreign same

/-- An owned destination stays so unless an operation ends its life. -/
theorem owner?_of_not_ends (temporary : t.temporary = true) (unmade : op.made? ≠ some t)
    (owned : b.owner? t = some (some owner)) (lives : ¬ op.Ends t owner (b.perform op).1) :
    (b.after op).owner? t = some (some owner) := by
  rw [← owned]
  refine owner?_after temporary unmade ?_ ?_
  · rw [Bool.eq_false_iff, ne_eq, Operation.deletes_iff]
    rintro ⟨owner', rfl, done⟩
    obtain ⟨rfl, -⟩ := deleteTemporary_owned owned (perform_ok_of_adopt done)
    rw [done] at lives
    exact lives .deletion
  · rintro owner' rfl same
    rw [owned] at same
    cases same
    exact lives (.release _)

theorem deletes_of_gone (gone : b.owner? t = none) : op.deletes t (b.perform op).1 = false := by
  rw [Bool.eq_false_iff, ne_eq, Operation.deletes_iff]
  rintro ⟨owner, rfl, done⟩
  have about : (Operation.deleteTemporary t owner : Operation ε).target? = some t := rfl
  obtain ⟨e, failed⟩ := perform_of_absent gone about
  rw [done] at failed
  cases failed

/-- What is gone stays gone while it is not made again. -/
theorem owner?_of_gone (temporary : t.temporary = true) (unmade : op.made? ≠ some t)
    (gone : b.owner? t = none) : (b.after op).owner? t = none := by
  rw [← gone]
  refine owner?_after temporary unmade (deletes_of_gone gone) ?_
  rintro owner' rfl same
  rw [gone] at same
  cases same

end Steps

section Runs
variable {ops : List (Operation ε)}

theorem gone_run (temporary : t.temporary = true) (unmade : ∀ op ∈ ops, op.made? ≠ some t)
    (gone : b.owner? t = none) : (b.run ops).owner? t = none := by
  induction ops generalizing b with
  | nil => exact gone
  | cons op ops ih =>
    apply ih fun op' mem => unmade op' (List.mem_cons_of_mem _ mem)
    exact owner?_of_gone temporary (unmade op List.mem_cons_self) gone

/-- Along a run an owned destination keeps its owner until the first operation that ends its life,
and is gone from then on. -/
theorem owned_run (temporary : t.temporary = true) (unmade : ∀ op ∈ ops, op.made? ≠ some t)
    (owned : b.owner? t = some (some owner)) :
    ((b.run ops).owner? t = some (some owner) ∧ ∀ e ∈ b.outcomes ops, ¬ e.1.Ends t owner e.2) ∨
      (b.run ops).owner? t = none ∧ ∃ e ∈ b.outcomes ops, e.1.Ends t owner e.2 := by
  induction ops generalizing b with
  | nil => exact .inl ⟨owned, by simp [outcomes]⟩
  | cons op ops ih =>
    have first := unmade op List.mem_cons_self
    have others : ∀ op' ∈ ops, op'.made? ≠ some t := fun op' mem =>
      unmade op' (List.mem_cons_of_mem _ mem)
    by_cases ends : op.Ends t owner (b.perform op).1
    · have gone : ((b.after op).run ops).owner? t = none :=
        gone_run temporary others (owner?_of_ends owned ends)
      refine .inr ⟨gone, ?_⟩
      exact ⟨(op, (b.perform op).1), List.mem_cons_self, ends⟩
    · rcases ih others (owner?_of_not_ends temporary first owned ends) with
        ⟨still, alive⟩ | ⟨gone, e, mem, ended⟩
      · refine .inl ⟨still, ?_⟩
        intro e mem
        rcases List.mem_cons.mp mem with rfl | mem
        · exact ends
        · exact alive e mem
      · exact .inr ⟨gone, e, List.mem_cons_of_mem _ mem, ended⟩

/-- How often a run deletes a destination. -/
def deletions (b : Broker ε) (t : Destination) (ops : List (Operation ε)) : Nat :=
  (b.outcomes ops).countP fun e => e.1.deletes t e.2

theorem deletions_cons (b : Broker ε) (t : Destination) (op : Operation ε)
    (ops : List (Operation ε)) :
    b.deletions t (op :: ops) =
      (b.after op).deletions t ops + if op.deletes t (b.perform op).1 then 1 else 0 :=
  List.countP_cons

theorem deletions_of_gone (temporary : t.temporary = true)
    (unmade : ∀ op ∈ ops, op.made? ≠ some t) (gone : b.owner? t = none) :
    b.deletions t ops = 0 := by
  induction ops generalizing b with
  | nil => rfl
  | cons op ops ih =>
    have kept := owner?_of_gone temporary (unmade op List.mem_cons_self) gone
    rw [deletions_cons, deletes_of_gone gone,
      ih (fun op' mem => unmade op' (List.mem_cons_of_mem _ mem)) kept]
    rfl

/-- An owned destination is deleted once at most: what follows its deletion finds it gone. -/
theorem deletions_le_one (temporary : t.temporary = true)
    (unmade : ∀ op ∈ ops, op.made? ≠ some t) (owned : b.owner? t = some (some owner)) :
    b.deletions t ops ≤ 1 := by
  induction ops generalizing b with
  | nil => exact Nat.zero_le _
  | cons op ops ih =>
    have first := unmade op List.mem_cons_self
    have others : ∀ op' ∈ ops, op'.made? ≠ some t := fun op' mem =>
      unmade op' (List.mem_cons_of_mem _ mem)
    rw [deletions_cons]
    by_cases ends : op.Ends t owner (b.perform op).1
    · rw [deletions_of_gone temporary others (owner?_of_ends owned ends)]
      split <;> decide
    · have undeleted : op.deletes t (b.perform op).1 = false := by
        rw [Bool.eq_false_iff, ne_eq, Operation.deletes_iff]
        rintro ⟨owner', rfl, done⟩
        obtain ⟨rfl, -⟩ := deleteTemporary_owned owned (perform_ok_of_adopt done)
        rw [done] at ends
        exact ends .deletion
      rw [undeleted]
      exact ih others (owner?_of_not_ends temporary first owned ends)

end Runs

theorem createTemporary_owned {token : String} {kind : DestinationKind}
    (made : b.createTemporary token kind owner = (t, x)) :
    t.temporary = true ∧ x.owner? t = some (some owner) := by
  obtain ⟨rfl, rfl⟩ := Prod.mk.inj made
  exact ⟨rfl, congrArg (Option.map _) (Table.get?_insert_self ..)⟩

/-- What the release of a connection takes out of a broker, and what it leaves. -/
structure Releases (b x : Broker ε) (owner : String) : Prop where
  gone : ∀ d, b.owner? d = some (some owner) →
    d.temporary = true ∧ x.interned d = false ∧ x.registrations d = []
  kept : ∀ d, b.owner? d ≠ some (some owner) → x.destinations.get? d = b.destinations.get? d
  names : x.names = b.names
  clientIds : ∀ id, x.clientIds.get? id =
    if b.clientIds.get? id = some owner then none else b.clientIds.get? id

theorem releaseConnection_releaseConnection (b : Broker ε) (owner : String) :
    (b.releaseConnection owner).releaseConnection owner = b.releaseConnection owner := by
  simp [releaseConnection, Table.filter]

theorem Coherent.releases (coherent : b.Coherent) (owner : String) :
    b.Releases (b.releaseConnection owner) owner where
  gone d owned := by
    have released : (Operation.releaseConnection owner : Operation ε).Ends d owner (.ok ()) :=
      .release _
    have gone : (b.releaseConnection owner).owner? d = none := owner?_of_ends owned released
    refine ⟨?_, interned_eq_false_iff.mpr gone,
      registrations_of_none (owner?_eq_none_iff.mp gone)⟩
    obtain ⟨s, site, holder⟩ := owner?_eq_some_iff.mp owned
    by_contra lasting
    rw [coherent.unowned site (by simpa using lasting)] at holder
    cases holder
  kept d foreign := by
    apply Option.ext
    intro s
    rw [destinations_releaseConnection]
    refine and_iff_left_of_imp fun site owned => foreign ?_
    exact owner?_eq_some_iff.mpr ⟨s, site, owned⟩
  names := rfl
  clientIds id := by
    rw [Broker.releaseConnection, Table.get?_filter]
    cases b.clientIds.get? id with
    | none => rfl
    | some holder => by_cases same : holder = owner <;> simp [same]

/-- A temporary destination that is made once in a run is unknown before. From then on it is
interned until its owner deletes it or is released, whichever comes first. It is deleted once at
most, by its owner and when no consumer is left there, and only its owner registers on it. When it
is gone nothing that is about it succeeds any more. Whatever the run, the release of a connection
takes its temporary destinations and client ids out of the broker, leaves all else as it was, and
done twice does nothing more. -/
theorem temporary_lifecycle {broker token : String} {kind : DestinationKind}
    {before : List (Operation ε)}
    (made : (reached broker before).createTemporary token kind owner = (t, b))
    (once : ∀ op ∈ before, op.made? ≠ some t) :
    (∀ past op, past ++ [op] <+: before → op.target? = some t →
      ∃ e, ((reached broker past).perform op).1 = .error e) ∧
    (∀ later : List (Operation ε), (∀ op ∈ later, op.made? ≠ some t) →
      ((b.run later).interned t = true ↔ ∀ e ∈ b.outcomes later, ¬ e.1.Ends t owner e.2) ∧
      (∀ owner' x, (b.run later).deleteTemporary t owner' = .ok x →
        owner' = owner ∧ (b.run later).registrations t = []) ∧
      b.deletions t later ≤ 1 ∧
      (∀ id owner' e x, (b.run later).register t id owner' e = .ok x → owner' = owner) ∧
      ((b.run later).interned t = false → ∀ more : List (Operation ε),
        (∀ op ∈ more, op.made? ≠ some t) → ∀ op : Operation ε, op.target? = some t →
          ∃ e, (((b.run later).run more).perform op).1 = .error e)) ∧
    ∀ (ops : List (Operation ε)) (owner' : String),
      (reached broker ops).Releases ((reached broker ops).releaseConnection owner') owner' ∧
      ((reached broker ops).releaseConnection owner').releaseConnection owner' =
        (reached broker ops).releaseConnection owner' := by
  obtain ⟨temporary, owned⟩ := createTemporary_owned made
  refine ⟨?_, ?_, ?_⟩
  · intro past op ⟨rest, whole⟩ about
    have unknown : (reached broker past).owner? t = none := by
      refine gone_run temporary ?_ rfl
      intro op' mem
      exact once op' (by simp [← whole, mem])
    exact perform_of_absent unknown about
  · intro later unmade
    have course := owned_run temporary unmade owned
    have alive {op : Operation ε} (about : op.target? = some t)
        (done : ((b.run later).perform op).1 = .ok ()) :
        (b.run later).owner? t = some (some owner) := by
      rcases course with ⟨still, -⟩ | ⟨gone, -⟩
      · exact still
      · obtain ⟨e, failed⟩ := perform_of_absent gone about
        rw [done] at failed
        cases failed
    refine ⟨⟨?_, ?_⟩, ?_, deletions_le_one temporary unmade owned, ?_, ?_⟩
    · intro here
      rcases course with ⟨-, unended⟩ | ⟨gone, -⟩
      · exact unended
      · rw [interned_eq_false_iff.mpr gone] at here
        cases here
    · intro unended
      rcases course with ⟨still, -⟩ | ⟨-, e, mem, ended⟩
      · exact interned_iff_owner?.mpr ⟨_, still⟩
      · exact absurd ended (unended e mem)
    · intro owner' x done
      have about : (Operation.deleteTemporary t owner' : Operation ε).target? = some t := rfl
      refine deleteTemporary_owned (alive about ?_) done
      rw [perform, done]
      rfl
    · intro id owner' e x done
      have about : (Operation.register t id owner' e).target? = some t := rfl
      refine register_owned (alive about ?_) done
      rw [perform, done]
      rfl
    · intro gone more unmade' op about
      exact perform_of_absent
        (gone_run temporary unmade' (interned_eq_false_iff.mp gone)) about
  · intro ops owner'
    exact ⟨(coherent_reached broker ops).releases owner',
      releaseConnection_releaseConnection _ owner'⟩

def sampleReplies : Destination := { name := "temp-1", kind := .queue, temporary := true }

/-- The broker right after a connection `A` has made the temporary queue. -/
def sampleBorn : Broker Unit :=
  ((reached "main" [.createDestination "Orders" .queue]).createTemporary "1" .queue "A").2

/-- Two deletions are refused, one for a consumer and one for its owner, and the third succeeds. -/
def sampleLife : List (Operation Unit) :=
  [.register sampleReplies "c1" "A" (), .deleteTemporary sampleReplies "A",
    .unregister sampleReplies "c1", .deleteTemporary sampleReplies "B",
    .deleteTemporary sampleReplies "A"]

theorem temporary_lifecycle_replies :
    (reached "main" [.createDestination "Orders" .queue]).createTemporary "1" .queue "A" =
      (sampleReplies, sampleBorn) ∧
    (∀ e ∈ sampleBorn.outcomes (sampleLife.take 4), ¬ e.1.Ends sampleReplies "A" e.2) ∧
    (sampleBorn.run (sampleLife.take 4)).registrations sampleReplies = [] ∧
    (∃ e ∈ sampleBorn.outcomes sampleLife, e.1.Ends sampleReplies "A" e.2) ∧
    sampleBorn.deletions sampleReplies sampleLife = 1 ∧
    (∃ e, ((sampleBorn.run sampleLife).perform (.register sampleReplies "c2" "A" ())).1 =
      .error e) ∧
    Releases sampleBorn (sampleBorn.releaseConnection "A") "A" := by
  have made : (reached "main" [.createDestination "Orders" .queue]).createTemporary "1" .queue "A" =
      (sampleReplies, sampleBorn) := rfl
  have once : ∀ op ∈ [(.createDestination "Orders" .queue : Operation Unit)],
      op.made? ≠ some sampleReplies := by
    simp [Operation.made?]
  have unmade : ∀ op ∈ sampleLife, op.made? ≠ some sampleReplies := by
    simp [sampleLife, Operation.made?]
  obtain ⟨-, life, released⟩ := temporary_lifecycle made once
  have past := life (sampleLife.take 4) fun op mem => unmade op (List.mem_of_mem_take mem)
  obtain ⟨lives, -, -, -, never⟩ := life sampleLife unmade
  have gone : (sampleBorn.run sampleLife).interned sampleReplies = false := by decide
  refine ⟨made, past.1.mp (by decide), ?_, ?_, by decide, ?_, ?_⟩
  · exact (past.2.1 "A" (sampleBorn.run sampleLife) rfl).2
  · by_contra none
    simp only [not_exists, not_and] at none
    rw [lives.mpr none] at gone
    cases gone
  · exact never gone [] (by simp) _ rfl
  · exact (released [.createDestination "Orders" .queue, .createTemporary "1" .queue "A"] "A").1

end Courier.Broker
