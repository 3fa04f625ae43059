import Courier.Proofs.Hub.Ledger

/-!
# Registrations and destinations

What a link does to its broker: a consumer is registered, a destination is made or deleted. The
ledger stays in order.
-/

namespace Courier.Hub

set_option autoImplicit false

variable {L : Type} {h h' : Hub L} {past : List (ConsumerId × Destination)}

/-- The consumer `k` has been registered on `d` of the broker `b`, and both know it. -/
structure Attaches (h h' : Hub L) (k : ConsumerId) (d : Destination) (b : BrokerId) : Prop
    extends Still h h' where
  closed : ∀ j, (h'.consumer j).closed = (h.consumer j).closed
  attached : ∀ j d', d' ∈ (h'.consumer j).attached ↔
    d' ∈ (h.consumer j).attached ∨ j = k ∧ d' = d
  names : ∀ b', (h'.broker b').names = (h.broker b').names
  listed : (h'.broker b).consumerIds d = (h.broker b).consumerIds d ++ [(h.consumer k).id]
  listed_else : ∀ b' d', ¬ (b' = b ∧ d' = d) →
    (h'.broker b').consumerIds d' = (h.broker b').consumerIds d'
  site : ∀ b' d' s', (h'.broker b').destinations.get? d' = some s' →
    ∃ s, (h.broker b').destinations.get? d' = some s ∧ s'.owner = s.owner
  owner : ∀ s o, (h'.broker b).destinations.get? d = some s → s.owner = some o →
    o = (h.linkOf k).owner

theorem attach_ok {k : ConsumerId} {d : Destination} (done : h.attach k d = .ok h') :
    d ∈ (h.consumer k).attached ∧ h' = h ∨
    d ∉ (h.consumer k).attached ∧ ∃ b x, h.linked (h.linkOf k) = .ok b ∧
      (h.broker b).register d (h.consumer k).id (h.linkOf k).owner (.consumer k d) = .ok x ∧
      h' = (h.setBroker b x).setConsumer k
        { h.consumer k with attached := (h.consumer k).attached ++ [d] } := by
  unfold attach at done
  dsimp only at done
  split at done
  · rename_i known
    cases done
    exact .inl ⟨by simpa using known, rfl⟩
  · rename_i fresh
    obtain ⟨h₁, registered, done⟩ := ok_of_bind done
    obtain ⟨b, x, reached, taken, rfl⟩ := onLink_ok registered
    cases done
    exact .inr ⟨by simpa using fresh, b, x, reached, taken, rfl⟩

theorem attaches_of_attach {k : ConsumerId} {d : Destination} (made : k < h.consumers.length)
    (fresh : d ∉ (h.consumer k).attached) (done : h.attach k d = .ok h') :
    ∃ b, h.linked (h.linkOf k) = .ok b ∧ Attaches h h' k d b := by
  rcases attach_ok done with ⟨known, -⟩ | ⟨-, b, x, reached, taken, rfl⟩
  · exact absurd known fresh
  obtain ⟨s, found, owner, -, changed⟩ := Broker.register_ok taken
  have inside : b < h.brokers.length := broker_lt_of_site found
  have broker_b : ∀ c, ((h.setBroker b x).setConsumer k c).broker b = x :=
    fun _ => broker_setBroker_self inside x
  have broker_else : ∀ c {b'}, b' ≠ b →
      ((h.setBroker b x).setConsumer k c).broker b' = h.broker b' :=
    fun _ _ other => broker_setBroker_of_ne other x
  refine ⟨b, reached, {
    toStill := (Still.setBroker h b x).trans (.setConsumer rfl rfl)
    closed := view_getD_set Consumer.closed rfl
    attached := ?_
    names := ?_
    listed := ?_
    listed_else := ?_
    site := ?_
    owner := ?_ }⟩
  · intro j d'
    rw [consumer_setConsumer_of_lt (h := h.setBroker b x) made]
    split
    · rename_i same
      simp [same]
    · rename_i other
      simp only [other, false_and, or_false]
      rfl
  · intro b'
    by_cases at_b : b' = b
    · rw [at_b, broker_b, changed]
    · rw [broker_else _ at_b]
  · rw [broker_b, Broker.consumerIds_register taken, if_pos rfl]
  · intro b' d' elsewhere
    by_cases at_b : b' = b
    · have other : d' ≠ d := fun at_d => elsewhere ⟨at_b, at_d⟩
      rw [at_b, broker_b, Broker.consumerIds_register taken, if_neg other]
    · rw [broker_else _ at_b]
  · intro b' d' s' site
    by_cases at_b : b' = b
    · subst at_b
      rw [broker_b, changed] at site
      by_cases at_d : d' = d
      · subst at_d
        rw [Table.get?_insert_self] at site
        cases site
        exact ⟨s, found, rfl⟩
      · rw [Table.get?_insert_of_ne _ at_d] at site
        exact ⟨s', site, rfl⟩
    · rw [broker_else _ at_b] at site
      exact ⟨s', site, rfl⟩
  · intro s' o site owned
    rw [broker_b, changed, Table.get?_insert_self] at site
    cases site
    exact owner o owned

namespace Consistent

/-- A change to a broker in reach that leaves the lists alone, and the owners of the sites. -/
theorem setBroker (inv : Consistent h past) {dir : DirectoryId} {name : String} {b : BrokerId}
    {x : Broker (Endpoint L)} (found : h.findBroker dir name = some b)
    (ids : ∀ d, x.consumerIds d = (h.broker b).consumerIds d)
    (owner : ∀ d s s', (h.broker b).destinations.get? d = some s →
      x.destinations.get? d = some s' → s'.owner = s.owner)
    (temporary : ∀ d, x.interned d = true → d.temporary = true →
      ∃ n < h.minted, d.name = "temp-" ++ uniqueName n)
    (spelled : ∀ d, x.interned d = true → d.temporary = false →
      x.names.contains (d.kind, Text.lowercase d.name) = true) :
    Consistent (h.setBroker b x) past := by
  have still : Still h (h.setBroker b x) := .setBroker h b x
  have inside : b < h.brokers.length := inv.wired.found_lt found
  have here : (h.setBroker b x).broker b = x := broker_setBroker_self inside x
  have elsewhere : ∀ {b'}, b' ≠ b → (h.setBroker b x).broker b' = h.broker b' :=
    fun other => broker_setBroker_of_ne other x
  refine ⟨still.wired inv.wired, ?_, ?_⟩
  · exact {
      owner := inv.named.owner
      owner_inj := inv.named.owner_inj
      id := inv.named.id
      id_inj := inv.named.id_inj
      temporary := by
        intro b' d interned
        by_cases at_b : b' = b
        · subst at_b
          rw [here] at interned
          exact temporary d interned
        · rw [elsewhere at_b] at interned
          exact inv.named.temporary interned
      spelled := by
        intro b' d interned lasting
        by_cases at_b : b' = b
        · subst at_b
          rw [here] at interned ⊢
          exact spelled d interned lasting
        · rw [elsewhere at_b] at interned ⊢
          exact inv.named.spelled interned lasting }
  · exact {
      logged := inv.ledger.logged
      attached := inv.ledger.attached
      owned := by
        intro b' d s' o site owned k opened at_b' mem
        rw [still.linkOf] at at_b' ⊢
        by_cases at_b : b' = b
        · -- the list at `d` has the consumer on it, so there was a site before
          subst at_b at_b'
          rw [here] at site
          have listed := inv.listed found opened mem
          cases before : (h.broker (h.linkOf k).broker).destinations.get? d with
          | none =>
            rw [Broker.consumerIds_of_none before] at listed
            cases listed
          | some s =>
            rw [owner d s s' before site] at owned
            exact inv.ledger.owned before owned opened rfl mem
        · rw [elsewhere at_b] at site
          exact inv.ledger.owned site owned opened at_b' mem
      registered := by
        intro dir' name' b' found' d
        have same : (h.setBroker b x).roster past b' d = h.roster past b' d := by
          apply roster_congr
          · intro a _
            rw [enrolled, enrolled, still.linkOf]
            rfl
          · intro a _
            rfl
        have list : ((h.setBroker b x).broker b').consumerIds d = (h.broker b').consumerIds d := by
          by_cases at_b : b' = b
          · subst at_b
            rw [here, ids]
          · rw [elsewhere at_b]
        rw [list, same]
        exact inv.ledger.registered found' d }

/-- An attachment that is on record already. -/
theorem again (inv : Consistent h past) {a : ConsumerId × Destination} (known : a ∈ past) :
    Consistent h (past ++ [a]) where
  wired := inv.wired
  named := inv.named
  ledger := {
    logged := by
      intro k d mem
      rw [List.mem_append, List.mem_singleton] at mem
      rcases mem with earlier | rfl
      · exact inv.ledger.logged earlier
      · exact inv.ledger.logged known
    attached := by
      intro k opened d
      rw [inv.ledger.attached opened, List.mem_append, List.mem_singleton]
      constructor
      · exact Or.inl
      · rintro (earlier | rfl)
        · exact earlier
        · exact known
    owned := inv.ledger.owned
    registered := by
      intro dir name b found d
      rw [roster_append_of_mem known]
      exact inv.ledger.registered found d }

theorem attach (inv : Consistent h past) {k : ConsumerId} {d : Destination}
    (opened : (h.consumer k).closed = false) (done : h.attach k d = .ok h') :
    Consistent h' (past ++ [(k, d)]) := by
  by_cases known : d ∈ (h.consumer k).attached
  · rcases attach_ok done with ⟨-, rfl⟩ | ⟨fresh, -⟩
    · exact inv.again ((inv.ledger.attached opened d).mp known)
    · exact absurd known fresh
  obtain ⟨b, reached, att⟩ := attaches_of_attach (consumer_lt_of_open opened) known done
  obtain ⟨found, at_link⟩ := linked_ok.mp reached
  have unlogged : (k, d) ∉ past := fun mem => known ((inv.ledger.attached opened d).mpr mem)
  refine ⟨att.wired inv.wired, att.named inv.named ?_ att.names, ?_⟩
  · intro b' d' interned
    obtain ⟨s', site⟩ := Broker.interned_iff.mp interned
    obtain ⟨s, site, -⟩ := att.site b' d' s' site
    exact Broker.interned_iff.mpr ⟨s, site⟩
  exact {
    logged := by
      intro j d' mem
      rw [att.consumers]
      rw [List.mem_append, List.mem_singleton] at mem
      rcases mem with earlier | last
      · exact inv.ledger.logged earlier
      · cases last
        exact consumer_lt_of_open opened
    attached := by
      intro j open_j d'
      rw [att.closed] at open_j
      rw [att.attached, inv.ledger.attached open_j, List.mem_append, List.mem_singleton,
        Prod.mk.injEq]
    owned := by
      intro b' d' s' o site owned j open_j at_b mem
      rw [att.closed] at open_j
      rw [att.linkOf] at at_b ⊢
      rcases (att.attached j d').mp mem with earlier | ⟨rfl, rfl⟩
      · obtain ⟨s, before, owner⟩ := att.site b' d' s' site
        rw [owner] at owned
        exact inv.ledger.owned before owned open_j at_b earlier
      · rw [← at_b, ← at_link] at site
        exact (att.owner s' o site owned).symm
    registered := by
      intro dir name b' found' d'
      rw [att.found] at found'
      have same : h'.roster past b' d' = h.roster past b' d' := by
        apply roster_congr
        · intro a _
          rw [enrolled, enrolled, att.linkOf, att.closed]
        · intro a _
          exact att.id a.1
      rw [roster_append_of_notMem unlogged, same, att.id, ← inv.ledger.registered found' d']
      by_cases here : b' = b ∧ d' = d
      · obtain ⟨rfl, rfl⟩ := here
        have enrolled : h'.enrolled b' d' (k, d') = true :=
          enrolled_iff.mpr ⟨rfl, by rw [att.linkOf, at_link], by rw [att.closed, opened]⟩
        rw [att.listed, if_pos enrolled]
      · have elsewhere : ¬ h'.enrolled b' d' (k, d) = true := by
          intro enrolled
          obtain ⟨at_d, at_b, -⟩ := enrolled_iff.mp enrolled
          rw [att.linkOf, ← at_link] at at_b
          exact here ⟨at_b.symm, at_d.symm⟩
        rw [att.listed_else b' d' here, if_neg elsewhere, List.append_nil] }

/-- A site made where there was none. -/
theorem addSite (inv : Consistent h past) {dir : DirectoryId} {name : String} {b : BrokerId}
    {x : Broker (Endpoint L)} {d : Destination} {o : Option String}
    (found : h.findBroker dir name = some b)
    (absent : (h.broker b).destinations.get? d = none)
    (destinations : x.destinations = (h.broker b).destinations.insert d ⟨o, []⟩)
    (names : ∀ key, (h.broker b).names.contains key = true → x.names.contains key = true)
    (temporary : d.temporary = true → ∃ n < h.minted, d.name = "temp-" ++ uniqueName n)
    (spelled : d.temporary = false →
      x.names.contains (d.kind, Text.lowercase d.name) = true) :
    Consistent (h.setBroker b x) past := by
  have interned : ∀ d', x.interned d' = true → d' = d ∨ (h.broker b).interned d' = true := by
    intro d' here
    rw [Broker.interned, destinations, Table.contains_iff] at here
    obtain ⟨s, here⟩ := here
    by_cases at_d : d' = d
    · exact .inl at_d
    · rw [Table.get?_insert_of_ne _ at_d] at here
      exact .inr (Broker.interned_iff.mpr ⟨s, here⟩)
  apply inv.setBroker found
  · intro d'
    by_cases at_d : d' = d
    · subst at_d
      have site : x.destinations.get? d' = some ⟨o, []⟩ := by
        rw [destinations, Table.get?_insert_self]
      rw [Broker.consumerIds_of_some site, Broker.consumerIds_of_none absent]
      rfl
    · exact Broker.consumerIds_congr (by rw [destinations, Table.get?_insert_of_ne _ at_d])
  · intro d' s s' before after
    by_cases at_d : d' = d
    · rw [at_d, absent] at before
      cases before
    · rw [destinations, Table.get?_insert_of_ne _ at_d, before] at after
      cases after
      rfl
  · intro d' here temp
    rcases interned d' here with rfl | here
    · exact temporary temp
    · exact inv.named.temporary here temp
  · intro d' here lasting
    rcases interned d' here with rfl | here
    · exact spelled lasting
    · exact names _ (inv.named.spelled here lasting)

/-- Sites without consumers may go. -/
theorem dropSites (inv : Consistent h past) {dir : DirectoryId} {name : String} {b : BrokerId}
    {x : Broker (Endpoint L)} (found : h.findBroker dir name = some b)
    (kept : ∀ d s, x.destinations.get? d = some s → (h.broker b).destinations.get? d = some s)
    (empty : ∀ d s, (h.broker b).destinations.get? d = some s →
      x.destinations.get? d = none → s.consumers = [])
    (names : x.names = (h.broker b).names) :
    Consistent (h.setBroker b x) past := by
  have interned : ∀ d, x.interned d = true → (h.broker b).interned d = true := by
    intro d here
    obtain ⟨s, here⟩ := Broker.interned_iff.mp here
    exact Broker.interned_iff.mpr ⟨s, kept d s here⟩
  apply inv.setBroker found
  · intro d
    cases after : x.destinations.get? d with
    | some s => exact Broker.consumerIds_congr (after.trans (kept d s after).symm)
    | none =>
      rw [Broker.consumerIds_of_none after]
      cases before : (h.broker b).destinations.get? d with
      | none => rw [Broker.consumerIds_of_none before]
      | some s =>
        rw [Broker.consumerIds_of_some before, Site.ids, empty d s before after]
        rfl
  · intro d s s' before after
    rw [kept d s' after] at before
    cases before
    rfl
  · intro d here temporary
    exact inv.named.temporary (interned d here) temporary
  · intro d here lasting
    rw [names]
    exact inv.named.spelled (interned d here) lasting

theorem createDestination (inv : Consistent h past) {l : Link} {name : String}
    {kind : DestinationKind} {d : Destination}
    (done : h.createDestination l name kind = .ok (d, h')) : Consistent h' past := by
  obtain ⟨b, reached, done⟩ := ok_of_bind done
  obtain ⟨⟨d', x⟩, created, done⟩ := ok_of_bind done
  cases done
  have found := (linked_ok.mp reached).1
  rcases Broker.createDestination_ok created with rfl | ⟨rfl, unspelled, rfl⟩
  · exact inv.setBroker found (fun _ => rfl)
      (fun _ _ _ before after => by rw [before] at after; cases after; rfl)
      (fun _ => inv.named.temporary) (fun _ => inv.named.spelled)
  · have absent : (h.broker b).destinations.get? { name, kind } = none := by
      apply Option.eq_none_iff_forall_ne_some.mpr
      intro s site
      have known := inv.named.spelled (Broker.interned_iff.mpr ⟨s, site⟩) rfl
      rw [Table.contains_eq_false_iff.mpr unspelled] at known
      cases known
    apply inv.addSite found absent rfl
    · intro key known
      obtain ⟨v, known⟩ := Table.contains_iff.mp known
      rw [Table.contains_iff]
      dsimp only
      rw [Table.get?_insert]
      split
      · exact ⟨_, rfl⟩
      · exact ⟨v, known⟩
    · intro temporary
      cases temporary
    · intro _
      exact Table.contains_iff.mpr ⟨_, Table.get?_insert_self ..⟩

theorem createTemporary (inv : Consistent h past) {l : Link} {kind : DestinationKind}
    {d : Destination} (done : h.createTemporary l kind = .ok (d, h')) : Consistent h' past := by
  obtain ⟨b, reached, done⟩ := ok_of_bind done
  cases done
  have found := (linked_ok.mp reached).1
  have absent : (h.broker b).destinations.get?
      { name := "temp-" ++ uniqueName h.minted, kind, temporary := true } = none := by
    apply Option.eq_none_iff_forall_ne_some.mpr
    intro s site
    obtain ⟨n, lt, same⟩ := inv.named.temporary (Broker.interned_iff.mpr ⟨s, site⟩) rfl
    have again := uniqueName_injective ((String.append_right_inj _).mp same)
    omega
  apply inv.mint.addSite found absent rfl
  · intro key known
    exact known
  · intro _
    exact ⟨h.minted, Nat.lt_succ_self _, rfl⟩
  · intro lasting
    cases lasting

theorem deleteTemporary (inv : Consistent h past) {l : Link} {d : Destination}
    (done : h.deleteTemporary l d = .ok h') : Consistent h' past := by
  obtain ⟨b, x, reached, deleted, rfl⟩ := onLink_ok done
  obtain ⟨s, -, site, -, empty, rfl⟩ := Broker.deleteTemporary_ok deleted
  apply inv.dropSites (linked_ok.mp reached).1
  · intro d' s' after
    rw [Table.get?_erase] at after
    split at after
    · cases after
    · exact after
  · intro d' s' before after
    rw [Table.get?_erase] at after
    split at after
    · subst d'
      rw [site] at before
      cases before
      exact empty
    · rw [before] at after
      cases after
  · rfl

end Consistent

end Courier.Hub
