import Courier.Proofs.Hub.Registering

/-!
# Closing consumers

A consumer that closes leaves every list it is on, as far as its broker can be reached. Nothing
else changes, and the ledger stays in order.
-/

namespace Courier.Hub

set_option autoImplicit false

variable {L : Type} {h h' : Hub L} {past : List (ConsumerId × Destination)}

/-- Unregisters an id, if that can be done. -/
def withdraw (l : Link) (id : String) (h : Hub L) (d : Destination) : Hub L :=
  match h.unregister l d id with
  | .ok h' => h'
  | .error _ => h

/-- The id has left the sites told by `gone`, and nothing else has changed. -/
structure Leaves (h h' : Hub L) (id : String) (gone : BrokerId → Destination → Prop) : Prop where
  rest : ∃ brokers, h' = { h with brokers }
  count : h'.brokers.length = h.brokers.length
  names : ∀ b, (h'.broker b).names = (h.broker b).names
  left : ∀ b d, gone b d → (h'.broker b).destinations.get? d =
    ((h.broker b).destinations.get? d).map (·.without id)
  kept : ∀ b d, ¬ gone b d →
    (h'.broker b).destinations.get? d = (h.broker b).destinations.get? d

namespace Leaves
variable {id : String} {gone : BrokerId → Destination → Prop}

theorem linked (leaves : Leaves h h' id gone) (l : Link) : h'.linked l = h.linked l := by
  obtain ⟨brokers, rfl⟩ := leaves.rest
  rfl

theorem next {h'' : Hub L} {gone' : BrokerId → Destination → Prop} (first : Leaves h h' id gone)
    (second : Leaves h' h'' id gone') :
    Leaves h h'' id fun b d => gone b d ∨ gone' b d where
  rest := by
    obtain ⟨brokers, rfl⟩ := first.rest
    obtain ⟨brokers', rfl⟩ := second.rest
    exact ⟨brokers', rfl⟩
  count := second.count.trans first.count
  names b := (second.names b).trans (first.names b)
  left b d away := by
    by_cases away₁ : gone b d <;> by_cases away₂ : gone' b d
    · rw [second.left b d away₂, first.left b d away₁, Option.map_map]
      congr 1
      funext s
      exact s.without_without id
    · rw [second.kept b d away₂, first.left b d away₁]
    · rw [second.left b d away₂, first.kept b d away₁]
    · exact absurd away (not_or.mpr ⟨away₁, away₂⟩)
  kept b d here := by
    obtain ⟨here₁, here₂⟩ := not_or.mp here
    rw [second.kept b d here₂, first.kept b d here₁]

end Leaves

theorem Leaves.none (h : Hub L) {id : String} {gone : BrokerId → Destination → Prop}
    (absent : ∀ b d, gone b d → (h.broker b).destinations.get? d = none) :
    Leaves h h id gone where
  rest := ⟨h.brokers, rfl⟩
  count := rfl
  names _ := rfl
  left b d away := by
    rw [absent b d away]
    rfl
  kept _ _ _ := rfl

theorem withdraw_leaves (h : Hub L) (l : Link) (id : String) (d : Destination) :
    Leaves h (h.withdraw l id d) id fun b d' => h.linked l = .ok b ∧ d' = d := by
  cases reached : h.linked l with
  | error e =>
    have same : h.withdraw l id d = h := by
      rw [withdraw, unregister, onLink, reached]
      rfl
    rw [same]
    apply Leaves.none
    intro b d' away
    cases away.1
  | ok b =>
    cases taken : (h.broker b).unregister d id with
    | error e =>
      have same : h.withdraw l id d = h := by
        rw [withdraw, unregister, onLink_of_linked reached, taken]
        rfl
      rw [same]
      apply Leaves.none
      rintro b' d' ⟨at_b, rfl⟩
      cases at_b
      exact Broker.unregister_error taken
    | ok x =>
      obtain ⟨s, site, rfl⟩ := Broker.unregister_ok taken
      generalize changed : { h.broker b with
        destinations := (h.broker b).destinations.insert d (s.without id) } = x at taken
      have same : h.withdraw l id d = h.setBroker b x := by
        rw [withdraw, unregister, onLink_of_linked reached, taken]
        rfl
      have inside : b < h.brokers.length := broker_lt_of_site site
      have names : x.names = (h.broker b).names := by rw [← changed]
      rw [same]
      refine ⟨⟨_, rfl⟩, List.length_set, view_getD_set Broker.names names, ?_, ?_⟩
      · rintro b' d' ⟨at_b, rfl⟩
        cases at_b
        rw [broker_setBroker_self inside, ← changed, site]
        exact Table.get?_insert_self ..
      · intro b' d' elsewhere
        by_cases at_b : b' = b
        · subst at_b
          have other : d' ≠ d := fun at_d => elsewhere ⟨rfl, at_d⟩
          rw [broker_setBroker_self inside, ← changed]
          exact Table.get?_insert_of_ne _ other _
        · rw [broker_setBroker_of_ne at_b]

theorem withdraw_all_leaves (h : Hub L) (l : Link) (id : String) (ds : List Destination) :
    Leaves h (ds.foldl (withdraw l id) h) id fun b d => h.linked l = .ok b ∧ d ∈ ds := by
  induction ds using List.reverseRecOn with
  | nil =>
    apply Leaves.none
    intro b d away
    cases away.2
  | append_singleton ds d ih =>
    rw [List.foldl_append, List.foldl_cons, List.foldl_nil]
    have step := ih.next (withdraw_leaves (ds.foldl (withdraw l id) h) l id d)
    rw [ih.linked l] at step
    have same : (fun b d' => h.linked l = .ok b ∧ d' ∈ ds ∨ h.linked l = .ok b ∧ d' = d) =
        fun b d' => h.linked l = .ok b ∧ d' ∈ ds ++ [d] := by
      funext b d'
      rw [List.mem_append, List.mem_singleton, and_or_left]
    rwa [same] at step

/-- The consumer `k` has closed: it has left the lists it was on, and all else is as before. -/
structure Closes (h h' : Hub L) (k : ConsumerId) : Prop extends Still h h' where
  closed : (h'.consumer k).closed = true
  others : ∀ j, j ≠ k → h'.consumer j = h.consumer j
  held : ∀ j, (h'.consumer j).held = (h.consumer j).held
  sameSessions : h'.sessions = h.sessions
  sameDeliveries : h'.deliveries = h.deliveries
  names : ∀ b, (h'.broker b).names = (h.broker b).names
  left : ∀ b d, h.linked (h.linkOf k) = .ok b → d ∈ (h.consumer k).attached →
    (h'.broker b).destinations.get? d =
      ((h.broker b).destinations.get? d).map (·.without (h.consumer k).id)
  kept : ∀ b d, ¬ (h.linked (h.linkOf k) = .ok b ∧ d ∈ (h.consumer k).attached) →
    (h'.broker b).destinations.get? d = (h.broker b).destinations.get? d

theorem Closes.site_origin {k : ConsumerId} (closes : Closes h h' k) {b : BrokerId}
    {d : Destination} {s' : Site (Endpoint L)}
    (site : (h'.broker b).destinations.get? d = some s') :
    ∃ s, (h.broker b).destinations.get? d = some s ∧ s'.owner = s.owner := by
  by_cases away : h.linked (h.linkOf k) = .ok b ∧ d ∈ (h.consumer k).attached
  · rw [closes.left b d away.1 away.2] at site
    obtain ⟨s, old, rfl⟩ := Option.map_eq_some_iff.mp site
    exact ⟨s, old, rfl⟩
  · rw [closes.kept b d away] at site
    exact ⟨s', site, rfl⟩

theorem Closes.consumer_of_open {k j : ConsumerId} (closes : Closes h h' k)
    (opened : (h'.consumer j).closed = false) : h'.consumer j = h.consumer j := by
  apply closes.others
  rintro rfl
  rw [closes.closed] at opened
  cases opened

theorem closeConsumer_of_closed {k : ConsumerId} (closed : (h.consumer k).closed = true) :
    h.closeConsumer k = h := by
  simp only [closeConsumer, closed, if_true]

theorem closeConsumer_of_open {k : ConsumerId} (opened : (h.consumer k).closed = false) :
    h.closeConsumer k =
      ((h.consumer k).attached.foldl (withdraw (h.linkOf k) (h.consumer k).id) h).setConsumer k
        { h.consumer k with closed := true, attached := [], listener := none, mailbox := ∅ } := by
  simp only [closeConsumer, opened, Bool.false_eq_true, if_false]
  rfl

theorem closeConsumer_closes {k : ConsumerId} (opened : (h.consumer k).closed = false) :
    Closes h (h.closeConsumer k) k := by
  have made : k < h.consumers.length := consumer_lt_of_open opened
  have leaves := withdraw_all_leaves h (h.linkOf k) (h.consumer k).id (h.consumer k).attached
  rw [closeConsumer_of_open opened]
  generalize (h.consumer k).attached.foldl (withdraw (h.linkOf k) (h.consumer k).id) h = h₁
    at leaves ⊢
  obtain ⟨brokers, rfl⟩ := leaves.rest
  have consumer_eq : ∀ c j, (({ h with brokers } : Hub L).setConsumer k c).consumer j =
      if j = k then c else h.consumer j := consumer_setConsumer_of_lt made
  have still : Still h { h with brokers } :=
    .of_eq leaves.count rfl rfl rfl rfl (Nat.le_refl _)
  exact {
    toStill := still.trans (.setConsumer rfl rfl)
    closed := by rw [consumer_eq, if_pos rfl]
    others := by
      intro j other
      rw [consumer_eq, if_neg other]
    held := view_getD_set Consumer.held rfl
    sameSessions := rfl
    sameDeliveries := rfl
    names := leaves.names
    left := fun b d reached mem => leaves.left b d ⟨reached, mem⟩
    kept := leaves.kept }

namespace Consistent

/-- A closed consumer is struck from the rosters. -/
theorem roster_of_closes (inv : Consistent h past) {k : ConsumerId} (made : k < h.consumers.length)
    (closes : Closes h h' k) (b : BrokerId) (d : Destination) :
    h'.roster past b d = (h.roster past b d).filter (· ≠ (h.consumer k).id) := by
  have kept : past.eraseDups.filter (h'.enrolled b d) =
      (past.eraseDups.filter (h.enrolled b d)).filter
        fun a => (h.consumer a.1).id ≠ (h.consumer k).id := by
    rw [List.filter_filter]
    apply List.filter_congr
    rintro ⟨j, d'⟩ mem
    have logged := inv.ledger.logged (List.mem_eraseDups.mp mem)
    by_cases same : j = k
    · subst same
      simp [enrolled, closes.closed]
    · have other : (h.consumer j).id ≠ (h.consumer k).id :=
        fun ids => same (inv.named.id_inj logged made ids)
      simp [enrolled, closes.linkOf, closes.others j same, other]
  rw [roster, roster, kept, List.filter_map]
  apply List.map_congr_left
  intro a _
  exact closes.id a.1

theorem consumerIds_of_closes (inv : Consistent h past) {k : ConsumerId}
    (opened : (h.consumer k).closed = false) (closes : Closes h h' k) {dir : DirectoryId}
    {name : String} {b : BrokerId} (found : h.findBroker dir name = some b) (d : Destination) :
    (h'.broker b).consumerIds d =
      ((h.broker b).consumerIds d).filter (· ≠ (h.consumer k).id) := by
  have made : k < h.consumers.length := consumer_lt_of_open opened
  by_cases away : h.linked (h.linkOf k) = .ok b ∧ d ∈ (h.consumer k).attached
  · have site := closes.left b d away.1 away.2
    cases listed : (h.broker b).destinations.get? d with
    | none =>
      rw [listed] at site
      rw [Broker.consumerIds_of_none site, Broker.consumerIds_of_none listed]
      rfl
    | some s =>
      rw [listed] at site
      rw [Broker.consumerIds_of_some site, Broker.consumerIds_of_some listed, Site.ids_without]
  · -- whoever is listed here under this id is attached here, through a link that leads here
    have unlisted : ∀ id ∈ (h.broker b).consumerIds d, id ≠ (h.consumer k).id := by
      intro id listed same
      rw [inv.ledger.registered found] at listed
      obtain ⟨j, mem, at_b, open_j, rfl⟩ := mem_roster.mp listed
      obtain rfl := inv.named.id_inj (inv.ledger.logged mem) made same
      exact away ⟨inv.wired.linked_of_consumer made found at_b,
        (inv.ledger.attached opened d).mpr mem⟩
    rw [Broker.consumerIds_congr (closes.kept b d away), List.filter_eq_self.mpr]
    intro id listed
    exact decide_eq_true (unlisted id listed)

theorem ledger_of_closes (inv : Consistent h past) {k : ConsumerId}
    (opened : (h.consumer k).closed = false) (closes : Closes h h' k) : Ledger h' past where
  logged mem := by
    rw [closes.consumers]
    exact inv.ledger.logged mem
  attached {j} open_j d := by
    have same := closes.consumer_of_open open_j
    rw [same] at open_j ⊢
    exact inv.ledger.attached open_j d
  owned {b d s' o} site owned {j} open_j at_b mem := by
    obtain ⟨s, site, owner⟩ := closes.site_origin site
    have same := closes.consumer_of_open open_j
    rw [same] at open_j mem
    rw [closes.linkOf] at at_b ⊢
    exact inv.ledger.owned site (owner.symm.trans owned) open_j at_b mem
  registered {dir name b} found d := by
    rw [closes.found] at found
    rw [inv.roster_of_closes (consumer_lt_of_open opened) closes, ← inv.ledger.registered found]
    exact inv.consumerIds_of_closes opened closes found d

theorem closeConsumer (inv : Consistent h past) (k : ConsumerId) :
    Consistent (h.closeConsumer k) past := by
  cases opened : (h.consumer k).closed with
  | true =>
    rw [closeConsumer_of_closed opened]
    exact inv
  | false =>
    have closes := closeConsumer_closes opened
    refine ⟨closes.wired inv.wired, closes.named inv.named ?_ closes.names,
      inv.ledger_of_closes opened closes⟩
    intro b d interned
    obtain ⟨s', site⟩ := Broker.interned_iff.mp interned
    obtain ⟨s, site, -⟩ := closes.site_origin site
    exact Broker.interned_iff.mpr ⟨s, site⟩

end Consistent

end Courier.Hub
