import Courier.Proofs.Hub.Ledger

/-!
# What is made

New brokers, connections, sessions and consumers leave what was there alone, and the ledger in
order.
-/

namespace Courier.Hub

set_option autoImplicit false

variable {L : Type} {h h' : Hub L} {past : List (ConsumerId × Destination)}

/-- Things were added, and nothing that was there has changed. -/
structure Grows (h h' : Hub L) : Prop where
  brokers : h.brokers.length ≤ h'.brokers.length
  connections : h.connections.length ≤ h'.connections.length
  sessions : h.sessions.length ≤ h'.sessions.length
  consumers : h.consumers.length ≤ h'.consumers.length
  found : ∀ dir name, h'.findBroker dir name = h.findBroker dir name
  link : ∀ c < h.connections.length, (h'.connection c).link = (h.connection c).link
  connection : ∀ s < h.sessions.length, (h'.session s).connection = (h.session s).connection
  consumer : ∀ k < h.consumers.length, h'.consumer k = h.consumer k
  unattached : ∀ k, h.consumers.length ≤ k → ∀ d, d ∉ (h'.consumer k).attached
  destinations : ∀ b, (h'.broker b).destinations = (h.broker b).destinations
  names : ∀ b, (h'.broker b).names = (h.broker b).names

namespace Grows

theorem refl (h : Hub L) : Grows h h where
  brokers := Nat.le_refl _
  connections := Nat.le_refl _
  sessions := Nat.le_refl _
  consumers := Nat.le_refl _
  found _ _ := rfl
  link _ _ := rfl
  connection _ _ := rfl
  consumer _ _ := rfl
  unattached _ beyond := not_mem_attached_of_le beyond
  destinations _ := rfl
  names _ := rfl

theorem linkOf (grows : Grows h h') (wired : Wired h) {k : ConsumerId}
    (made : k < h.consumers.length) : h'.linkOf k = h.linkOf k := by
  have session := wired.session_lt made
  rw [Hub.linkOf, sessionLink, grows.consumer k made, grows.connection _ session,
    grows.link _ (wired.connection_lt session)]
  rfl

theorem ledger (grows : Grows h h') (wired : Wired h) (ledger : Ledger h past) :
    Ledger h' past where
  logged mem := Nat.lt_of_lt_of_le (ledger.logged mem) grows.consumers
  attached {k} opened d := by
    by_cases made : k < h.consumers.length
    · rw [grows.consumer k made] at opened ⊢
      exact ledger.attached opened d
    · have unattached := grows.unattached k (Nat.le_of_not_lt made) d
      have unlogged : (k, d) ∉ past := fun mem => made (ledger.logged mem)
      exact ⟨fun mem => absurd mem unattached, fun mem => absurd mem unlogged⟩
  owned {b d s o} site owner {k} opened at_b mem := by
    by_cases made : k < h.consumers.length
    · rw [grows.destinations] at site
      rw [grows.consumer k made] at opened mem
      rw [grows.linkOf wired made] at at_b ⊢
      exact ledger.owned site owner opened at_b mem
    · exact absurd mem (grows.unattached k (Nat.le_of_not_lt made) d)
  registered {dir name b} found d := by
    rw [grows.found] at found
    have same : h'.roster past b d = h.roster past b d := by
      apply roster_congr
      · intro a mem
        have made := ledger.logged mem
        rw [enrolled, enrolled, grows.linkOf wired made, grows.consumer a.1 made]
      · intro a mem
        rw [grows.consumer a.1 (ledger.logged mem)]
    have ids : (h'.broker b).consumerIds d = (h.broker b).consumerIds d :=
      Broker.consumerIds_congr (by rw [grows.destinations])
    rw [ids, same, ledger.registered found d]

theorem interned (grows : Grows h h') (b : BrokerId) (d : Destination) :
    (h'.broker b).interned d = (h.broker b).interned d := by
  rw [Broker.interned, grows.destinations]
  rfl

end Grows

theorem addBroker_grows (h : Hub L) (name : String) : Grows h (h.addBroker name).2 := by
  have same : ∀ b, b = h.brokers.length → h.broker b = { name := "" } :=
    fun b last => broker_of_le (Nat.le_of_eq last.symm)
  refine { Grows.refl h with brokers := by simp [addBroker], destinations := ?_, names := ?_ }
  all_goals
    intro b
    rw [broker_addBroker]
    split
    · rename_i last
      rw [same b last]
    · rfl

namespace Consistent

theorem addBroker (inv : Consistent h past) (name : String) :
    Consistent (h.addBroker name).2 past := by
  have grows := addBroker_grows h name
  exact {
    wired := { inv.wired with
      broker_lt := fun made => Nat.lt_of_lt_of_le (inv.wired.broker_lt made) grows.brokers
      found_lt := fun found => Nat.lt_of_lt_of_le (inv.wired.found_lt found) grows.brokers }
    named := { inv.named with
      temporary := fun {b d} here => inv.named.temporary ((grows.interned b d).symm.trans here)
      spelled := fun {b d} here lasting => by
        rw [grows.names]
        exact inv.named.spelled ((grows.interned b d).symm.trans here) lasting }
    ledger := grows.ledger inv.wired inv.ledger }

end Consistent

/-- A broker that nothing refers to. -/
structure Unused (h : Hub L) (b : BrokerId) : Prop where
  lt : b < h.brokers.length
  unfound : ∀ dir name, h.findBroker dir name ≠ some b
  unlinked : ∀ c < h.connections.length, (h.connection c).link.broker ≠ b
  empty : ∀ d, (h.broker b).consumerIds d = []

namespace Consistent

/-- Whatever can be found in the changed directory was there before, or nothing refers to it yet
and it stands under the one name `name`. -/
theorem setDirectory (inv : Consistent h past) {d : DirectoryId} {t : Table String BrokerId}
    (name : String)
    (origin : ∀ {name' b}, t.get? name' = some b →
      h.findBroker d name' = some b ∨ name' = name ∧ Unused h b) :
    Consistent (h.setDirectory d t) past := by
  have found_origin : ∀ {dir name' b}, (h.setDirectory d t).findBroker dir name' = some b →
      h.findBroker dir name' = some b ∨ (dir = d ∧ name' = name) ∧ Unused h b := by
    intro dir name' b found
    rw [findBroker_setDirectory] at found
    split at found
    · rename_i here
      rw [here.1]
      exact (origin found).imp_right fun fresh => ⟨⟨rfl, fresh.1⟩, fresh.2⟩
    · exact .inl found
  refine ⟨{ inv.wired with found_lt := ?_, found_once := ?_, link_found := ?_ },
    { inv.named with }, { inv.ledger with registered := ?_ }⟩
  · intro dir name' b found
    rcases found_origin found with found | ⟨-, fresh⟩
    · exact inv.wired.found_lt found
    · exact fresh.lt
  · intro dir₁ name₁ dir₂ name₂ b found₁ found₂
    rcases found_origin found₁ with found₁ | ⟨⟨rfl, rfl⟩, fresh⟩
    · rcases found_origin found₂ with found₂ | ⟨-, fresh⟩
      · exact inv.wired.found_once found₁ found₂
      · exact absurd found₁ (fresh.unfound _ _)
    · rcases found_origin found₂ with found₂ | ⟨place, -⟩
      · exact absurd found₂ (fresh.unfound _ _)
      · exact place
  · intro c dir name' made found
    rcases found_origin found with found | ⟨-, fresh⟩
    · exact inv.wired.link_found made found
    · exact absurd rfl (fresh.unlinked c made)
  · intro dir name' b found d'
    rcases found_origin found with found | ⟨-, fresh⟩
    · exact inv.ledger.registered found d'
    · -- no consumer has a link to a broker that nothing refers to
      have unlisted : h.roster past b d' = [] := by
        rw [List.eq_nil_iff_forall_not_mem]
        intro id mem
        obtain ⟨k, mem, at_b, -⟩ := mem_roster.mp mem
        exact fresh.unlinked _ (inv.wired.connection_of_consumer_lt (inv.ledger.logged mem)) at_b
      exact (fresh.empty d').trans unlisted.symm

theorem removeBroker (inv : Consistent h past) (d : DirectoryId) (name : String) :
    Consistent (h.removeBroker d name).2 past := by
  apply inv.setDirectory name
  intro name' b found
  rw [Table.get?_erase] at found
  split at found
  · cases found
  · exact .inl found

/-- A broker that was just made is not referred to. -/
theorem unused (inv : Consistent h past) (name : String) :
    Unused (h.addBroker name).2 h.brokers.length where
  lt := by simp [Hub.addBroker]
  unfound dir name found := Nat.lt_irrefl _ (inv.wired.found_lt found)
  unlinked c made same := Nat.lt_irrefl _ (same ▸ inv.wired.broker_lt made)
  empty d := by
    rw [broker_addBroker, if_pos rfl]
    rfl

theorem getOrCreate (inv : Consistent h past) (d : DirectoryId) (name : String) :
    Consistent (h.getOrCreate d name).2 past := by
  unfold Hub.getOrCreate
  split
  · exact inv
  · apply (inv.addBroker name).setDirectory name
    intro name' b found
    rw [Table.get?_insert] at found
    split at found
    · cases found
      exact .inr ⟨‹_›, inv.unused name⟩
    · exact .inl found

theorem getOrCreate_lt (inv : Consistent h past) (d : DirectoryId) (name : String) :
    (h.getOrCreate d name).1 < (h.getOrCreate d name).2.brokers.length := by
  unfold Hub.getOrCreate
  split
  · exact inv.wired.found_lt ‹_›
  · exact (inv.unused name).lt

/-- A broker got by its name is found under that name or not at all. -/
theorem getOrCreate_found (inv : Consistent h past) {d dir : DirectoryId} {name name' : String}
    (found : (h.getOrCreate d name).2.findBroker dir name' = some (h.getOrCreate d name).1) :
    d = dir ∧ name = name' := by
  unfold Hub.getOrCreate at found
  split at found
  · rename_i b known
    exact inv.wired.found_once found known
  · dsimp only at found
    rw [findBroker_setDirectory] at found
    split at found
    · rename_i here
      rw [Table.get?_insert] at found
      split at found
      · exact ⟨here.1.symm, Eq.symm ‹_›⟩
      · exact absurd found ((inv.unused name).unfound d name')
    · exact absurd found ((inv.unused name).unfound dir name')

theorem addConnection (inv : Consistent h past) {x : Connection}
    (lt : x.link.broker < h.brokers.length)
    (found : ∀ {dir name}, h.findBroker dir name = some x.link.broker →
      x.link.directory = dir ∧ x.link.brokerName = name)
    (owner : ∃ n < h.minted, x.link.owner = uniqueName n)
    (fresh : ∀ c < h.connections.length, (h.connection c).link.owner ≠ x.link.owner) :
    Consistent { h with connections := h.connections ++ [x] } past := by
  generalize grown : ({ h with connections := h.connections ++ [x] } : Hub L) = h'
  have count : h'.connections.length = h.connections.length + 1 := by simp [← grown]
  have new : h'.connection h.connections.length = x := by
    rw [← grown, connection_addConnection, if_pos rfl]
  have old : ∀ c < h.connections.length, h'.connection c = h.connection c := by
    intro c made
    rw [← grown, connection_addConnection, if_neg (Nat.ne_of_lt made)]
  have either : ∀ {c}, c < h'.connections.length →
      c < h.connections.length ∨ c = h.connections.length := by
    intro c made
    omega
  have grows : Grows h h' := by
    subst grown
    exact { Grows.refl h with
      connections := by simp
      link := fun c made => congrArg Connection.link (old c made) }
  refine ⟨?_, ?_, grows.ledger inv.wired inv.ledger⟩
  · subst grown
    refine { inv.wired with connection_lt := ?_, broker_lt := ?_, link_found := ?_ }
    · intro s made
      exact Nat.lt_of_lt_of_le (inv.wired.connection_lt made) grows.connections
    · intro c made
      rcases either made with made | rfl
      · rw [old c made]
        exact inv.wired.broker_lt made
      · rw [new]
        exact lt
    · intro c dir name made here
      rcases either made with made | rfl
      · rw [old c made] at here ⊢
        exact inv.wired.link_found made here
      · rw [new] at here ⊢
        exact found here
  · subst grown
    refine { inv.named with owner := ?_, owner_inj := ?_ }
    · intro c made
      rcases either made with made | rfl
      · rw [old c made]
        exact inv.named.owner made
      · rw [new]
        exact owner
    · intro c c' made made' same
      rcases either made with made | rfl <;> rcases either made' with made' | rfl
      · rw [old c made, old c' made'] at same
        exact inv.named.owner_inj made made' same
      · rw [old c made, new] at same
        exact absurd same (fresh c made)
      · rw [old c' made', new] at same
        exact absurd same.symm (fresh c' made')
      · rfl

theorem addSession (inv : Consistent h past) {x : Session}
    (lt : x.connection < h.connections.length) :
    Consistent { h with sessions := h.sessions ++ [x] } past := by
  have grows : Grows h { h with sessions := h.sessions ++ [x] } := { Grows.refl h with
    sessions := by simp
    connection := by
      intro s made
      rw [session_addSession, if_neg (Nat.ne_of_lt made)] }
  refine ⟨{ inv.wired with session_lt := ?_, connection_lt := ?_ }, { inv.named with },
    grows.ledger inv.wired inv.ledger⟩
  · intro k made
    exact Nat.lt_of_lt_of_le (inv.wired.session_lt made) grows.sessions
  · intro s made
    rw [session_addSession]
    split
    · exact lt
    · rename_i earlier
      rw [List.length_append, List.length_singleton] at made
      exact inv.wired.connection_lt (Nat.lt_of_le_of_ne (Nat.le_of_lt_succ made) earlier)

theorem addConsumer (inv : Consistent h past) {x : Consumer L} (unattached : x.attached = [])
    (lt : x.session < h.sessions.length)
    (id : ∃ n < h.minted, x.id = "consumer-" ++ uniqueName n)
    (fresh : ∀ k < h.consumers.length, (h.consumer k).id ≠ x.id) :
    Consistent { h with consumers := h.consumers ++ [x] } past := by
  generalize grown : ({ h with consumers := h.consumers ++ [x] } : Hub L) = h'
  have count : h'.consumers.length = h.consumers.length + 1 := by simp [← grown]
  have new : h'.consumer h.consumers.length = x := by
    rw [← grown, consumer_addConsumer, if_pos rfl]
  have old : ∀ k, k ≠ h.consumers.length → h'.consumer k = h.consumer k := by
    intro k other
    rw [← grown, consumer_addConsumer, if_neg other]
  have either : ∀ {k}, k < h'.consumers.length →
      k < h.consumers.length ∨ k = h.consumers.length := by
    intro k made
    omega
  have grows : Grows h h' := by
    subst grown
    refine { Grows.refl h with consumers := by simp, consumer := ?_, unattached := ?_ }
    · intro k made
      exact old k (Nat.ne_of_lt made)
    · intro k beyond d
      by_cases last : k = h.consumers.length
      · rw [last, new, unattached]
        exact List.not_mem_nil
      · rw [old k last]
        exact not_mem_attached_of_le beyond d
  refine ⟨?_, ?_, grows.ledger inv.wired inv.ledger⟩
  · subst grown
    refine { inv.wired with session_lt := ?_ }
    intro k made
    rcases either made with made | rfl
    · rw [old k (Nat.ne_of_lt made)]
      exact inv.wired.session_lt made
    · rw [new]
      exact lt
  · subst grown
    refine { inv.named with id := ?_, id_inj := ?_ }
    · intro k made
      rcases either made with made | rfl
      · rw [old k (Nat.ne_of_lt made)]
        exact inv.named.id made
      · rw [new]
        exact id
    · intro k k' made made' same
      rcases either made with made | rfl <;> rcases either made' with made' | rfl
      · rw [old k (Nat.ne_of_lt made), old k' (Nat.ne_of_lt made')] at same
        exact inv.named.id_inj made made' same
      · rw [old k (Nat.ne_of_lt made), new] at same
        exact absurd same (fresh k made)
      · rw [old k' (Nat.ne_of_lt made'), new] at same
        exact absurd same.symm (fresh k' made')
      · rfl

end Consistent

end Courier.Hub
