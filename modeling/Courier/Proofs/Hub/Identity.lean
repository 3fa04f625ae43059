import Courier.Proofs.Hub.Dealings

/-!
# Which broker a link leads to

A link leads to the broker it was opened against and to no other. Once that broker has been taken out
of its directory, whatever is put there under the same name, nothing can be done through the link any
more, except that closing its connection closes it.
-/

namespace Courier.Hub

set_option autoImplicit false

variable {L : Type} {h h' : Hub L} {l : Link} {b : BrokerId}

/-! A link before and after its broker is removed. -/

/-- The broker that a link leads to has been made, but is no longer listed where the link looks. -/
structure Lost (h : Hub L) (l : Link) : Prop where
  made : l.broker < h.brokers.length
  gone : h.findBroker l.directory l.brokerName ≠ some l.broker

theorem linked_deal (reached : h.linked l = .ok b) {dealing : Dealing L}
    (kept : dealing.removal? ≠ some (l.directory, l.brokerName)) :
    (h.deal dealing).linked l = .ok b := by
  obtain ⟨found, same⟩ := linked_ok.mp reached
  refine linked_ok.mpr ⟨?_, same⟩
  cases removal : dealing.removal? with
  | none => exact (deal_shifts h removal).enlists.kept found
  | some removed =>
    obtain ⟨d, name⟩ := removed
    rw [deal_of_removal removal]
    refine findBroker_removeBroker.mpr ⟨found, ?_⟩
    rintro ⟨⟩
    exact kept removal

theorem lost_of_removal (listed : Listed h) (reached : h.linked l = .ok b) {dealing : Dealing L}
    (removal : dealing.removal? = some (l.directory, l.brokerName)) : (h.deal dealing).Lost l := by
  obtain ⟨found, rfl⟩ := linked_ok.mp reached
  rw [deal_of_removal removal]
  refine ⟨listed found, ?_⟩
  intro here
  exact (findBroker_removeBroker.mp here).2 rfl

/-- A new broker of the old name is another one. -/
theorem Lost.deal (lost : h.Lost l) (dealing : Dealing L) : (h.deal dealing).Lost l := by
  cases removal : dealing.removal? with
  | none =>
    have enlists := (deal_shifts h removal).enlists
    refine ⟨Nat.lt_of_lt_of_le lost.made enlists.brokers, ?_⟩
    intro here
    rcases enlists.origin here with here | ⟨lower, -⟩
    · exact lost.gone here
    · exact Nat.not_lt_of_le lower lost.made
  | some removed =>
    obtain ⟨d, name⟩ := removed
    rw [deal_of_removal removal]
    exact ⟨lost.made, fun here => lost.gone (findBroker_removeBroker.mp here).1⟩

theorem Lost.deals (lost : h.Lost l) (dealings : List (Dealing L)) : (h.deals dealings).Lost l := by
  induction dealings generalizing h with
  | nil => exact lost
  | cons dealing dealings ih => exact ih (lost.deal dealing)

theorem linked_deals (reached : h.linked l = .ok b) {dealings : List (Dealing L)}
    (kept : ∀ dealing ∈ dealings, dealing.removal? ≠ some (l.directory, l.brokerName)) :
    (h.deals dealings).linked l = .ok b := by
  induction dealings generalizing h with
  | nil => exact reached
  | cons dealing dealings ih =>
    rw [List.forall_mem_cons] at kept
    exact ih (linked_deal reached kept.1) kept.2

theorem lost_deals (grounded : Grounded h) (reached : h.linked l = .ok b)
    {dealings : List (Dealing L)} (removed : ∃ dealing ∈ dealings,
      dealing.removal? = some (l.directory, l.brokerName)) : (h.deals dealings).Lost l := by
  induction dealings generalizing h with
  | nil =>
    obtain ⟨dealing, mem, -⟩ := removed
    cases mem
  | cons dealing dealings ih =>
    by_cases removal : dealing.removal? = some (l.directory, l.brokerName)
    · exact (lost_of_removal grounded.listed reached removal).deals dealings
    · refine ih (grounded.deal dealing) (linked_deal reached removal) ?_
      obtain ⟨dealing', mem, removal'⟩ := removed
      rcases List.mem_cons.mp mem with rfl | mem
      · exact absurd removal' removal
      · exact ⟨dealing', mem, removal'⟩

theorem Lost.linked (lost : h.Lost l) :
    ∃ e, h.linked l = .error e ∧ e.kind = .illegalState := by
  unfold Hub.linked lookup
  cases found : h.findBroker l.directory l.brokerName with
  | none => exact ⟨_, rfl, rfl⟩
  | some b =>
    have other : b ≠ l.broker := by
      rintro rfl
      exact lost.gone found
    exact ⟨.brokerReplaced l.brokerName, if_neg other, rfl⟩

/-- Every request through a link looks for the broker before it does anything. -/
theorem via_refused {e : Error} (cut : h.linked l = .error e) (r : LinkRequest L) :
    h.via l r = (.error e, h) := by
  cases r with
  | close | deleteTemporary | register | unregister | claim | release =>
    exact adoptHub_refused cut _
  | createSession => rw [via, cut]; rfl
  | createDestination | createTemporary | send => exact adopt_refused cut _

/-! Opening. -/

theorem findBroker_getOrCreate {d : DirectoryId} (inside : d < h.directories.length)
    (name : String) :
    (h.getOrCreate d name).2.findBroker d name = some (h.getOrCreate d name).1 := by
  unfold getOrCreate
  split
  · rename_i found
    exact found
  · refine (findBroker_setDirectory ..).trans ((if_pos ⟨rfl, inside⟩).trans ?_)
    exact Table.get?_insert_self ..

theorem linked_of_openLink {d : DirectoryId} {url : Url} {username : Option String}
    (inside : d < h.directories.length) (done : h.openLink d url username = .ok (l, h')) :
    h'.linked l = .ok l.broker := by
  obtain ⟨rfl, same, rfl⟩ := openLink_ok done
  refine linked_ok.mpr ⟨?_, rfl⟩
  rw [same]
  exact findBroker_getOrCreate inside l.brokerName

theorem setClientId_still {c : ConnectionId} {id : String} (done : h.setClientId c id = .ok h') :
    Still h h' ∧ h'.directories = h.directories := by
  obtain ⟨-, -, b, x, -, -, rfl⟩ := setClientId_ok done
  exact ⟨(Still.setBroker h b x).trans (.setConnection rfl), rfl⟩

/-- A connection that has opened has a link that was opened for it. -/
theorem connectAs_ok {f : Factory} {username : Option String} {c : ConnectionId}
    (done : f.connectAs h username = (.ok c, h')) :
    ∃ d url x, h.openLink d url username = .ok ((h'.connection c).link, x) ∧
      h'.directories = x.directories := by
  unfold Factory.connectAs at done
  split at done
  · cases done
  rename_i scheme d url resolved
  unfold openConnection at done
  split at done
  · cases done
  rename_i l x opened
  refine ⟨d, url, x, ?_⟩
  have joined : ({ x with connections := x.connections ++ [{ link := l, defaults := f.defaults }] } :
      Hub L).connection x.connections.length = { link := l, defaults := f.defaults } :=
    (connection_addConnection ..).trans (if_pos rfl)
  dsimp only at done
  split at done
  · cases done
    rw [joined]
    exact ⟨opened, rfl⟩
  · split at done
    · rename_i assigned
      cases done
      obtain ⟨still, directories⟩ := setClientId_still assigned
      rw [still.link, joined]
      exact ⟨opened, directories⟩
    · cases done

/-! Closing a connection whose broker is gone. -/

theorem withdraw_of_cut {e : Error} (cut : h.linked l = .error e) (id : String)
    (ds : List Destination) : ds.foldl (withdraw l id) h = h := by
  induction ds with
  | nil => rfl
  | cons d ds ih =>
    have same : withdraw l id h d = h := by
      rw [withdraw, unregister, onLink, cut]
      rfl
    rw [List.foldl_cons, same, ih]

theorem brokers_closeConsumer {k : ConsumerId} {e : Error} (cut : h.linked (h.linkOf k) = .error e) :
    (h.closeConsumer k).brokers = h.brokers := by
  cases opened : (h.consumer k).closed with
  | true => rw [closeConsumer_of_closed opened]
  | false =>
    rw [closeConsumer_of_open opened, withdraw_of_cut cut]
    rfl

theorem Still.sessionLink (still : Still h h') (s : SessionId) :
    h'.sessionLink s = h.sessionLink s := by
  rw [Hub.sessionLink, still.connection, still.link]
  rfl

theorem shutdownSession_still (h : Hub L) (s : SessionId) : Still h (h.shutdownSession s) := by
  cases opened : (h.session s).isOpen with
  | false =>
    rw [shutdownSession_of_shut opened]
    exact .refl h
  | true =>
    rw [shutdownSession_of_open opened]
    exact (still_markShut h s).trans (foldl_closeIn s _ _).1.1.toStill

theorem brokers_shutdownSession {s : SessionId} {e : Error}
    (cut : h.linked (h.sessionLink s) = .error e) : (h.shutdownSession s).brokers = h.brokers := by
  cases opened : (h.session s).isOpen with
  | false => rw [shutdownSession_of_shut opened]
  | true =>
    rw [shutdownSession_of_open opened]
    have both : ∀ ks : List ConsumerId, Still h (ks.foldl (closeIn s) (h.markShut s)) ∧
        (ks.foldl (closeIn s) (h.markShut s)).brokers = h.brokers := by
      intro ks
      refine List.foldlRecOn (motive := fun h₁ => Still h h₁ ∧ h₁.brokers = h.brokers) ks _
        ⟨still_markShut h s, rfl⟩ ?_
      rintro h₁ ⟨still, same⟩ k -
      refine ⟨still.trans (closeIn_shrinks s h₁ k).toStill, Eq.trans ?_ same⟩
      unfold closeIn
      split
      · rename_i here
        apply brokers_closeConsumer
        rw [linkOf, here, still.sessionLink, still.linked, cut]
      · rfl
    exact (both _).2

/-- Nobody on the way reaches the broker, so none is told. -/
theorem brokers_emptied {c : ConnectionId} {e : Error}
    (cut : h.linked (h.connection c).link = .error e) : (h.emptied c).brokers = h.brokers := by
  have marked : Still h (h.setConnection c { h.connection c with state := .closed }) :=
    .setConnection rfl
  have both : ∀ ss : List SessionId,
      Still h (ss.foldl (shutIn c) (h.setConnection c { h.connection c with state := .closed })) ∧
        (ss.foldl (shutIn c) (h.setConnection c { h.connection c with state := .closed })).brokers =
          h.brokers := by
    intro ss
    refine List.foldlRecOn (motive := fun h₁ => Still h h₁ ∧ h₁.brokers = h.brokers) ss _
      ⟨marked, rfl⟩ ?_
    rintro h₁ ⟨still, same⟩ s -
    unfold shutIn
    split
    · rename_i here
      refine ⟨still.trans (shutdownSession_still h₁ s), Eq.trans ?_ same⟩
      apply brokers_shutdownSession
      rw [sessionLink, here, still.link, still.linked, cut]
    · exact ⟨still, same⟩
  exact (both _).2

/-- A connection has closed with all that was made from it. -/
structure Folded (h : Hub L) (c : ConnectionId) : Prop where
  connection : h.Shut (.connection c)
  session : ∀ s, (h.session s).connection = c → h.Shut (.session s)
  producer : ∀ p, (h.session (h.producer p).session).connection = c → h.Shut (.producer p)
  consumer : ∀ k, (h.session (h.consumer k).session).connection = c → h.Shut (.consumer k)

theorem closeConnection_of_cut (grounded : Grounded h) {c : ConnectionId}
    (opened : (h.connection c).state ≠ .closed) {e : Error}
    (cut : h.linked (h.connection c).link = .error e) :
    ∃ x, h.closeConnection c = (.error e, x) ∧ x.brokers = h.brokers ∧
      x.deliveries = h.deliveries ∧ x.Folded c ∧ x.closeConnection c = (.ok (), x) := by
  obtain ⟨shrinks, sealed, shut⟩ := emptied_spec grounded.guarded.sealed c
  have retires := emptied_retires grounded.guarded.sealed opened
  have shifts : Shifts False h (h.emptied c) := emptied_shifts h c
  have produced := grounded.produced.shifts shifts
  have closes : h.closeConnection c = (.error e, h.emptied c) := by
    have cut' : (h.emptied c).linked (h.connection c).link = .error e :=
      (shrinks.toStill.linked _).trans cut
    rcases closeConnection_of_open opened with ⟨h', done, -⟩ | ⟨e', failed, same⟩
    · rw [closeLink, onLink, cut'] at done
      cases done
    · rw [closeLink, onLink, cut'] at failed
      cases failed
      exact same
  have closed : ∀ s, ((h.emptied c).session s).connection = c → (h.emptied c).Shut (.session s) := by
    intro s here
    exact shut s ((shrinks.connection s).symm.trans here)
  refine ⟨_, closes, brokers_emptied cut, shrinks.deliveries, ?_,
    closeConnection_of_closed retires.closed⟩
  exact {
    connection := retires.closed
    session := closed
    producer := fun p here => produced.shut (closed _ here)
    consumer := fun k here => sealed.shut (closed _ here) }

theorem linked_of_connectAs {f : Factory} {username : Option String} {c : ConnectionId}
    (done : f.connectAs h username = (.ok c, h'))
    (inside : (h'.connection c).link.directory < h.directories.length) :
    h'.linked (h'.connection c).link = .ok (h'.connection c).link.broker := by
  obtain ⟨d, url, x, opened, same⟩ := connectAs_ok done
  obtain ⟨rfl, -⟩ := openLink_ok opened
  have reached := linked_of_openLink inside opened
  rw [Hub.linked, lookup, findBroker, directory, same]
  exact reached

/-- No request through the link does anything any more, and closing a connection that has it reports
that, closes it all the same, and touches no broker. -/
structure CutOff (h : Hub L) (l : Link) : Prop where
  requests : ∀ r : LinkRequest L, ∃ e, h.via l r = (.error e, h) ∧ e.kind = .illegalState
  closing : ∀ c, (h.connection c).link = l → ¬ h.Shut (.connection c) →
    ∃ e x, h.closeConnection c = (.error e, x) ∧ e.kind = .illegalState ∧
      x.brokers = h.brokers ∧ x.deliveries = h.deliveries ∧ x.Folded c ∧
      x.closeConnection c = (.ok (), x)

theorem Lost.cutOff (lost : h.Lost l) (grounded : Grounded h) : h.CutOff l := by
  obtain ⟨e, cut, kind⟩ := lost.linked
  refine ⟨fun r => ⟨e, via_refused cut r, kind⟩, ?_⟩
  rintro c rfl opened
  obtain ⟨x, closes, rest⟩ := closeConnection_of_cut grounded opened cut
  exact ⟨e, x, closes, kind, rest⟩

/-- A link that is opened, by hand or for a connection, leads to its broker. It goes on leading to that
very broker until the broker is taken out of its directory, and from then on it is cut off, whatever
is put there under the same name. -/
theorem brokers_keep_identity (before : List (Dealing L)) :
    (∀ d url username l x, d < (dealt before).directories.length →
      (dealt before).openLink d url username = .ok (l, x) →
      dealt (before ++ [.link d url username]) = x ∧ x.linked l = .ok l.broker) ∧
    (∀ (f : Factory) username c x, f.connectAs (dealt before) username = (.ok c, x) →
      (x.connection c).link.directory < (dealt before).directories.length →
      dealt (before ++ [.move (.event (.request (.connect f username)))]) = x ∧
        x.linked (x.connection c).link = .ok (x.connection c).link.broker) ∧
    ∀ l b, (dealt before).linked l = .ok b → ∀ later,
      ((∀ dealing ∈ later, dealing.removal? ≠ some (l.directory, l.brokerName)) →
        ((dealt before).deals later).linked l = .ok b) ∧
      ((∃ dealing ∈ later, dealing.removal? = some (l.directory, l.brokerName)) →
        ((dealt before).deals later).CutOff l) := by
  have grounded : Grounded (dealt before) := Grounded.initial.deals before
  refine ⟨?_, ?_, ?_⟩
  · intro d url username l x inside opened
    rw [dealt_append_singleton, deal, opened]
    exact ⟨rfl, linked_of_openLink inside opened⟩
  · intro f username c x done inside
    refine ⟨?_, linked_of_connectAs done inside⟩
    rw [dealt_append_singleton]
    exact congrArg Prod.snd done
  · intro l b reached later
    refine ⟨linked_deals reached, fun removed => ?_⟩
    exact (lost_deals grounded reached removed).cutOff (grounded.deals later)

/-- A broker is removed, and another one takes its name. -/
def sampleReplaced : List (Dealing Nat) :=
  [.move (.event (.request .addRegistry)), .move (.event (.request .addDirectory)),
    .move (.event (.request (.registerProvider 0 0))),
    .move (.event (.request (.connect { registry := 0, url := "vm://main" } none))),
    .move (.event (.request (.createSession 0 false .autoAcknowledge))),
    .move (.event (.request (.removeBroker 0 "main"))),
    .move (.event (.request (.connect { registry := 0, url := "vm://main" } none)))]

example :
    (dealt sampleReplaced).linked ((dealt sampleReplaced).connection 0).link =
      .error (.brokerReplaced "main") ∧
    (dealt sampleReplaced).linked ((dealt sampleReplaced).connection 1).link = .ok 1 ∧
    (((dealt sampleReplaced).closeConnection 0).2.session 0).isOpen = false := by
  decide +kernel

end Courier.Hub
