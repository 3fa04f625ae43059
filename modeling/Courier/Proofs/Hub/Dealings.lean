import Courier.Proofs.Hub.Cascade
import Courier.Proofs.Hub.Silence

/-!
# Dealings

Besides the moves of applications and listeners, links are opened and used by hand. What directories
list changes in two ways only: a broker that is made is entered, and one that is removed is taken out.
A number is never given to two brokers, so what is newly listed is a broker nobody knew before.
-/

namespace Courier

set_option autoImplicit false

/-- What can be asked for through a link. -/
inductive LinkRequest (L : Type)
  | close
  | createSession
  | createDestination (name : String) (kind : DestinationKind)
  | createTemporary (kind : DestinationKind)
  | deleteTemporary (d : Destination)
  | register (d : Destination) (id : String) (listener : L)
  | unregister (d : Destination) (id : String)
  | send (d : Destination) (m : Message)
  | claim (id : String)
  | release (id : String)

inductive Dealing (L : Type)
  | move (m : Move L)
  | link (d : DirectoryId) (url : Url) (username : Option String)
  | via (l : Link) (r : LinkRequest L)

/-- What a dealing takes out of which directory. -/
def Dealing.removal? {L : Type} : Dealing L → Option (DirectoryId × String)
  | .move m => m.removal?
  | _ => none

namespace Hub

variable {L : Type} {h h' h'' : Hub L} {l : Link} {b : BrokerId}

/-- How a request through a link ends, and the hub after it. -/
def via (h : Hub L) (l : Link) : LinkRequest L → Except Error Unit × Hub L
  | .close => h.adoptHub (h.closeLink l)
  | .createSession => ((h.linked l).map fun _ => (), h)
  | .createDestination name kind => h.adopt (h.createDestination l name kind)
  | .createTemporary kind => h.adopt (h.createTemporary l kind)
  | .deleteTemporary d => h.adoptHub (h.deleteTemporary l d)
  | .register d id listener => h.adoptHub (h.register l d id (.listener listener))
  | .unregister d id => h.adoptHub (h.unregister l d id)
  | .send d m => h.adopt (h.publishVia l d m)
  | .claim id => h.adoptHub (h.claim l id)
  | .release id => h.adoptHub (h.release l id)

def deal (h : Hub L) : Dealing L → Hub L
  | .move m => h.step m
  | .link d url username => (h.adopt (h.openLink d url username)).2
  | .via l r => (h.via l r).2

def deals (h : Hub L) (dealings : List (Dealing L)) : Hub L := dealings.foldl deal h

/-- The hub after dealings from the first one. -/
def dealt (dealings : List (Dealing L)) : Hub L := ({} : Hub L).deals dealings

theorem dealt_append_singleton (dealings : List (Dealing L)) (dealing : Dealing L) :
    dealt (dealings ++ [dealing]) = (dealt dealings).deal dealing := List.foldl_append

theorem openLink_ok {d : DirectoryId} {url : Url} {username : Option String}
    (done : h.openLink d url username = .ok (l, h')) :
    l.directory = d ∧ l.broker = (h.getOrCreate d l.brokerName).1 ∧
      h' = (h.getOrCreate d l.brokerName).2.mint.2 := by
  unfold openLink at done
  split at done
  · cases done
  · cases done
    exact ⟨rfl, rfl, rfl⟩

theorem via_shifts (h : Hub L) (l : Link) (r : LinkRequest L) : Shifts True h (h.via l r).2 := by
  cases r with
  | close | deleteTemporary | register | unregister | claim | release =>
    exact adoptHub_of (.refl h) fun _ done => onLink_shifts done
  | createSession => exact .refl h
  | createDestination name kind =>
    refine adopt_of (.refl h) fun _ _ done => ?_
    obtain ⟨b, -, done⟩ := ok_of_bind done
    exact createDestinationOn_shifts done
  | createTemporary kind =>
    refine adopt_of (.refl h) fun _ _ done => ?_
    obtain ⟨b, -, done⟩ := ok_of_bind done
    cases done
    exact createTemporaryOn_shifts h b kind l.owner
  | send d m =>
    refine adopt_of (.refl h) fun _ _ done => ?_
    obtain ⟨b, -, done⟩ := ok_of_bind done
    exact publish_shifts done

theorem deal_shifts (h : Hub L) {dealing : Dealing L} (kept : dealing.removal? = none) :
    Shifts True h (h.deal dealing) := by
  cases dealing with
  | move m => exact step_shifts h kept
  | link d url username =>
    refine adopt_of (.refl h) fun l h' done => ?_
    obtain ⟨-, -, rfl⟩ := openLink_ok done
    exact (Shifts.single (.enlist d l.brokerName)).trans (.mint _)
  | via l r => exact via_shifts h l r

theorem deal_of_removal {dealing : Dealing L} {d : DirectoryId} {name : String}
    (removal : dealing.removal? = some (d, name)) : h.deal dealing = (h.removeBroker d name).2 := by
  cases dealing with
  | move m => exact step_of_removal removal
  | link | via => cases removal

/-! What directories list. -/

/-- What was listed still is, and what is newly listed is new altogether. -/
structure Enlists (h h' : Hub L) : Prop where
  brokers : h.brokers.length ≤ h'.brokers.length
  kept : ∀ {d name b}, h.findBroker d name = some b → h'.findBroker d name = some b
  origin : ∀ {d name b}, h'.findBroker d name = some b →
    h.findBroker d name = some b ∨ h.brokers.length ≤ b ∧ b < h'.brokers.length

namespace Enlists

theorem of_found (brokers : h.brokers.length ≤ h'.brokers.length)
    (found : ∀ d name, h'.findBroker d name = h.findBroker d name) : Enlists h h' where
  brokers := brokers
  kept here := (found _ _).trans here
  origin here := .inl ((found _ _).symm.trans here)

theorem refl (h : Hub L) : Enlists h h := of_found (Nat.le_refl _) fun _ _ => rfl

theorem trans (first : Enlists h h') (second : Enlists h' h'') : Enlists h h'' where
  brokers := Nat.le_trans first.brokers second.brokers
  kept here := second.kept (first.kept here)
  origin here := by
    rcases second.origin here with here | ⟨lower, upper⟩
    · exact (first.origin here).imp_right fun bounds =>
        ⟨bounds.1, Nat.lt_of_lt_of_le bounds.2 second.brokers⟩
    · exact .inr ⟨Nat.le_trans first.brokers lower, upper⟩

theorem getOrCreate (h : Hub L) (d : DirectoryId) (name : String) :
    Enlists h (h.getOrCreate d name).2 := by
  unfold Hub.getOrCreate
  split
  · exact .refl h
  rename_i fresh
  constructor
  case brokers => simp [Hub.addBroker, setDirectory]
  case kept =>
    intro d' name' b here
    rw [findBroker_setDirectory]
    split
    · rename_i same
      have other : name' ≠ name := by
        rintro rfl
        rw [same.1, findBroker, fresh] at here
        cases here
      rw [Table.get?_insert_of_ne _ other]
      rwa [same.1] at here
    · exact here
  case origin =>
    intro d' name' b here
    rw [findBroker_setDirectory] at here
    split at here
    · rename_i same
      rw [Table.get?_insert] at here
      split at here
      · cases here
        exact .inr ⟨Nat.le_refl _, by simp [Hub.addBroker, setDirectory]⟩
      · rw [same.1]
        exact .inl here
    · exact .inl here

end Enlists

theorem Shift.enlists {making : Prop} (shift : Shift making h h') : Enlists h h' := by
  cases shift with
  | aside brokers directories =>
    exact .of_found brokers fun d name => by simp only [findBroker, directory, directories]
  | addDirectory => exact .of_found (Nat.le_refl _) (Frame.addDirectory h).found
  | enlist d name => exact .getOrCreate h d name
  | _ => exact .of_found (Nat.le_refl _) fun _ _ => rfl

theorem Shifts.enlists {making : Prop} (shifts : Shifts making h h') : Enlists h h' := by
  induction shifts with
  | refl => exact .refl h
  | tail _ shift ih => exact ih.trans shift.enlists

/-- Whatever is listed has been made. -/
def Listed (h : Hub L) : Prop := ∀ {d name b}, h.findBroker d name = some b → b < h.brokers.length

theorem Enlists.listed (enlists : Enlists h h') (listed : Listed h) : Listed h' := by
  intro d name b here
  rcases enlists.origin here with here | ⟨-, upper⟩
  · exact Nat.lt_of_lt_of_le (listed here) enlists.brokers
  · exact upper

theorem directory_lt_of_found {d : DirectoryId} {name : String}
    (here : h.findBroker d name = some b) : d < h.directories.length := by
  by_contra beyond
  rw [findBroker, directory, List.getD_eq_getElem?_getD,
    List.getElem?_eq_none (Nat.le_of_not_lt beyond)] at here
  cases here

/-- A removal takes one name out of one directory. -/
theorem findBroker_removeBroker {d dir : DirectoryId} {name name' : String} :
    (h.removeBroker d name).2.findBroker dir name' = some b ↔
      h.findBroker dir name' = some b ∧ (dir, name') ≠ (d, name) := by
  refine (Eq.congr_left (findBroker_setDirectory ..)).trans ?_
  split
  · rename_i here
    obtain ⟨rfl, -⟩ := here
    rw [Table.get?_erase]
    split
    · rename_i same
      simp [same]
    · rename_i other
      simp [findBroker, other]
  · rename_i elsewhere
    refine (and_iff_left_of_imp fun here => ?_).symm
    rintro ⟨⟩
    exact elsewhere ⟨rfl, directory_lt_of_found here⟩

/-! What holds after all dealings. -/

/-- Brokers that are listed have been made, and whatever is open belongs to something open. -/
structure Grounded (h : Hub L) : Prop where
  listed : Listed h
  guarded : Guarded h
  produced : Produced h

theorem Guarded.deal (guarded : Guarded h) (dealing : Dealing L) : Guarded (h.deal dealing) := by
  cases dealing with
  | move m => exact guarded.step m
  | link d url username =>
    refine adopt_of guarded fun l h' done => ?_
    obtain ⟨-, -, rfl⟩ := openLink_ok done
    exact (guarded.steady (getOrCreate_steady h d l.brokerName)).steady (mint_idle _).steady
  | via l r =>
    cases r with
    | close | deleteTemporary | register | unregister | claim | release =>
      exact adoptHub_of guarded fun _ done => guarded.steady (onLink_steady done)
    | createSession => exact guarded
    | createDestination name kind =>
      refine adopt_of guarded fun _ _ done => ?_
      obtain ⟨b, -, done⟩ := ok_of_bind done
      exact guarded.steady (createDestinationOn_steady done)
    | createTemporary kind =>
      refine adopt_of guarded fun _ _ done => ?_
      obtain ⟨b, -, done⟩ := ok_of_bind done
      cases done
      exact guarded.steady (createTemporaryOn_steady h b kind l.owner)
    | send d m =>
      refine adopt_of guarded fun _ _ done => ?_
      obtain ⟨b, -, done⟩ := ok_of_bind done
      exact guarded.steady (publish_steady done)

namespace Grounded

theorem initial : Grounded ({} : Hub L) where
  listed here := by cases here
  guarded := .initial
  produced := .initial

theorem deal (grounded : Grounded h) (dealing : Dealing L) : Grounded (h.deal dealing) := by
  have guarded := grounded.guarded.deal dealing
  cases removal : dealing.removal? with
  | none =>
    have shifts := deal_shifts h removal
    exact ⟨shifts.enlists.listed grounded.listed, guarded, grounded.produced.shifts shifts⟩
  | some removed =>
    obtain ⟨d, name⟩ := removed
    rw [deal_of_removal removal] at guarded ⊢
    refine ⟨?_, guarded, grounded.produced⟩
    exact fun here => grounded.listed (findBroker_removeBroker.mp here).1

theorem deals (grounded : Grounded h) (dealings : List (Dealing L)) :
    Grounded (h.deals dealings) := by
  induction dealings generalizing h with
  | nil => exact grounded
  | cons dealing dealings ih => exact ih (grounded.deal dealing)

end Grounded

end Hub

end Courier
