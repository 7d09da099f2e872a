import Mathlib.Logic.Function.Basic
import Lumiere.Base.Run
import Lumiere.Library.Device

/-!
# Several devices on one account

The system of the two lists: devices signed in to one account, the database, and the document IDs
that are in use. A step is a touch on one device, the delivery of a snapshot to one of its two
listeners, the arrival of the oldest write of a device at the database, or a launch. Writes of one
device arrive in the order it has made them, at any later time; the device lives on meanwhile, and
its writes outlive the process.

A snapshot is any set of documents each of which the database has held at some time or the device
itself has written (`Deliverable`). This covers late snapshots, documents of the local cache, and
the latency compensation of the client, which shows a device its own writes before they arrive.
-/

namespace Lumiere
open Firestore
open DocumentStore (History)

/-- A document that the database has held or that is among the writes `sent`. -/
def Seen (h : History String Fields) (sent : List Sent) (p : List String) (data : Fields) : Prop :=
  h.Held p data ∨ ∃ x ∈ sent, x.write = .setData p data

instance (h : History String Fields) (sent : List Sent) (p : List String) (data : Fields) :
    Decidable (Seen h sent p data) :=
  inferInstanceAs (Decidable (_ ∨ _))

/-- The account, its database, and the devices that are signed in to it. -/
structure World (ι : Type*) where
  account : Account
  firestore : History String Fields
  /-- The document IDs in use: `document()` returns another one. -/
  docIDs : List String
  devices : ι → Device

namespace World

variable {ι : Type*} [DecidableEq ι]

/-- What can happen on a device `d`, and the arrival of its oldest write at the database. -/
inductive Event (ι : Type*) where
  | touch (d : ι) (k : Touch)
  | watchedSnapshot (d : ι) (view : Store)
  | wishlistSnapshot (d : ι) (view : Store)
  | reach (d : ι)
  | launch (d : ι) (now : Date)

/-- The world after a change of one device. -/
def set (w : World ι) (d : ι) (dev : Device) : World ι :=
  { w with devices := Function.update w.devices d dev }

/-- The world after a change of what one device shows. -/
def setTabs (w : World ι) (d : ι) (t : Tabs) : World ι :=
  w.set d { w.devices d with tabs := t }

/-- The world after a trap on one device. -/
def trapped (w : World ι) (d : ι) (trap : Trap) : World ι :=
  w.set d { w.devices d with trap := some trap }

/-- The world after the reaction `r` to a touch on one device. -/
def react (w : World ι) (d : ι) (k : Touch) (r : Reaction) : World ι :=
  { w.set d ((w.devices d).react k r) with
    docIDs := if r.write.isSome then k.docID.toList ++ w.docIDs else w.docIDs }

/-- The world after the next write `x` of one device has reached the database. -/
def arrived (w : World ι) (d : ι) (x : Sent) : World ι :=
  { w.set d { w.devices d with reached := (w.devices d).reached + 1 } with
    firestore := w.firestore.write x.write }

/-- `document()` returns an ID that is not in use. -/
def Unused (w : World ι) (k : Touch) : Prop :=
  ∀ id ∈ k.docID, id ∉ w.docIDs

omit [DecidableEq ι] in
instance (w : World ι) (k : Touch) : Decidable (w.Unused k) :=
  inferInstanceAs (Decidable (∀ id ∈ k.docID, id ∉ w.docIDs))

/-- Every document of the view has been in the database or has been written by the device. -/
def Deliverable (w : World ι) (d : ι) (view : Store) : Prop :=
  ∀ e ∈ view.entries, Seen w.firestore (w.devices d).sent e.1 e.2

instance (w : World ι) (d : ι) (view : Store) : Decidable (w.Deliverable d view) :=
  inferInstanceAs (Decidable (∀ e ∈ view.entries, _))

/-- The oldest write of a device that has not reached the database. -/
def next (w : World ι) (d : ι) : Option Sent :=
  (w.devices d).sent[(w.devices d).reached]?

/-- One event: `none` where it cannot happen. -/
def step (w : World ι) : Event ι → Option (World ι)
  | .touch d k =>
    if (w.devices d).trap = none ∧ w.Unused k then
      match (w.devices d).tabs.touch (some w.account.email) k with
      | none => none
      | some (.error trap) => some (w.trapped d trap)
      | some (.ok r) => some (w.react d k r)
    else none
  | .watchedSnapshot d view =>
    if (w.devices d).trap = none ∧ w.Deliverable d view then
      match watchedListener ((watchedQuery w.account.watchedList).run view) with
      | .error trap => some (w.trapped d trap)
      | .ok callback =>
        some (w.setTabs d { (w.devices d).tabs with watchedList := callback.watchedList })
    else none
  | .wishlistSnapshot d view =>
    if (w.devices d).trap = none ∧ w.Deliverable d view then
      match wishlistListener ((wishlistQuery w.account.wishlist).run view) with
      | .error trap => some (w.trapped d trap)
      | .ok wishlist => some (w.setTabs d { (w.devices d).tabs with wishlist := wishlist })
    else none
  | .reach d => (w.next d).map (w.arrived d)
  | .launch d now =>
    some (w.set d { w.devices d with tabs := Tabs.viewDidLoad (Watched.init now), trap := none })

/-! ## Inversion -/

/-- What a step can do. -/
inductive Stepped (w : World ι) : Event ι → World ι → Prop where
  | touchTrapped {d k trap} :
    (w.devices d).tabs.touch (some w.account.email) k = some (.error trap) →
    Stepped w (.touch d k) (w.trapped d trap)
  | touch {d k r} :
    (w.devices d).trap = none →
    w.Unused k →
    Touched (some w.account.email) (w.devices d).tabs k r →
    Stepped w (.touch d k) (w.react d k r)
  | watchedTrapped {d view trap} :
    Stepped w (.watchedSnapshot d view) (w.trapped d trap)
  | watchedSnapshot {d view callback} :
    w.Deliverable d view →
    watchedListener ((watchedQuery w.account.watchedList).run view) = .ok callback →
    Stepped w (.watchedSnapshot d view)
      (w.setTabs d { (w.devices d).tabs with watchedList := callback.watchedList })
  | wishlistTrapped {d view trap} :
    Stepped w (.wishlistSnapshot d view) (w.trapped d trap)
  | wishlistSnapshot {d view wishlist} :
    w.Deliverable d view →
    wishlistListener ((wishlistQuery w.account.wishlist).run view) = .ok wishlist →
    Stepped w (.wishlistSnapshot d view)
      (w.setTabs d { (w.devices d).tabs with wishlist := wishlist })
  | reach {d x} :
    w.next d = some x →
    Stepped w (.reach d) (w.arrived d x)
  | launch {d now} :
    Stepped w (.launch d now)
      (w.set d { w.devices d with tabs := Tabs.viewDidLoad (Watched.init now), trap := none })

/-- Every step is one of those listed. -/
lemma step_inv {w w' : World ι} {e} (st : w.step e = some w') : Stepped w e w' := by
  cases e with
  | touch d k =>
    rw [step] at st
    split at st
    case isFalse => cases st
    case isTrue h =>
      split at st
      case h_1 => cases st
      case h_2 et => cases st; exact .touchTrapped et
      case h_3 r er => cases st; exact .touch h.1 h.2 (Tabs.touch_inv er)
  | watchedSnapshot d view =>
    rw [step] at st
    split at st
    case isFalse => cases st
    case isTrue h =>
      split at st
      case h_1 => cases st; exact .watchedTrapped
      case h_2 callback ec => cases st; exact .watchedSnapshot h.2 ec
  | wishlistSnapshot d view =>
    rw [step] at st
    split at st
    case isFalse => cases st
    case isTrue h =>
      split at st
      case h_1 => cases st; exact .wishlistTrapped
      case h_2 wishlist ew => cases st; exact .wishlistSnapshot h.2 ew
  | reach d =>
    obtain ⟨x, ex, rfl⟩ := Option.map_eq_some_iff.1 st
    exact .reach ex
  | launch d now => cases st; exact .launch

/-! ## The start and the parts of the state -/

/-- The tab screens have just been loaded; `Utilities.selected` may be left from another session. -/
structure Launched (dev : Device) : Prop where
  tabs : dev.tabs = Tabs.viewDidLoad dev.tabs.selected
  trap : dev.trap = none
  sent : dev.sent = []
  reached : dev.reached = 0

/-- A new account on devices that have just been launched. -/
def empty (a : Account) : World ι where
  account := a
  firestore := ⟨[], ∅⟩
  docIDs := []
  devices := fun _ => ⟨Tabs.viewDidLoad (Watched.init 0), none, [], 0⟩

omit [DecidableEq ι] in
/-- The devices of a new account have just been launched. -/
lemma empty_launched {a d} : Launched ((empty a : World ι).devices d) :=
  ⟨rfl, rfl, rfl, rfl⟩

/-- The device that has been changed. -/
@[simp] lemma set_self {w : World ι} {d dev} : (w.set d dev).devices d = dev := by
  simp [set]

/-- The other devices. -/
lemma set_ne {w : World ι} {d d' dev} (ne : d' ≠ d) : (w.set d dev).devices d' = w.devices d' := by
  simp [set, ne]

/-- No step changes the account. -/
lemma Stepped.account {w w' : World ι} {e} (st : Stepped w e w') : w'.account = w.account := by
  cases st <;> rfl

/-- Nor does a run. -/
lemma run_account {w w' : World ι} {es} (rn : Transition.Run (Transition.Fires step) w es w') :
    w'.account = w.account :=
  rn.invariant (P := fun u => u.account = w.account) (fun st e => (step_inv st).account.trans e) rfl

/-- Of what a device shows, a step changes the form and the selected film only by a touch of that
    device or by its launch. -/
lemma Stepped.tabs {w w' : World ι} {e} (st : Stepped w e w') (d : ι) :
    (∃ k r, e = .touch d k ∧ Touched (some w.account.email) (w.devices d).tabs k r ∧
      w' = w.react d k r) ∨
    (∃ now, e = .launch d now ∧ (w'.devices d).tabs = Tabs.viewDidLoad (Watched.init now) ∧
      (w'.devices d).sent = (w.devices d).sent) ∨
    ((w'.devices d).tabs.form = (w.devices d).tabs.form ∧
      (w'.devices d).tabs.selected = (w.devices d).tabs.selected ∧
      (w'.devices d).sent = (w.devices d).sent ∧
      ∀ k, e = .touch d k → (w.devices d).tabs.form = none ∨ k.Commits) := by
  cases st with
  | @touch d' k r _ _ tc =>
    by_cases h : d = d'
    case pos =>
      subst h
      exact .inl ⟨k, r, rfl, tc, rfl⟩
    case neg =>
      refine .inr (.inr ?_)
      change ((w.set d' _).devices d).tabs.form = _ ∧ ((w.set d' _).devices d).tabs.selected = _ ∧
        ((w.set d' _).devices d).sent = _ ∧ _
      rw [set_ne h]
      refine ⟨rfl, rfl, rfl, ?_⟩
      intro k' e
      cases e
      exact absurd rfl h
  | @launch d' now =>
    by_cases h : d = d'
    case pos =>
      subst h
      refine .inr (.inl ⟨now, rfl, ?_⟩)
      rw [set_self]
      exact ⟨rfl, rfl⟩
    case neg =>
      refine .inr (.inr ?_)
      rw [set_ne h]
      exact ⟨rfl, rfl, rfl, fun k e => by cases e⟩
  | @touchTrapped d' k trap et =>
    refine .inr (.inr ?_)
    change ((w.set d' _).devices d).tabs.form = _ ∧ ((w.set d' _).devices d).tabs.selected = _ ∧
      ((w.set d' _).devices d).sent = _ ∧ _
    by_cases h : d = d'
    case pos =>
      subst h
      rw [set_self]
      refine ⟨rfl, rfl, rfl, ?_⟩
      intro k' e
      cases e
      exact Tabs.touch_error_inv et
    case neg =>
      rw [set_ne h]
      refine ⟨rfl, rfl, rfl, ?_⟩
      intro k' e
      cases e
      exact absurd rfl h
  | watchedTrapped | watchedSnapshot | wishlistTrapped | wishlistSnapshot | reach =>
    refine .inr (.inr ?_)
    simp only [World.trapped, setTabs, arrived, set]
    rw [Function.update_apply]
    split
    case isTrue h => subst h; exact ⟨rfl, rfl, rfl, fun k e => by cases e⟩
    case isFalse => exact ⟨rfl, rfl, rfl, fun k e => by cases e⟩

end World

end Lumiere
