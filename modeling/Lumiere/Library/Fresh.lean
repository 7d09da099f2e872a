import Lumiere.Library.Sound

/-!
# New documents get new IDs

`Fresh` is the invariant of the document IDs: every ID a list document has stood under is in use,
two creating writes never carry the same ID, and under the ID of a creating write that has not
arrived no document has stood yet. The last part rests on the order of one device's writes: a device
can only edit what it has read, so an edit that arrives finds its path used before
(`Fresh.next_cases`), and never takes the place of a document still to be created.
-/

namespace Lumiere
open Firestore
open DocumentStore (History)

/-- The collections in which `document()` makes new documents. -/
def Account.listed (a : Account) (p : List String) (id : String) : Prop :=
  p = a.watchedList.path ++ [id] ∨ p = a.wishlist.path ++ [id]

/-- The path of a listed document tells its ID. -/
lemma Account.listed_inj {a : Account} {p id id'} (h : a.listed p id) (h' : a.listed p id') :
    id = id' := by
  rcases h with e | e <;> rcases h' with e' | e' <;>
  · rw [e] at e'
    exact List.singleton_inj.1 (List.append_inj' e' rfl).2

/-- A write whose handler has called `document()` creates the document of that ID. -/
lemma Made.creates {a : Account} {x : Sent} {id} (mk : Made a x) (e : x.touch.docID = some id) :
    ∃ p data, x.write = .setData p data ∧ a.listed p id := by
  cases mk with
  | addWatched => cases e; exact ⟨_, _, rfl, .inl rfl⟩
  | addWish => cases e; exact ⟨_, _, rfl, .inr rfl⟩
  | deleteWatched | deleteWish | editWatched => cases e

/-- The writes of a device after a touch, by position. -/
lemma Device.getElem?_react {dev : Device} {k r i x} (e : (dev.react k r).sent[i]? = some x) :
    dev.sent[i]? = some x ∨
      i = dev.sent.length ∧ ∃ w, r.write = some w ∧ x = ⟨dev.tabs, k, w⟩ := by
  change (dev.sent ++ _)[i]? = _ at e
  rw [List.getElem?_append] at e
  split at e
  case isTrue => exact .inl e
  case isFalse h =>
    cases wr : r.write with
    | none => simp [wr] at e
    | some w =>
      rw [wr, Option.toList_some, List.map_cons, List.map_nil, List.getElem?_singleton] at e
      split at e
      case isFalse => cases e
      case isTrue h' =>
        cases e
        exact .inr ⟨by omega, w, rfl, rfl⟩

namespace World

variable {ι : Type*} [DecidableEq ι]

/-- A device after the touch of one of the devices. -/
lemma getElem?_react {w : World ι} {d d' : ι} {k r i x}
    (e : ((w.react d k r).devices d').sent[i]? = some x) :
    (w.devices d').sent[i]? = some x ∨
      d' = d ∧ i = (w.devices d).sent.length ∧
        ∃ wr, r.write = some wr ∧ x = ⟨(w.devices d).tabs, k, wr⟩ := by
  change ((w.set d _).devices d').sent[i]? = _ at e
  by_cases h : d' = d
  case neg => rw [set_ne h] at e; exact .inl e
  case pos =>
    subst h
    rw [set_self] at e
    rcases Device.getElem?_react e with e | new
    · exact .inl e
    · exact .inr ⟨rfl, new⟩

/-- A touch sends nothing to the store by itself. -/
lemma reached_react {w : World ι} {d d' : ι} {k r} :
    ((w.react d k r).devices d').reached = (w.devices d').reached := by
  change ((w.set d _).devices d').reached = _
  by_cases h : d' = d
  case neg => rw [set_ne h]
  case pos => subst h; rw [set_self]; rfl

/-- An arrival makes no write. -/
lemma sent_arrived {w : World ι} {d d' : ι} {x} :
    ((w.arrived d x).devices d').sent = (w.devices d').sent := by
  change ((w.set d _).devices d').sent = _
  by_cases h : d' = d
  case neg => rw [set_ne h]
  case pos => subst h; rw [set_self]

/-- An arrival is one more write that has reached the store. -/
lemma reached_arrived {w : World ι} {d d' : ι} {x} :
    ((w.arrived d x).devices d').reached =
      if d' = d then (w.devices d).reached + 1 else (w.devices d').reached := by
  change ((w.set d _).devices d').reached = _
  split
  case isTrue h => subst h; rw [set_self]
  case isFalse h => rw [set_ne h]

/-- No ID is given to two documents. -/
structure Fresh (w : World ι) : Prop where
  /-- The ID of every list document there has been is in use. -/
  held : ∀ p id data, w.account.listed p id → w.firestore.Held p data → id ∈ w.docIDs
  /-- So is the ID of every document a device creates. -/
  created : ∀ d (i : Nat) (x : Sent) id, (w.devices d).sent[i]? = some x →
    x.touch.docID = some id → id ∈ w.docIDs
  distinct : ∀ d (i : Nat) (x : Sent) d' (i' : Nat) (x' : Sent) id,
    (w.devices d).sent[i]? = some x → x.touch.docID = some id →
    (w.devices d').sent[i']? = some x' → x'.touch.docID = some id → d = d' ∧ i = i'
  /-- A document that is still to be created has never stood there. -/
  pending : ∀ d (i : Nat) (x : Sent) id, (w.devices d).sent[i]? = some x → x.touch.docID = some id →
    (w.devices d).reached ≤ i → ∀ data, ¬ w.firestore.Held x.write.path data
  /-- A document that has arrived has stood there. -/
  reached : ∀ d (i : Nat) (x : Sent), (w.devices d).sent[i]? = some x → i < (w.devices d).reached →
    ∀ p data, x.write = .setData p data → w.firestore.Held p data
  le : ∀ d, (w.devices d).reached ≤ (w.devices d).sent.length

namespace Fresh

variable {w w' : World ι}

omit [DecidableEq ι] in
/-- What a device knew when its first `n` writes were made has stood in the database once these
    writes have arrived. -/
lemma held_of_known (f : Fresh w) {d l1 l2 film} (e : (w.devices d).sent = l1 ++ l2)
    (all : l1.length ≤ (w.devices d).reached) (known : Known w.account w.firestore l1 film) :
    ∃ data, w.firestore.Held (w.account.watchedList.path ++ [film.id]) data := by
  obtain ⟨data, seen, _⟩ := known
  rcases seen with held | ⟨x, mem, ex⟩
  · exact ⟨data, held⟩
  · obtain ⟨i, lt, ei⟩ := List.getElem_of_mem mem
    have at_i : (w.devices d).sent[i]? = some x := by
      rw [e, List.getElem?_append_left lt, List.getElem?_eq_getElem lt, ei]
    exact ⟨data, f.reached d i x at_i (lt.trans_le all) _ _ ex⟩

end Fresh

omit [DecidableEq ι] in
/-- The writes before the next one of a device are those that have arrived. -/
lemma next_split {w : World ι} {d x} (e : w.next d = some x) :
    ∃ l1 l2, (w.devices d).sent = l1 ++ x :: l2 ∧ l1.length = (w.devices d).reached := by
  obtain ⟨lt, ex⟩ := List.getElem?_eq_some_iff.1 e
  refine ⟨(w.devices d).sent.take (w.devices d).reached,
    (w.devices d).sent.drop ((w.devices d).reached + 1), ?_, ?_⟩
  · rw [← ex, List.cons_getElem_drop_succ, List.take_append_drop]
  · exact List.length_take_of_le lt.le

omit [DecidableEq ι] in
/-- The write of an edit goes to the document of the film that was selected. -/
lemma Sound.edit_inv {w : World ι} (s : Sound w) {d l1 x l2}
    (e : (w.devices d).sent = l1 ++ x :: l2) (edit : x.touch = .editWatchedButtonTapped) :
    ∃ c, x.tabs.form = some (.editWatched c) ∧
      x.write = .setData (w.account.watchedList.path ++ [x.tabs.selected.id])
        (c.fields x.tabs.selected.id) ∧
      Known w.account w.firestore l1 x.tabs.selected := by
  have ds := s.devices d
  have mem : x ∈ (w.devices d).sent := e ▸ List.mem_append_right _ List.mem_cons_self
  have known := ds.sentFilms l1 x l2 e
  cases ds.made x mem with
  | @editWatched t c sub form valid es =>
    have selected : Known w.account w.firestore l1 t.selected := by
      apply known
      rw [Tabs.films, form]
      exact List.mem_cons_self
    have seg := ds.segment s.held (e ▸ selected.append (_ :: l2))
    rw [seg.fromStringView] at es
    cases es
    exact ⟨c, form, rfl, selected⟩
  | deleteWatched | deleteWish | addWatched | addWish => cases edit

omit [DecidableEq ι] in
/-- The deletion of a watched film goes to the document of a film of the list. -/
lemma Sound.delete_inv {w : World ι} (s : Sound w) {d l1 x l2 id}
    (e : (w.devices d).sent = l1 ++ x :: l2)
    (del : x.write = .delete (w.account.watchedList.path ++ [id])) :
    ∃ film, film.id = id ∧ Known w.account w.firestore l1 film := by
  have ds := s.devices d
  have mem : x ∈ (w.devices d).sent := e ▸ List.mem_append_right _ List.mem_cons_self
  have known := ds.sentFilms l1 x l2 e
  cases ds.made x mem with
  | @deleteWatched t row film sub listed es =>
    have read : Known w.account w.firestore l1 film := by
      apply known
      rw [Tabs.films]
      split
      · exact List.mem_cons_of_mem _ listed
      · exact listed
    have seg := ds.segment s.held (e ▸ read.append (_ :: l2))
    rw [seg.fromStringView] at es
    cases es
    simp only [DocumentStore.Write.delete.injEq, List.append_cancel_left_eq,
      List.cons.injEq, and_true] at del
    exact ⟨film, del, read⟩
  | deleteWish =>
    simp only [DocumentStore.Write.delete.injEq] at del
    exact absurd del.symm Account.watchedList_ne_wishlist
  | addWatched | editWatched | addWish => cases del

namespace Fresh

variable {w w' : World ι}

omit [DecidableEq ι] in
/-- The next write of a device to set a document either creates the document of its new ID or
    edits one that has stood in the database. -/
lemma next_cases (f : Fresh w) (s : Sound w) {d x p data} (e : w.next d = some x)
    (wr : x.write = .setData p data) :
    (∃ id, x.touch.docID = some id ∧ w.account.listed p id) ∨
      (x.touch = .editWatchedButtonTapped ∧
        p = w.account.watchedList.path ++ [x.tabs.selected.id] ∧
        ∃ data', w.firestore.Held p data') := by
  obtain ⟨l1, l2, el, len⟩ := next_split e
  have mem : x ∈ (w.devices d).sent := List.mem_of_getElem? e
  have mk := (s.devices d).made x mem
  cases id : x.touch.docID with
  | some id =>
    obtain ⟨p', data', wr', listed⟩ := mk.creates id
    rw [wr] at wr'
    cases wr'
    exact .inl ⟨_, rfl, listed⟩
  | none =>
    have edit : x.touch = .editWatchedButtonTapped := by
      cases mk with
      | editWatched => rfl
      | addWatched | addWish => cases id
      | deleteWatched | deleteWish => cases wr
    obtain ⟨c, _, wr', known⟩ := s.edit_inv el edit
    rw [wr] at wr'
    cases wr'
    exact .inr ⟨edit, rfl, f.held_of_known el len.le known⟩

omit [DecidableEq ι] in
/-- Only the writes, their arrivals and the IDs matter. -/
lemma congr (f : Fresh w) (account : w'.account = w.account)
    (firestore : w'.firestore = w.firestore)
    (docIDs : w'.docIDs = w.docIDs) (sent : ∀ d, (w'.devices d).sent = (w.devices d).sent)
    (reached : ∀ d, (w'.devices d).reached = (w.devices d).reached) : Fresh w' := by
  refine ⟨?_, ?_, ?_, ?_, ?_, ?_⟩
  · rw [account, firestore, docIDs]; exact f.held
  · simp only [sent, docIDs]; exact f.created
  · simp only [sent]; exact f.distinct
  · simp only [sent, reached, firestore]; exact f.pending
  · simp only [sent, reached, firestore]; exact f.reached
  · simp only [sent, reached]; exact f.le

/-- A device that has made and sent the same writes. -/
lemma set (f : Fresh w) {d : ι} {dev : Device} (sent : dev.sent = (w.devices d).sent)
    (reached : dev.reached = (w.devices d).reached) : Fresh (w.set d dev) := by
  refine f.congr rfl rfl rfl ?_ ?_
  · intro d'
    by_cases h : d' = d
    case pos => subst h; rw [set_self, sent]
    case neg => rw [set_ne h]
  · intro d'
    by_cases h : d' = d
    case pos => subst h; rw [set_self, reached]
    case neg => rw [set_ne h]

/-- A touch with an unused ID. -/
lemma react (f : Fresh w) {d : ι} {k r} (unused : w.Unused k)
    (tc : Touched (some w.account.email) (w.devices d).tabs k r) : Fresh (w.react d k r) := by
  have grows : ∀ id ∈ w.docIDs, id ∈ (w.react d k r).docIDs := by
    intro id mem
    change id ∈ if _ then _ else _
    split
    · exact List.mem_append_right _ mem
    · exact mem
  refine ⟨?_, ?_, ?_, ?_, ?_, ?_⟩
  · intro p id data listed held
    exact grows id (f.held p id data listed held)
  · intro d' i x id e eid
    rcases getElem?_react e with e | ⟨_, _, wr, ewr, ex⟩
    · exact grows id (f.created d' i x id e eid)
    · subst ex
      change k.docID = some id at eid
      change id ∈ if _ then _ else _
      rw [if_pos (by rw [ewr]; rfl), eid]
      exact List.mem_cons_self
  · intro d1 i1 x1 d2 i2 x2 id e1 eid1 e2 eid2
    rcases getElem?_react e1 with e1 | ⟨hd1, hi1, wr1, _, ex1⟩ <;>
      rcases getElem?_react e2 with e2 | ⟨hd2, hi2, wr2, _, ex2⟩
    · exact f.distinct d1 i1 x1 d2 i2 x2 id e1 eid1 e2 eid2
    · subst ex2
      exact absurd (f.created d1 i1 x1 id e1 eid1) (unused id eid2)
    · subst ex1
      exact absurd (f.created d2 i2 x2 id e2 eid2) (unused id eid1)
    · exact ⟨hd1.trans hd2.symm, hi1.trans hi2.symm⟩
  · intro d' i x id e eid le data held
    rw [reached_react] at le
    rcases getElem?_react e with e | ⟨_, _, wr, ewr, ex⟩
    · exact f.pending d' i x id e eid le data held
    · -- the new ID is not in use, so no document has stood under it
      subst ex
      obtain ⟨p, data', ew, listed⟩ := (tc.made ewr).creates eid
      change wr = _ at ew
      subst ew
      exact unused id eid (f.held p id data listed held)
  · intro d' i x e lt p data wr
    rw [reached_react] at lt
    rcases getElem?_react e with e | ⟨hd, hi, _⟩
    · exact f.reached d' i x e lt p data wr
    · subst hd hi
      exact absurd (f.le d') (by omega)
  · intro d'
    rw [reached_react]
    refine (f.le d').trans ?_
    change _ ≤ ((w.set d _).devices d').sent.length
    by_cases h : d' = d
    case neg => rw [set_ne h]
    case pos =>
      subst h
      rw [set_self]
      simp [Device.react]

/-- The arrival of a write. -/
lemma arrived (f : Fresh w) (s : Sound w) {d : ι} {x} (e : w.next d = some x) :
    Fresh (w.arrived d x) := by
  refine ⟨?_, ?_, ?_, ?_, ?_, ?_⟩
  · intro p id data listed held
    rcases History.held_write.1 held with held | wr
    · exact f.held p id data listed held
    · rcases f.next_cases s e wr with ⟨id', eid, listed'⟩ | ⟨_, _, data', held⟩
      · cases Account.listed_inj listed listed'
        exact f.created d _ x id e eid
      · exact f.held p id data' listed held
  · intro d' i y id ey eid
    rw [sent_arrived] at ey
    exact f.created d' i y id ey eid
  · intro d1 i1 x1 d2 i2 x2 id e1 eid1 e2 eid2
    rw [sent_arrived] at e1 e2
    exact f.distinct d1 i1 x1 d2 i2 x2 id e1 eid1 e2 eid2
  · intro d' i y id ey eid le data held
    rw [sent_arrived] at ey
    rw [reached_arrived] at le
    have notYet : (w.devices d').reached ≤ i := by
      split at le
      case isTrue h => subst h; omega
      case isFalse => exact le
    rcases History.held_write.1 held with held | wr
    · exact f.pending d' i y id ey eid notYet data held
    · rcases f.next_cases s e wr with ⟨id', eid', listed'⟩ | ⟨_, _, data', held⟩
      · -- the arriving write would have the ID of `y`, so it would be `y`
        have mem : y ∈ (w.devices d').sent := List.mem_of_getElem? ey
        obtain ⟨p, data0, wr0, listed⟩ := ((s.devices d').made y mem).creates eid
        rw [wr0] at listed'
        cases Account.listed_inj listed listed'
        obtain ⟨hd, hi⟩ := f.distinct d' i y d _ x id ey eid e eid'
        subst hd
        rw [if_pos rfl] at le
        omega
      · exact f.pending d' i y id ey eid notYet data' held
  · intro d' i y ey lt p data wr
    rw [sent_arrived] at ey
    rw [reached_arrived] at lt
    apply History.held_write.2
    split at lt
    case isFalse => exact .inl (f.reached d' i y ey lt p data wr)
    case isTrue h =>
      subst h
      rcases Nat.lt_succ_iff_lt_or_eq.1 lt with lt | ei
      · exact .inl (f.reached d' i y ey lt p data wr)
      · subst ei
        change w.next d' = some y at ey
        rw [e] at ey
        cases ey
        exact .inr wr
  · intro d'
    rw [sent_arrived, reached_arrived]
    split
    case isTrue h =>
      subst h
      exact (List.getElem?_eq_some_iff.1 e).1
    case isFalse => exact f.le d'

/-- Each step keeps the IDs apart. -/
lemma step {e} (st : Stepped w e w') (s : Sound w) (f : Fresh w) : Fresh w' := by
  cases st with
  | touch _ unused tc => exact f.react unused tc
  | reach e => exact f.arrived s e
  | touchTrapped | watchedTrapped | watchedSnapshot | wishlistTrapped | wishlistSnapshot | launch =>
    exact f.set rfl rfl

end Fresh

/-! ## The start -/

/-- An account whose documents the app has written, on devices that have just loaded their
    screens. -/
structure Start (w : World ι) : Prop where
  past : w.firestore.past = []
  watchedList : ∀ id data,
    w.firestore.store.lookup (w.account.watchedList.path ++ [id]) = some data →
      WatchedDocument id data
  docIDs : ∀ p id data, w.account.listed p id → w.firestore.store.lookup p = some data →
    id ∈ w.docIDs
  devices : ∀ d, Launched (w.devices d)

omit [DecidableEq ι] in
/-- In the beginning the store has all that it has ever had. -/
lemma Start.lookup {w : World ι} (start : w.Start) {p data} (held : w.firestore.Held p data) :
    w.firestore.store.lookup p = some data := by
  rcases held with now | ⟨s, mem, _⟩
  · exact now
  · rw [start.past] at mem
    cases mem

omit [DecidableEq ι] in
/-- The beginning is sound. -/
lemma Start.sound {w : World ι} (start : w.Start) : Sound w where
  held := fun id data held => start.watchedList id data (start.lookup held)
  devices := fun d => (start.devices d).sound

omit [DecidableEq ι] in
/-- In the beginning the IDs are apart. -/
lemma Start.fresh {w : World ι} (start : w.Start) : Fresh w := by
  have sent : ∀ d, (w.devices d).sent = [] := fun d => (start.devices d).sent
  have reached : ∀ d, (w.devices d).reached = 0 := fun d => (start.devices d).reached
  refine ⟨?_, ?_, ?_, ?_, ?_, ?_⟩
  · intro p id data listed held
    exact start.docIDs p id data listed (start.lookup held)
  · intro d i x id e
    simp [sent] at e
  · intro d i x d' i' x' id e
    simp [sent] at e
  · intro d i x id e
    simp [sent] at e
  · intro d i x e
    simp [sent] at e
  · intro d
    simp [reached]

omit [DecidableEq ι] in
/-- A new account on devices that have just been launched is a start. -/
lemma start_empty {a : Account} : (World.empty a : World ι).Start where
  past := rfl
  watchedList := fun _ _ e => by cases e
  docIDs := fun _ _ _ _ e => by cases e
  devices := fun _ => empty_launched

/-- In every reachable state the lists are well formed and new documents get new IDs. -/
lemma Start.run {w w' : World ι} {es} (start : w.Start)
    (rn : Transition.Run (Transition.Fires World.step) w es w') : Sound w' ∧ Fresh w' :=
  rn.invariant (P := fun u => Sound u ∧ Fresh u)
    (fun st h => ⟨Sound.step (step_inv st) h.1, Fresh.step (step_inv st) h.1 h.2⟩)
    ⟨start.sound, start.fresh⟩

end World

end Lumiere
