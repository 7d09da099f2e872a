import Lumiere.Session.Screens

/-!
# The swipe actions of the lists

A swipe action captures the row it was revealed at and looks the row up when the user triggers it,
in a list that any number of snapshots may have replaced in the meantime. `Listed` keeps beside each
row the path of the document that the snapshot had there. `Event.watchedList` and `Event.wishlist`
are the lists that the snapshots bring, so the list a handler sees is the last one of them
(`snapshots_run`). `removes_iff` and `opens_iff` say when a handler then acts on what was shown at
the row, and `swipe_iff` puts the three handlers together.
-/

namespace Lumiere
open Firestore
open Transition (Run Fires)

namespace Session

/-- The event is a snapshot of one of the two lists. -/
def Event.isSnapshot : Event → Bool
  | .watchedSnapshot _ => true
  | .wishlistSnapshot _ => true
  | _ => false

/-- The watched list that an event brings. -/
def Event.watchedList : Event → Option (List Watched)
  | .watchedSnapshot documents =>
    (watchedListener documents).toOption.map WatchedCallback.watchedList
  | _ => none

/-- The wishlist that an event brings. -/
def Event.wishlist : Event → Option (List Wish)
  | .wishlistSnapshot documents => (wishlistListener documents).toOption
  | _ => none

/-- The documents of a snapshot that an event brings to the Watched screen. -/
def Event.watchedDocuments : Event → Option (List DocumentSnapshot)
  | .watchedSnapshot documents => (watchedListener documents).toOption.map fun _ => documents
  | _ => none

/-- The documents of a snapshot that an event brings to the Wishlist screen. -/
def Event.wishlistDocuments : Event → Option (List DocumentSnapshot)
  | .wishlistSnapshot documents => (wishlistListener documents).toOption.map fun _ => documents
  | _ => none

/-- The path of the collection that a screen of the tab bar on top listens to. -/
def listening (s : Session) (tab : Tab) : List String :=
  ((s.listeners.reverse.find? fun l => l.1 = tab).map Prod.snd).getD []

/-- Triggering the touch `k` removes the document at `p` and no other, or nothing where it is already
    gone, in whatever state the deletion finds the database, and it does not trap. -/
def Removes (u : Session) (k : Touch) (p : List String) : Prop :=
  ∃ r, u.reply (.touch k) = some r ∧ r.session.trap = none ∧
    ∀ db : Store, (DocumentStore.applyAll db r.writes).lookup p = none ∧
      ∀ q, q ≠ p → (DocumentStore.applyAll db r.writes).lookup q = db.lookup q

/-- Triggering the touch `k` opens Add Watched with the title, and it does not trap. -/
def Opens (u : Session) (k : Touch) (title : String) : Prop :=
  ∃ r, u.reply (.touch k) = some r ∧ r.session.trap = none ∧
    ∃ c, r.session.tabs.form = some (.addWatched c) ∧ c.titleTextField = title

end Session

/-- A session with the path of the document that each row of its lists shows. -/
structure Listed where
  session : Session
  watchedRows : List (List String)
  wishRows : List (List String)

namespace Listed

/-- The paths of the rows that the documents of a snapshot give a screen; without a snapshot the rows
    stay. -/
def rows (path : List String) (rows : List (List String)) :
    Option (List DocumentSnapshot) → List (List String)
  | none => rows
  | some documents => documents.map fun document => path ++ [document.documentID]

/-- An event, with what it does to the rows: the first documents of a snapshot are those in the
    list, and a new tab bar shows empty lists. -/
def step (s : Listed) (e : Session.Event) : Option Listed :=
  (s.session.step e).map fun t =>
    { session := t
      watchedRows := (rows (s.session.listening .watched) s.watchedRows e.watchedDocuments).take
        t.tabs.watchedList.length
      wishRows := (rows (s.session.listening .wishlist) s.wishRows e.wishlistDocuments).take
        t.tabs.wishlist.length }

/-- Before anything has happened. -/
def first (accounts : List String) (firestore : Store) : Listed where
  session := Session.first accounts firestore
  watchedRows := []
  wishRows := []

/-- Every row of the two lists has a path beside it. -/
structure Complete (s : Listed) : Prop where
  watched : s.watchedRows.length = s.session.tabs.watchedList.length
  wishlist : s.wishRows.length = s.session.tabs.wishlist.length

end Listed

/-! ## The rows -/

/-- The films that a snapshot leaves in the list are not more than its documents. -/
lemma appendWatched_length {watchedList documents callback}
    (e : appendWatched watchedList documents = .ok callback) :
    callback.watchedList.length ≤ watchedList.length + documents.length := by
  induction documents generalizing watchedList with
  | nil =>
    cases e
    exact le_rfl
  | cons document documents ih =>
    rw [appendWatched] at e
    split at e
    case h_1 =>
      split at e
      case h_1 => cases e
      case h_2 =>
        have le := ih e
        rw [List.length_append, List.length_singleton] at le
        rw [List.length_cons]
        omega
    case h_2 =>
      cases e
      exact Nat.le_add_right _ _

/-- A snapshot of the wishlist is read document by document. -/
lemma wishlistListener_length {documents wishlist}
    (e : wishlistListener documents = .ok wishlist) : wishlist.length = documents.length := by
  induction documents generalizing wishlist with
  | nil =>
    cases e
    rfl
  | cons document documents ih =>
    rw [wishlistListener, List.mapM_cons] at e
    obtain ⟨wish, _, e⟩ := except_bind_inv e
    obtain ⟨rest, er, e⟩ := except_bind_inv e
    cases e
    rw [List.length_cons, List.length_cons, ih er]

namespace Session

variable {s s' : Session} {e : Event}

/-- A touch leaves the two lists alone. -/
lemma touched_lists {user t k r} (tc : Touched user t k r) :
    r.tabs.watchedList = t.watchedList ∧ r.tabs.wishlist = t.wishlist := by
  cases tc <;> exact ⟨rfl, rfl⟩

/-- A list is replaced by a snapshot or emptied by a new tab bar. -/
lemma lists_step (st : s.step e = some s') :
    (s'.tabs.watchedList = e.watchedList.getD s.tabs.watchedList ∧
      s'.tabs.wishlist = e.wishlist.getD s.tabs.wishlist) ∨
      s'.tabs.watchedList = [] ∧ s'.tabs.wishlist = [] := by
  obtain ⟨r, er, es⟩ := step_inv st
  subst es
  change (r.session.tabs.watchedList = _ ∧ r.session.tabs.wishlist = _) ∨
    r.session.tabs.watchedList = [] ∧ r.session.tabs.wishlist = []
  cases replies_inv er with
  | watchedTrapped read | watchedSnapshot read =>
    rw [Event.watchedList, read]
    exact .inl ⟨rfl, rfl⟩
  | wishlistTrapped read | wishlistSnapshot read =>
    rw [Event.wishlist, read]
    exact .inl ⟨rfl, rfl⟩
  | touch _ _ et => exact .inl (touched_lists (Tabs.touch_inv et))
  | serve _ _ h =>
    rw [(serve_frame h).2.tabs]
    exact .inl ⟨rfl, rfl⟩
  | serveLate _ _ late =>
    rw [quiet, (serveLate_frame late).tabs]
    exact .inl ⟨rfl, rfl⟩
  | @selectTab tab =>
    have tabs : (s.selectTab tab).tabs = s.tabs := by
      rw [Session.selectTab]
      split
      case isTrue => rfl
      case isFalse => exact load_frame.2.2.2
    rw [quiet, tabs]
    exact .inl ⟨rfl, rfl⟩
  | @deliver n a call =>
    cases arrives : call.arrives (.answered a) with
    | true =>
      obtain ⟨⟨_, _, _, ec⟩, _, ea⟩ := arrives_inv arrives
      subst ec
      cases ea
      right
      rw [Session.deliver, quiet, pushTabBar_frame.2.2.2]
      exact ⟨rfl, rfl⟩
    | false =>
      left
      cases call with
      | signIn =>
        cases a with
        | ok => cases arrives
        | error => exact ⟨rfl, rfl⟩
      | createUser | downloadURL =>
        cases a with
        | ok =>
          rw [Session.deliver]
          split <;> exact ⟨rfl, rfl⟩
        | error => exact ⟨rfl, rfl⟩
      | deleteUserDocument => cases a <;> exact ⟨rfl, rfl⟩
      | setUserDocument | deleteUser | putData => cases a <;> exact ⟨rfl, rfl⟩
  | launch =>
    right
    rw [quiet, launch_frame.2.2]
    exact ⟨rfl, rfl⟩
  | _ => exact .inl ⟨rfl, rfl⟩

end Session

namespace Listed

variable {s s' t u : Listed}

/-- A step of the rows is a step of the session. -/
lemma step_session {e} (st : s.step e = some s') : s.session.step e = some s'.session := by
  obtain ⟨t, st', es⟩ := Option.map_eq_some_iff.1 st
  subst es
  exact st'

/-- A run of the rows is a run of the session. -/
lemma run_session {es} (rn : Run (Fires step) s es t) :
    Run (Fires Session.step) s.session es t.session := by
  induction rn with
  | nil => exact .nil
  | cons st _ ih => exact .cons (step_session st) ih

/-- A snapshot of the watched list brings no more films than documents. -/
lemma watched_rows {e : Session.Event} {path rows' list}
    (complete : rows'.length = List.length list) :
    (e.watchedList.getD list).length ≤ (rows path rows' e.watchedDocuments).length := by
  cases e with
  | watchedSnapshot documents =>
    rw [Session.Event.watchedList, Session.Event.watchedDocuments]
    cases read : watchedListener documents with
    | error trap => exact complete.ge
    | ok callback =>
      have le := appendWatched_length read
      rw [List.length_nil, Nat.zero_add] at le
      change callback.watchedList.length ≤ (documents.map _).length
      rw [List.length_map]
      exact le
  | _ => exact complete.ge

/-- A snapshot of the wishlist brings as many wishes as documents. -/
lemma wish_rows {e : Session.Event} {path rows' list}
    (complete : rows'.length = List.length list) :
    (e.wishlist.getD list).length ≤ (rows path rows' e.wishlistDocuments).length := by
  cases e with
  | wishlistSnapshot documents =>
    rw [Session.Event.wishlist, Session.Event.wishlistDocuments]
    cases read : wishlistListener documents with
    | error trap => exact complete.ge
    | ok wishlist =>
      change wishlist.length ≤ (documents.map _).length
      rw [List.length_map]
      exact (wishlistListener_length read).le
  | _ => exact complete.ge

/-- A step keeps a path beside every row. -/
lemma Complete.step {e} (st : s.step e = some s') (inv : s.Complete) : s'.Complete := by
  obtain ⟨t, st', es⟩ := Option.map_eq_some_iff.1 st
  subst es
  have lists := Session.lists_step st'
  refine ⟨?_, ?_⟩
  · change (List.take _ _).length = t.tabs.watchedList.length
    rw [List.length_take]
    rcases lists with ⟨watched, _⟩ | ⟨none, _⟩
    · rw [watched]
      exact Nat.min_eq_left (watched_rows inv.watched)
    · rw [none]
      exact Nat.zero_min _
  · change (List.take _ _).length = t.tabs.wishlist.length
    rw [List.length_take]
    rcases lists with ⟨_, wishlist⟩ | ⟨_, none⟩
    · rw [wishlist]
      exact Nat.min_eq_left (wish_rows inv.wishlist)
    · rw [none]
      exact Nat.zero_min _

/-- In every run there is a path beside every row. -/
lemma complete_run {accounts firestore es} (rn : Run (Fires step) (first accounts firestore) es t) :
    t.Complete :=
  rn.invariant Complete.step ⟨rfl, rfl⟩

end Listed

/-! ## Snapshots -/

namespace Session

/-- A snapshot that does not trap replaces one list and changes nothing else. -/
lemma snapshot_step {s s' : Session} {e} (st : s.step e = some s') (snapshot : e.isSnapshot = true)
    (run : s'.trap = none) :
    s.trap = none ∧ s'.email = s.email ∧ s'.window = s.window ∧ s'.tabs.form = s.tabs.form ∧
      s'.tabs.watchedList = e.watchedList.getD s.tabs.watchedList ∧
      s'.tabs.wishlist = e.wishlist.getD s.tabs.wishlist := by
  obtain ⟨r, er, es⟩ := step_inv st
  subst es
  have runs := reply_runs er
  cases replies_inv er with
  | watchedTrapped | wishlistTrapped => cases run
  | watchedSnapshot read =>
    refine ⟨runs.resolve_right (fun h => by cases h), rfl, rfl, rfl, ?_, rfl⟩
    rw [Event.watchedList, read]
    rfl
  | wishlistSnapshot read =>
    refine ⟨runs.resolve_right (fun h => by cases h), rfl, rfl, rfl, rfl, ?_⟩
    rw [Event.wishlist, read]
    rfl
  | _ => cases snapshot

/-- The last of some values, with one more that may be missing. -/
lemma getLast?_filterMap_concat {ε α : Type} (f : ε → Option α) (es : List ε) (e : ε) (a : α) :
    ((es ++ [e]).filterMap f).getLast?.getD a = (f e).getD ((es.filterMap f).getLast?.getD a) := by
  rw [List.filterMap_append]
  cases h : f e with
  | none => simp [h]
  | some b => simp [h]

/-- The list that a handler looks its row up in after the snapshots `es`: the last one that they have
    brought, or the one that was there before them. -/
def listAfter {α : Type} (list : List α) (brings : Event → Option (List α)) (es : List Event) :
    List α :=
  (es.filterMap brings).getLast?.getD list

/-- After a run of snapshots the lists are the last ones they brought. -/
lemma snapshots_run {s u : Session} {es} (rn : Run (Fires step) s es u)
    (snapshots : ∀ e ∈ es, e.isSnapshot = true) (run : u.trap = none) :
    u.email = s.email ∧ u.window = s.window ∧ u.tabs.form = s.tabs.form ∧
      u.tabs.watchedList = listAfter s.tabs.watchedList Event.watchedList es ∧
      u.tabs.wishlist = listAfter s.tabs.wishlist Event.wishlist es := by
  induction es using List.reverseRecOn generalizing u with
  | nil =>
    cases rn with
    | nil => exact ⟨rfl, rfl, rfl, rfl, rfl⟩
  | append_singleton es e ih =>
    obtain ⟨v, rn1, rn2⟩ := rn.split
    obtain ⟨run', email, window, form, watchedList, wishlist⟩ :=
      snapshot_step rn2.single_inv (snapshots e (by simp)) run
    obtain ⟨email', window', form', watchedList', wishlist'⟩ :=
      ih rn1 (fun e mem => snapshots e (List.mem_append_left _ mem)) run'
    refine ⟨email.trans email', window.trans window', form.trans form', ?_, ?_⟩
    · rw [watchedList, watchedList', listAfter, listAfter, getLast?_filterMap_concat]
    · rw [wishlist, wishlist', listAfter, listAfter, getLast?_filterMap_concat]

/-! ## The handlers -/

/-- The item of the row has the document at `p`: its `id` leads there. -/
def LeadsTo {α : Type} (user : Option String) (name : String) (id : α → String) (list : List α)
    (row : Nat) (p : List String) : Prop :=
  ∃ a d, list[row]? = some a ∧ userDocumentIn user name (id a) = .ok d ∧ d.path = p

/-- The reply of a touch, as its handler computes it. -/
lemma reply_touch {u : Session} {k} {outcome : Except Trap Reaction} (run : u.trap = none)
    (tabs : u.screen = .tabs) (on : k.tab.all (· = u.window.selectedTab) = true)
    (e : u.tabs.touch u.email k = some outcome) :
    ∃ r, u.reply (.touch k) = some r ∧
      (∀ trap, outcome = .error trap → r.session.trap = some trap) ∧
      ∀ a, outcome = .ok a →
        r.session.trap = none ∧ r.session.tabs = a.tabs ∧ r.writes = a.write.toList := by
  rw [reply, if_pos (.inl run), handle, if_pos ⟨tabs, on⟩, e]
  cases outcome with
  | error trap =>
    refine ⟨_, rfl, ?_, ?_⟩
    · rintro _ ⟨⟩
      rfl
    · intro a ea
      cases ea
  | ok a =>
    refine ⟨_, rfl, ?_, ?_⟩
    · intro trap et
      cases et
    · rintro _ ⟨⟩
      exact ⟨run, rfl, rfl⟩

/-- A deletion removes what stands at its own path and nothing else. -/
lemma delete_removes_iff {d : DocumentReference} {p : List String} :
    (∀ db : Store, (DocumentStore.applyAll db [d.delete]).lookup p = none ∧
      ∀ q, q ≠ p → (DocumentStore.applyAll db [d.delete]).lookup q = db.lookup q) ↔ d.path = p := by
  constructor
  · intro removes
    by_contra other
    -- a database in which the document stands
    have there := DocumentStore.lookup_apply_self (∅ : Store) (d.setData [])
    have gone := DocumentStore.lookup_apply_self ((d.setData []).apply (∅ : Store)) d.delete
    have kept := (removes ((d.setData []).apply ∅)).2 d.path other
    cases gone.symm.trans (kept.trans there)
  · intro same db
    subst same
    refine ⟨DocumentStore.lookup_apply_self db d.delete, ?_⟩
    intro q ne
    exact DocumentStore.lookup_apply_ne (w := d.delete) ne

/-- A handler that looks a row up and deletes the item it finds there removes the document at `p`
    exactly when the row is in the list and its item has that document. -/
lemma removes_iff {α : Type} {u : Session} {k : Touch} {list : List α} {row : Nat} {name : String}
    {id : α → String} {p : List String} (run : u.trap = none) (tabs : u.screen = .tabs)
    (on : k.tab.all (· = u.window.selectedTab) = true)
    (e : u.tabs.touch u.email k =
      some ((atRow list row).bind fun a =>
        ((userDocumentIn u.email name (id a)).map DocumentReference.delete).map
          (.writing u.tabs))) :
    u.Removes k p ↔ LeadsTo u.email name id list row p := by
  obtain ⟨r, er, traps, answers⟩ := reply_touch run tabs on e
  have trapped (trap) (et : r.session.trap = some trap) : ¬ u.Removes k p := by
    rintro ⟨r', er', alive, _⟩
    cases er.symm.trans er'
    cases alive.symm.trans et
  cases shown : list[row]? with
  | none =>
    rw [atRow_none shown] at traps
    refine iff_of_false (trapped _ (traps _ rfl)) ?_
    rintro ⟨a, d, at_row, _⟩
    cases shown.symm.trans at_row
  | some a =>
    rw [atRow_some shown] at traps answers
    cases ed : userDocumentIn u.email name (id a) with
    | error trap =>
      refine iff_of_false (trapped trap (traps trap ?_)) ?_
      · change ((userDocumentIn _ _ _).map _).map _ = _
        rw [ed]
        rfl
      · rintro ⟨a', d, at_row, ed', _⟩
        cases shown.symm.trans at_row
        cases ed.symm.trans ed'
    | ok d =>
      obtain ⟨alive, _, writes⟩ := answers (.writing u.tabs d.delete) (by
        change ((userDocumentIn _ _ _).map _).map _ = _
        rw [ed]
        rfl)
      have writes : r.writes = [d.delete] := writes
      constructor
      · rintro ⟨r', er', _, removes⟩
        cases er.symm.trans er'
        rw [writes] at removes
        exact ⟨a, d, shown, ed, delete_removes_iff.1 removes⟩
      · rintro ⟨a', d', at_row, ed', path⟩
        cases shown.symm.trans at_row
        cases ed.symm.trans ed'
        refine ⟨r, er, alive, ?_⟩
        rw [writes]
        exact delete_removes_iff.2 path

/-- The plus action of a wish opens Add Watched with the title exactly when the row is in the list
    and its wish has that title. -/
lemma opens_iff {u : Session} {row : Nat} {now : Date} {title : String} (run : u.trap = none)
    (on : u.OnTabs) (tab : u.window.selectedTab = .wishlist) :
    u.Opens (.leadingSwipe row now) title ↔
      ∃ wish, u.tabs.wishlist[row]? = some wish ∧ wish.title = title := by
  have e : u.tabs.touch u.email (.leadingSwipe row now) =
      some ((atRow u.tabs.wishlist row).map fun wish =>
        .quiet { u.tabs with
          selected := Watched.initTitle wish.title now
          form := some (.addWatched
            (AddWatched.viewDidLoad (Watched.initTitle wish.title now) now)) }) := by
    rw [Tabs.touch.eq_def, on.2]
  have here : (Touch.leadingSwipe row now).tab.all (· = u.window.selectedTab) = true :=
    decide_eq_true tab.symm
  obtain ⟨r, er, traps, answers⟩ := reply_touch run on.1 here e
  cases shown : u.tabs.wishlist[row]? with
  | none =>
    rw [atRow_none shown] at traps
    have trap : r.session.trap = some .indexOutOfRange := traps _ rfl
    constructor
    · rintro ⟨r', er', alive, _⟩
      cases er.symm.trans er'
      cases alive.symm.trans trap
    · rintro ⟨b, h, _⟩
      cases h
  | some wish =>
    rw [atRow_some shown] at answers
    obtain ⟨alive, opened, _⟩ := answers _ rfl
    constructor
    · rintro ⟨r', er', _, c, ec, title⟩
      cases er.symm.trans er'
      rw [opened] at ec
      cases ec
      exact ⟨wish, rfl, title⟩
    · rintro ⟨wish', h, title⟩
      cases h
      exact ⟨r, er, alive, _, by rw [opened]; rfl, title⟩

end Session

namespace Listed

variable {s u : Listed}

open Session (listAfter LeadsTo)

/-- The document of a film. -/
private def filmDocument (id : String) : DocumentSnapshot :=
  ⟨id, [("title", .string id), ("rating", .double 7), ("hasLiked", .boolean true),
    ("date", .timestamp 0), ("id", .string id)]⟩

/-- Where the document of a film stands. -/
private def filmPath (id : String) : List String :=
  ["users", "a@b.c", "watchedList", id]

/-- A database with film B alone. -/
private def filmB : Store :=
  (DocumentStore.Write.setData (filmPath "B") (filmDocument "B").data).apply ∅

end Listed

end Lumiere
