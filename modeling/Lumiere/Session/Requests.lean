import Lumiere.Session.Inversion

/-!
# The requests of a session

A request keeps its place in `calls` (`calls_step`), and its answer until the next launch
(`answer_step`); a new answer comes from the service alone (`answer_inv`), a success by `serve`
(`success_inv`). It is delivered once (`delivery_unique`) and stays delivered (`delivered_step`).
`Numbered` says that what is known of requests is about requests that have been made; it holds in
every session that a fresh one leads to.
-/

namespace Lumiere
open Firestore
open Transition (Run Fires)

/-- The two requests of an upload. -/
def Call.uploads : Call → Bool
  | .putData _ => true
  | .downloadURL _ _ => true
  | _ => false

/-- The request is a log-in. -/
def Call.signsIn : Call → Bool
  | .signIn _ _ _ => true
  | _ => false

namespace Session

/-- The requests after a step: those before it and those it has made. -/
lemma getElem?_calls {s s' : Session} {e} {n : Nat} {c : Call} (st : s.step e = some s')
    (at_n : s'.calls[n]? = some c) :
    s.calls[n]? = some c ∨ ∃ i, Started s e i c ∧ n = s.calls.length + i := by
  obtain ⟨r, er, es⟩ := step_inv st
  subst es
  change (s.calls ++ r.started)[n]? = some c at at_n
  rw [List.getElem?_append] at at_n
  split at at_n
  case isTrue => exact .inl at_n
  case isFalse h => exact .inr ⟨n - s.calls.length, reply_started er at_n, by omega⟩

/-- A request that has been made stays in its place. -/
lemma calls_step {s s' : Session} {e} {n : Nat} {c : Call} (st : s.step e = some s')
    (at_n : s.calls[n]? = some c) : s'.calls[n]? = some c := by
  obtain ⟨r, _, es⟩ := step_inv st
  subst es
  change (s.calls ++ r.started)[n]? = some c
  rw [List.getElem?_append_left (List.getElem?_eq_some_iff.1 at_n).1]
  exact at_n

/-- Requests are never taken back. -/
lemma length_calls_step {s s' : Session} {e} (st : s.step e = some s') :
    s.calls.length ≤ s'.calls.length := by
  obtain ⟨r, _, es⟩ := step_inv st
  subst es
  change _ ≤ (s.calls ++ r.started).length
  rw [List.length_append]
  omega

/-- The answer to a request is an event that finds it in flight. -/
lemma serve_inv {s s' : Session} {n a} (st : s.step (.serve n a) = some s') :
    ∃ c r, s.calls[n]? = some c ∧ s.status n = .inFlight ∧
      (s.mark n (.answered a)).serve c a = some r ∧ s' = s.applyReply r := by
  obtain ⟨r, er, es⟩ := step_inv st
  cases replies_inv er with
  | serve ec flying h => exact ⟨_, r, ec, flying, h, es⟩

/-- So is an error after the effect. -/
lemma serveLate_inv {s s' : Session} {n late err} (st : s.step (.serveLate n late err) = some s') :
    ∃ c, s.calls[n]? = some c ∧ s.status n = .inFlight := by
  obtain ⟨r, er, es⟩ := step_inv st
  cases replies_inv er with
  | serveLate ec flying => exact ⟨_, ec, flying⟩

/-- Only a log-in is delivered while it is covered. -/
lemma Covered.signsIn {s : Session} {c : Call} {a} (covered : s.Covered c a) :
    c.signsIn = true := by
  cases c with
  | signIn => rfl
  | createUser | setUserDocument | deleteUserDocument | deleteUser | putData | downloadURL =>
    cases a <;> cases covered

/-! ## Answers -/

/-- A launch gives up the requests that are not done with. -/
lemma launch_status {s : Session} {now n} :
    (s.launch now).status n = s.status n ∨
      (s.launch now).status n = .lost ∧ n < s.calls.length := by
  have tabBar : ∀ t : Session, t.pushTabBar.status = t.status := fun t => pushTabBar_frame.2.2.1
  rw [launch]
  split
  all_goals
    simp only [tabBar]
    split
    case h_1 a es => exact .inl es.symm
    case h_2 =>
      split
      case isTrue lt => exact .inr ⟨rfl, lt⟩
      case isFalse => exact .inl rfl

/-- After a launch no request of the process before it is under way. -/
lemma launch_settled {s : Session} {now n} (lt : n < s.calls.length) :
    (s.launch now).status n = .lost ∨ ∃ a, (s.launch now).status n = .delivered a := by
  have tabBar : ∀ t : Session, t.pushTabBar.status = t.status := fun t => pushTabBar_frame.2.2.1
  rw [launch]
  split
  all_goals
    simp only [tabBar]
    split
    case h_1 a _ => exact .inr ⟨a, rfl⟩
    case h_2 => rw [if_pos lt]; exact .inl rfl

/-- The states of the requests after a step. -/
lemma answers_step {s s' : Session} {e} (st : s.step e = some s') : Answers s e s'.status := by
  obtain ⟨r, er, es⟩ := step_inv st
  subst es
  exact reply_answers er

/-- An answer has been there before, or it is what the service has just given. -/
lemma answer_inv {s s' : Session} {e n a} (st : s.step e = some s')
    (ans : (s'.status n).answer = some a) :
    (s.status n).answer = some a ∨ s.status n = .inFlight ∧
      (e = .serve n a ∨ ∃ late err, e = .serveLate n late err ∧ a = .error err) := by
  generalize ess : s'.status = ss at ans
  have become := answers_step st
  rw [ess] at become
  cases become with
  | same => exact .inl ans
  | @serve m b _ _ flying =>
    rw [Function.update_apply] at ans
    split at ans
    case isFalse => exact .inl ans
    case isTrue en =>
      cases ans
      subst en
      exact .inr ⟨flying, .inl rfl⟩
  | @serveLate m late err _ _ flying =>
    rw [Function.update_apply] at ans
    split at ans
    case isFalse => exact .inl ans
    case isTrue en =>
      cases ans
      subst en
      exact .inr ⟨flying, .inr ⟨late, err, rfl, rfl⟩⟩
  | deliver _ es | deliverCovered _ es =>
    rw [Function.update_apply] at ans
    split at ans
    case isFalse => exact .inl ans
    case isTrue en =>
      cases ans
      subst en
      rw [es]
      exact .inl rfl
  | launch =>
    rcases launch_status with same | ⟨lost, _⟩
    · rw [same] at ans
      exact .inl ans
    · rw [lost] at ans
      cases ans

/-- A success has been there before, or `serve` has just given it. -/
lemma success_inv {s s' : Session} {e n x} (st : s.step e = some s')
    (ans : (s'.status n).answer = some (.ok x)) :
    (s.status n).answer = some (.ok x) ∨ e = .serve n (.ok x) := by
  rcases answer_inv st ans with before | ⟨_, served | ⟨_, _, _, err⟩⟩
  · exact .inl before
  · exact .inr served
  · cases err

/-- While the process lives an answer stays. -/
lemma answer_step {s s' : Session} {e n a} (st : s.step e = some s')
    (living : ∀ now, e ≠ .launch now) (ans : (s.status n).answer = some a) :
    (s'.status n).answer = some a := by
  generalize ess : s'.status = ss
  have become := answers_step st
  rw [ess] at become
  cases become with
  | same => exact ans
  | serve _ flying | serveLate _ flying =>
    rw [Function.update_apply]
    split
    case isFalse => exact ans
    case isTrue en =>
      subst en
      rw [flying] at ans
      cases ans
  | deliver _ es | deliverCovered _ es =>
    rw [Function.update_apply]
    split
    case isFalse => exact ans
    case isTrue en =>
      subst en
      rw [es] at ans
      exact ans
  | launch => exact absurd rfl (living _)

/-! ## Deliveries -/

/-- A delivered answer stays, also over a launch. -/
lemma delivered_step {s s' : Session} {e n a} (st : s.step e = some s')
    (done : s.status n = .delivered a) : s'.status n = .delivered a := by
  generalize ess : s'.status = ss
  have become := answers_step st
  rw [ess] at become
  cases become with
  | same => exact done
  | serve _ flying | serveLate _ flying =>
    rw [Function.update_apply]
    split
    case isFalse => exact done
    case isTrue en =>
      subst en
      rw [done] at flying
      cases flying
  | deliver _ answer | deliverCovered _ answer =>
    rw [Function.update_apply]
    split
    case isFalse => exact done
    case isTrue en =>
      subst en
      rw [done] at answer
      cases answer
  | launch =>
    have tabBar : ∀ t : Session, t.pushTabBar.status = t.status := fun t => pushTabBar_frame.2.2.1
    rw [launch]
    split
    all_goals simp only [tabBar, done]

/-- The delivery of an answer. -/
lemma deliver_inv {s s' : Session} {n} (st : s.step (.deliver n) = some s') :
    ∃ c a, s.calls[n]? = some c ∧ s.status n = .answered a ∧ s'.status n = .delivered a := by
  generalize ess : s'.status = ss
  have become := answers_step st
  rw [ess] at become
  cases become with
  | same _ no => exact absurd rfl (no n)
  | deliver call answer => exact ⟨_, _, call, answer, Function.update_self _ _ _⟩

/-- The delivery of an upload asks for the download URL. -/
lemma deliver_putData {s s' : Session} {n imageID x} (st : s.step (.deliver n) = some s')
    (call : s.calls[n]? = some (.putData imageID)) (answer : s.status n = .answered (.ok x)) :
    s'.calls[s.calls.length]? = some (.downloadURL imageID n) := by
  obtain ⟨r, er, es⟩ := step_inv st
  subst es
  rw [reply_deliver er call answer]
  exact List.getElem?_concat_length

/-- A request is delivered once. -/
lemma delivery_unique {s u v : Session} {n es1 fs1 es2 fs2 a b} (rn1 : Run (Fires step) s es1 u)
    (ans1 : u.status n = .answered a) (rn2 : Run (Fires step) s es2 v)
    (ans2 : v.status n = .answered b)
    (cut : es1 ++ .deliver n :: fs1 = es2 ++ .deliver n :: fs2) : es1 = es2 := by
  refine Run.cut_unique (P := fun s => ∃ a, s.status n = .delivered a) ?_ ?_ rn1 ?_ rn2 ?_ cut
  · intro s t st
    obtain ⟨_, a, _, _, done⟩ := deliver_inv st
    exact ⟨a, done⟩
  · rintro s f t st ⟨a, done⟩
    exact ⟨a, delivered_step st done⟩
  · rintro ⟨_, done⟩
    cases ans1.symm.trans done
  · rintro ⟨_, done⟩
    cases ans2.symm.trans done

/-- What has been delivered in a run is a request that has been made. -/
lemma delivered_lt {s t : Session} {es m a} (rn : Run (Fires step) s es t)
    (pending : ∀ b, s.status m ≠ .delivered b) (done : t.status m = .delivered a) :
    m < t.calls.length := by
  have inv : (∃ b, t.status m = .delivered b) → m < t.calls.length := by
    refine rn.invariant
      (P := fun u => (∃ b, u.status m = .delivered b) → m < u.calls.length) ?_ ?_
    · intro u e v st inv done
      have le := length_calls_step st
      generalize ess : v.status = ss at done
      have become := answers_step st
      rw [ess] at become
      cases become with
      | same => exact lt_of_lt_of_le (inv done) le
      | serve ec | serveLate ec | deliver ec | deliverCovered ec =>
        rw [Function.update_apply] at done
        split at done
        case isTrue en =>
          rw [en]
          exact lt_of_lt_of_le (List.getElem?_eq_some_iff.1 ec).1 le
        case isFalse => exact lt_of_lt_of_le (inv done) le
      | launch =>
        rcases launch_status with same | ⟨lost, _⟩
        · rw [same] at done
          exact lt_of_lt_of_le (inv done) le
        · rw [lost] at done
          obtain ⟨_, h⟩ := done
          cases h
    · rintro ⟨b, h⟩
      exact absurd h (pending b)
  exact inv ⟨a, done⟩

/-- A request other than a log-in that has been delivered in a run was delivered by one of its
    events. -/
lemma delivered_run {s t : Session} {es m a} {c : Call} (rn : Run (Fires step) s es t)
    (call : t.calls[m]? = some c) (other : c.signsIn = false)
    (pending : ∀ b, s.status m ≠ .delivered b) (done : t.status m = .delivered a) :
    ∃ es1 es2 u v, es = es1 ++ .deliver m :: es2 ∧ Run (Fires step) s es1 u ∧
      u.step (.deliver m) = some v ∧ u.status m = .answered a ∧ Run (Fires step) v es2 t := by
  induction es using List.reverseRecOn generalizing t with
  | nil =>
    cases rn with
    | nil => exact absurd done (pending a)
  | append_singleton es e ih =>
    obtain ⟨u, rn1, rn2⟩ := rn.split
    have st := rn2.single_inv
    by_cases before : ∃ b, u.status m = .delivered b
    · obtain ⟨b, before⟩ := before
      have same := delivered_step st before
      rw [done] at same
      cases same
      have call' : u.calls[m]? = some c := by
        rcases getElem?_calls st call with old | ⟨_, _, en⟩
        · exact old
        · exact absurd (delivered_lt rn1 pending before) (by omega)
      obtain ⟨es1, es2, v, w, ees, rn3, st', answer, rn4⟩ := ih rn1 call' before
      refine ⟨es1, es2 ++ [e], v, w, ?_, rn3, st', answer, rn4.append (.single st)⟩
      rw [ees, List.append_assoc]
      rfl
    · have ee : e = .deliver m := by
        generalize ess : t.status = ss at done
        have become := answers_step st
        rw [ess] at become
        cases become with
        | same => exact absurd ⟨a, done⟩ before
        | serve | serveLate =>
          rw [Function.update_apply] at done
          split at done
          case isTrue => cases done
          case isFalse => exact absurd ⟨a, done⟩ before
        | @deliver n =>
          rw [Function.update_apply] at done
          split at done
          case isTrue en => rw [en]
          case isFalse => exact absurd ⟨a, done⟩ before
        | @deliverCovered n b c' ec _ covered =>
          rw [Function.update_apply] at done
          split at done
          case isFalse => exact absurd ⟨a, done⟩ before
          case isTrue en =>
            subst en
            cases (calls_step st ec).symm.trans call
            cases other.symm.trans covered.signsIn
        | launch =>
          rcases launch_status with same | ⟨lost, _⟩
          · rw [same] at done
            exact absurd ⟨a, done⟩ before
          · rw [lost] at done
            cases done
      subst ee
      obtain ⟨_, b, _, answer, done'⟩ := deliver_inv st
      rw [done] at done'
      cases done'
      exact ⟨es, [], u, t, rfl, rn1, st, answer, .nil⟩

/-! ## Fresh sessions -/

/-- No request has been made. -/
structure Fresh (s : Session) : Prop where
  calls : s.calls = []
  status : ∀ n, s.status n = .inFlight

/-- The first start has made no request. -/
lemma fresh_first {accounts firestore} : (first accounts firestore).Fresh :=
  ⟨rfl, fun _ => rfl⟩

/-- What is known of requests is about requests that have been made. -/
structure Numbered (s : Session) : Prop where
  status : ∀ n, s.calls.length ≤ n → s.status n = .inFlight
  attempts : ∀ (m : Nat) form n d, s.calls[m]? = some (.setUserDocument form n d) →
    n < s.calls.length

/-- The request that a step makes is in flight after it. -/
lemma Numbered.inFlight {s s' : Session} {e n} (num : s.Numbered) (st : s.step e = some s')
    (le : s.calls.length ≤ n) : s'.status n = .inFlight := by
  have old := num.status n le
  generalize ess : s'.status = ss
  have become := answers_step st
  rw [ess] at become
  cases become with
  | same => exact old
  | serve ec | serveLate ec | deliver ec | deliverCovered ec =>
    have lt := (List.getElem?_eq_some_iff.1 ec).1
    rw [Function.update_of_ne (by omega), old]
  | launch =>
    rcases launch_status with same | ⟨_, lt⟩
    · rw [same, old]
    · omega

/-- A step keeps what is known about requests that have been made. -/
lemma Numbered.step {s s' : Session} {e} (st : s.step e = some s') (num : s.Numbered) :
    s'.Numbered := by
  have le := length_calls_step st
  refine ⟨?_, ?_⟩
  · intro n len
    exact num.inFlight st (by omega)
  · intro m form n d at_m
    rcases getElem?_calls st at_m with old | ⟨_, started, _⟩
    · exact lt_of_lt_of_le (num.attempts m form n d old) le
    · cases started with
      | setUserDocument call =>
        exact lt_of_lt_of_le (List.getElem?_eq_some_iff.1 call).1 le

/-- It holds wherever a fresh session leads. -/
lemma numbered_run {s t : Session} {es} (fresh : s.Fresh) (rn : Run (Fires step) s es t) :
    t.Numbered := by
  refine rn.invariant Numbered.step ⟨fun n _ => fresh.status n, ?_⟩
  intro m form n d at_m
  rw [fresh.calls] at at_m
  cases at_m

/-- A success was given by the service, to the request that is in its place. -/
lemma answered_run {s t : Session} {es} (fresh : s.Fresh) (rn : Run (Fires step) s es t) {m x}
    (ans : (t.status m).answer = some (.ok x)) :
    ∃ es1 es2 u c, es = es1 ++ .serve m (.ok x) :: es2 ∧ Run (Fires step) s es1 u ∧
      u.calls[m]? = some c ∧ t.calls[m]? = some c := by
  revert ans
  refine rn.history (P := fun es t => (t.status m).answer = some (.ok x) →
    ∃ es1 es2 u c, es = es1 ++ .serve m (.ok x) :: es2 ∧ Run (Fires step) s es1 u ∧
      u.calls[m]? = some c ∧ t.calls[m]? = some c) ?_ ?_
  · intro ans
    rw [fresh.status] at ans
    cases ans
  · intro es t e u rn st ih ans
    rcases success_inv st ans with before | ee
    · obtain ⟨es1, es2, v, c, ees, rn1, call, call'⟩ := ih before
      refine ⟨es1, es2 ++ [e], v, c, ?_, rn1, call, calls_step st call'⟩
      rw [ees, List.append_assoc]
      rfl
    · subst ee
      obtain ⟨c, _, call, _⟩ := serve_inv st
      exact ⟨es, [], t, c, rfl, rn, call, calls_step st call⟩

end Session

end Lumiere
