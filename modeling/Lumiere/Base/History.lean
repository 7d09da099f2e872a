import Lumiere.Base.DocumentStore

/-!
# The history of a document store

A store together with every store it has been before. `Held` says that a document has stood at a
path at some time, now included; a write adds to what has been held exactly the document it sets
(`held_write`), so what has been held only grows.
-/

namespace DocumentStore

variable {κ δ : Type*} [DecidableEq κ]

/-- A store and the stores before it. -/
structure History (κ δ : Type*) where
  past : List (DocumentStore κ δ)
  store : DocumentStore κ δ

namespace History

/-- A write takes effect. -/
def write (h : History κ δ) (w : Write κ δ) : History κ δ where
  past := h.past ++ [h.store]
  store := w.apply h.store

/-- The document has stood at the path at some time. -/
def Held (h : History κ δ) (p : List κ) (d : δ) : Prop :=
  h.store.lookup p = some d ∨ ∃ s ∈ h.past, s.lookup p = some d

instance [DecidableEq δ] (h : History κ δ) (p : List κ) (d : δ) : Decidable (h.Held p d) :=
  inferInstanceAs (Decidable (_ ∨ _))

/-- What has stood in the store after one more write. -/
lemma held_write {h : History κ δ} {w : Write κ δ} {p : List κ} {d : δ} :
    (h.write w).Held p d ↔ h.Held p d ∨ w = .setData p d := by
  refine ⟨?_, ?_⟩
  · intro held
    rcases held with now | ⟨s, mem, before⟩
    · rcases lookup_apply_some now with stood | e
      · exact .inl (.inl stood)
      · exact .inr e
    · rcases List.mem_append.1 mem with mem | mem
      · exact .inl (.inr ⟨s, mem, before⟩)
      · rw [List.mem_singleton.1 mem] at before
        exact .inl (.inl before)
  · intro h
    rcases h with (now | ⟨s, mem, before⟩) | e
    · exact .inr ⟨h.store, List.mem_append_right _ List.mem_cons_self, now⟩
    · exact .inr ⟨s, List.mem_append_left _ mem, before⟩
    · subst e
      exact .inl (lookup_apply_self _ (.setData p d))

/-- A path at which no document has ever stood is free. -/
lemma lookup_eq_none {h : History κ δ} {p : List κ} (never : ∀ d, ¬ h.Held p d) :
    h.store.lookup p = none := by
  cases e : h.store.lookup p with
  | none => rfl
  | some d => exact absurd (.inl e) (never d)

end History

end DocumentStore
