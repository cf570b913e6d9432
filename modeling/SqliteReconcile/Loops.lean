import Mathlib

/-!
# Loops over finite collections

A loop over a set or a dict has one result when its body commutes with itself. The rules
below say what such a loop leaves behind from what one iteration does, for a predicate of
the accumulator and for a measure of it.
-/
namespace SqliteReconcile.Loops

variable {α δ : Type*} {β : α → Type*}

/-- A predicate that one iteration establishes exactly on certain elements holds after a
list loop exactly when it held before or such an element occurred. -/
theorem list_foldl_iff (f : δ → α → δ) (P : δ → Prop) (R : α → Prop)
    (step : ∀ d x, P (f d x) ↔ P d ∨ R x) (d : δ) (xs : List α) :
    P (xs.foldl f d) ↔ P d ∨ ∃ x ∈ xs, R x := by
  induction xs generalizing d with
  | nil => simp
  | cons x xs ih =>
    rw [List.foldl_cons, ih, step]
    simp [or_assoc]

theorem multiset_foldl_iff (f : δ → α → δ) [RightCommutative f] (P : δ → Prop) (R : α → Prop)
    (step : ∀ d x, P (f d x) ↔ P d ∨ R x) (d : δ) (s : Multiset α) :
    P (s.foldl f d) ↔ P d ∨ ∃ x ∈ s, R x := by
  induction s using Quotient.inductionOn with
  | _ xs => exact list_foldl_iff f P R step d xs

theorem finmap_foldl_iff [DecidableEq α] (f : δ → ∀ a, β a → δ)
    (comm : ∀ d a₁ b₁ a₂ b₂, f (f d a₁ b₁) a₂ b₂ = f (f d a₂ b₂) a₁ b₁)
    (P : δ → Prop) (R : ∀ a, β a → Prop)
    (step : ∀ d a b, P (f d a b) ↔ P d ∨ R a b) (d : δ) (m : Finmap β) :
    P (m.foldl f comm d) ↔ P d ∨ ∃ a b, m.lookup a = some b ∧ R a b := by
  let _ : RightCommutative fun d (s : Sigma β) => f d s.1 s.2 :=
    ⟨fun d s t => comm d s.1 s.2 t.1 t.2⟩
  have h := multiset_foldl_iff (fun d (s : Sigma β) => f d s.1 s.2) P (fun s => R s.1 s.2)
    (fun d s => step d s.1 s.2) d m.entries
  refine h.trans (or_congr_right ?_)
  simp only [Finmap.lookup_eq_some_iff]
  exact ⟨fun ⟨s, hs, hr⟩ => ⟨s.1, s.2, hs, hr⟩, fun ⟨a, b, hs, hr⟩ => ⟨⟨a, b⟩, hs, hr⟩⟩

/-- What is observed at one key after a loop over a dict depends on the item of that key
alone, when the items of other keys do not change it. -/
theorem finmap_foldl_at [DecidableEq α] {M : Type*} (f : δ → ∀ a, β a → δ)
    (comm : ∀ d a₁ b₁ a₂ b₂, f (f d a₁ b₁) a₂ b₂ = f (f d a₂ b₂) a₁ b₁)
    (g : δ → M) (key : α) (h : M → β key → M)
    (other : ∀ d a b, a ≠ key → g (f d a b) = g d)
    (step : ∀ d b, g (f d key b) = h (g d) b) (d : δ) (m : Finmap β) :
    g (m.foldl f comm d) = ((m.lookup key).map (h (g d))).getD (g d) := by
  induction m using Finmap.induction_on with
  | _ m =>
    obtain ⟨items, nodup⟩ := m
    change g (items.foldl (fun d s => f d s.1 s.2) d) =
      ((items.dlookup key).map (h (g d))).getD (g d)
    induction items generalizing d with
    | nil => rfl
    | cons item items ih =>
      obtain ⟨a, b⟩ := item
      obtain ⟨hfresh, nodup⟩ := List.nodupKeys_cons.mp nodup
      rw [List.foldl_cons, ih _ nodup]
      by_cases ha : a = key
      · subst ha
        rw [List.dlookup_cons_eq, List.dlookup_eq_none.mpr hfresh]
        exact step d b
      · rw [List.dlookup_cons_ne _ _ (Ne.symm ha)]
        simp only [other d a b ha]

theorem list_foldl_act {M W : Type*} [AddMonoid W] (act : M → W → M)
    (act_zero : ∀ m, act m 0 = m) (act_add : ∀ m v w, act (act m v) w = act m (v + w))
    (f : δ → α → δ) (g : δ → M) (w : α → W) (step : ∀ d x, g (f d x) = act (g d) (w x))
    (d : δ) (xs : List α) :
    g (xs.foldl f d) = act (g d) (xs.map w).sum := by
  induction xs generalizing d with
  | nil => simp [act_zero]
  | cons x xs ih => rw [List.foldl_cons, ih, step, List.map_cons, List.sum_cons, act_add]

theorem list_foldl_keep {M : Type*} (f : δ → α → δ) (g : δ → M)
    (step : ∀ d x, g (f d x) = g d) (d : δ) (xs : List α) : g (xs.foldl f d) = g d := by
  induction xs generalizing d with
  | nil => rfl
  | cons x xs ih => rw [List.foldl_cons, ih, step]

lemma mem_of_lookup [DecidableEq α] {γ : Type*} {entries : List (α × γ)} {key : α} {value : γ}
    (h : entries.lookup key = some value) : (key, value) ∈ entries := by
  obtain ⟨before, after, rfl, -⟩ := List.lookup_eq_some_iff.mp h
  simp

end SqliteReconcile.Loops
