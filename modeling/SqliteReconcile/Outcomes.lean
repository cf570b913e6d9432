import Mathlib

/-!
# Computations that may fail

When a computation in `Except` ends well, and what a loop of such computations does.
-/
namespace SqliteReconcile.Outcomes

variable {ε α β γ δ : Type}

@[simp] lemma ok_bind (a : α) (f : α → Except ε β) : Except.ok a >>= f = f a := rfl

@[simp] lemma error_bind (e : ε) (f : α → Except ε β) : Except.error e >>= f = .error e := rfl

@[simp] lemma map_ok (a : α) (f : α → β) : (Except.ok a : Except ε α).map f = .ok (f a) := rfl

@[simp] lemma map_error (e : ε) (f : α → β) : (Except.error e).map f = .error e := rfl

lemma bind_eq_ok {x : Except ε α} {f : α → Except ε β} {b : β} :
    x >>= f = .ok b ↔ ∃ a, x = .ok a ∧ f a = .ok b := by
  cases x with
  | error e => exact iff_of_false (fun h => by cases h) fun ⟨a, h, _⟩ => by cases h
  | ok a =>
    constructor
    · exact fun h => ⟨a, rfl, h⟩
    · rintro ⟨a', h, hf⟩
      cases h
      exact hf

lemma pure_eq_ok {a b : α} : (pure a : Except ε α) = .ok b ↔ a = b :=
  ⟨fun h => Except.ok.inj h, fun h => h ▸ rfl⟩

lemma map_eq_ok {x : Except ε α} {f : α → β} {b : β} :
    x.map f = .ok b ↔ ∃ a, x = .ok a ∧ f a = b := by
  cases x with
  | error e => exact iff_of_false (fun h => by cases h) fun ⟨a, h, _⟩ => by cases h
  | ok a =>
    constructor
    · exact fun h => ⟨a, rfl, Except.ok.inj h⟩
    · rintro ⟨a', h, hf⟩
      cases h
      exact congrArg Except.ok hf

lemma ite_eq_ok {p : Prop} [Decidable p] {x y : Except ε α} {a : α} :
    (if p then x else y) = .ok a ↔ p ∧ x = .ok a ∨ ¬ p ∧ y = .ok a := by
  by_cases h : p <;> simp [h]

lemma mapM_nil (f : α → Except ε β) : [].mapM f = .ok [] := rfl

lemma mapM_cons (f : α → Except ε β) (a : α) (l : List α) :
    (a :: l).mapM f = (do let b ← f a; let bs ← l.mapM f; return b :: bs) := List.mapM_cons

lemma foldlM_eq_mapM {step : γ → α → Except ε γ} {f : α → Except ε β} {act : γ → β → γ}
    (h : ∀ c a, step c a = (f a).map (act c)) (l : List α) (c : γ) :
    l.foldlM step c = (l.mapM f).map (List.foldl act c) := by
  induction l generalizing c with
  | nil => rfl
  | cons a l ih =>
    rw [List.foldlM_cons, mapM_cons, h]
    cases f a with
    | error e => rfl
    | ok b =>
      show l.foldlM step (act c b) = _
      rw [ih]
      cases l.mapM f with
      | error e => rfl
      | ok bs => rfl

lemma mapM_map (f : β → Except ε δ) (g : α → β) (l : List α) :
    (l.map g).mapM f = l.mapM (f ∘ g) := by
  induction l with
  | nil => rfl
  | cons a l ih => rw [List.map_cons, mapM_cons, mapM_cons, ih, Function.comp]

lemma mapM_congr {f g : α → Except ε β} {l : List α} (h : ∀ a ∈ l, f a = g a) :
    l.mapM f = l.mapM g := by
  induction l with
  | nil => rfl
  | cons a l ih =>
    rw [mapM_cons, mapM_cons, h a (by simp), ih fun a ha => h a (by simp [ha])]

lemma mapM_eq_ok {f : α → Except ε β} {l : List α} {bs : List β} :
    l.mapM f = .ok bs ↔ List.Forall₂ (fun a b => f a = .ok b) l bs := by
  induction l generalizing bs with
  | nil =>
    rw [mapM_nil]
    constructor
    · intro h
      cases h
      exact .nil
    · intro h
      cases h
      rfl
  | cons a l ih =>
    rw [mapM_cons, bind_eq_ok]
    simp only [bind_eq_ok, pure_eq_ok]
    constructor
    · rintro ⟨b, hb, bs', hbs, rfl⟩
      exact .cons hb (ih.mp hbs)
    · intro h
      cases h with
      | cons hb hbs => exact ⟨_, hb, _, ih.mpr hbs, rfl⟩

lemma exists_of_mem_mapM {f : α → Except ε β} {l : List α} {bs : List β} (h : l.mapM f = .ok bs)
    {b : β} (hb : b ∈ bs) : ∃ a ∈ l, f a = .ok b := by
  have hall := mapM_eq_ok.mp h
  induction hall with
  | nil => cases hb
  | cons hfirst hrest ih =>
    rcases List.mem_cons.mp hb with rfl | hb
    · exact ⟨_, List.mem_cons_self, hfirst⟩
    · obtain ⟨a, ha, hf⟩ := ih (mapM_eq_ok.mpr hrest) hb
      exact ⟨a, List.mem_cons_of_mem _ ha, hf⟩

lemma exists_result_of_mem {f : α → Except ε β} {l : List α} {bs : List β} (h : l.mapM f = .ok bs)
    {a : α} (ha : a ∈ l) : ∃ b ∈ bs, f a = .ok b := by
  have hall := mapM_eq_ok.mp h
  induction hall with
  | nil => cases ha
  | cons hfirst hrest ih =>
    rcases List.mem_cons.mp ha with rfl | ha
    · exact ⟨_, List.mem_cons_self, hfirst⟩
    · obtain ⟨b, hb, hf⟩ := ih (mapM_eq_ok.mpr hrest) ha
      exact ⟨b, List.mem_cons_of_mem _ hb, hf⟩

lemma exists_mapM_iff {f : α → Except ε β} {l : List α} :
    (∃ bs, l.mapM f = .ok bs) ↔ ∀ a ∈ l, ∃ b, f a = .ok b := by
  constructor
  · rintro ⟨bs, hbs⟩ a ha
    obtain ⟨b, -, hb⟩ := exists_result_of_mem hbs ha
    exact ⟨b, hb⟩
  · intro h
    induction l with
    | nil => exact ⟨[], rfl⟩
    | cons a l ih =>
      obtain ⟨b, hb⟩ := h a List.mem_cons_self
      obtain ⟨bs, hbs⟩ := ih fun a ha => h a (List.mem_cons_of_mem _ ha)
      exact ⟨b :: bs, by rw [mapM_cons, hb, ok_bind, hbs]; rfl⟩

lemma pairwise_of_mapM {f : α → Except ε β} {r : α → α → Prop} {s : β → β → Prop}
    (hrs : ∀ {a a' b b'}, f a = .ok b → f a' = .ok b' → r a a' → s b b') {l : List α} {bs : List β}
    (h : l.mapM f = .ok bs) (hl : l.Pairwise r) : bs.Pairwise s := by
  have hall := mapM_eq_ok.mp h
  induction hall with
  | nil => exact .nil
  | cons hfirst hrest ih =>
    obtain ⟨hhead, htail⟩ := List.pairwise_cons.mp hl
    refine List.pairwise_cons.mpr ⟨fun b hb => ?_, ih (mapM_eq_ok.mpr hrest) htail⟩
    obtain ⟨a, ha, hf⟩ := exists_of_mem_mapM (mapM_eq_ok.mpr hrest) hb
    exact hrs hfirst hf (hhead a ha)

end SqliteReconcile.Outcomes
