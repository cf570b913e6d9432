import Mathlib

/-!
# Programs with state and exceptions

An exception keeps the state that the program reached. `Moves` says where a program can
lead, whether it returns or raises.
-/
namespace SqliteReconcile.Programs

universe u

variable {ε σ α β : Type u}

def final : EStateM.Result ε σ α → σ
  | .ok _ s => s
  | .error _ s => s

@[simp] lemma final_ok (a : α) (s : σ) : final (.ok a s : EStateM.Result ε σ α) = s := rfl

@[simp] lemma final_error (e : ε) (s : σ) :
    final (.error e s : EStateM.Result ε σ α) = s := rfl

def returned : EStateM.Result ε σ α → Option α
  | .ok a _ => some a
  | .error .. => none

lemma ok_of_returned {result : EStateM.Result ε σ α} {a : α} (h : returned result = some a) :
    result = .ok a (final result) := by
  cases result with
  | ok a' s =>
    cases h
    rfl
  | error e s => cases h

/-- Run `cleanup` after `body`, also when it raises. An exception of `cleanup` wins. -/
def withCleanup (body : EStateM ε σ α) (cleanup : EStateM ε σ PUnit) : EStateM ε σ α := fun s =>
  match body s with
  | .ok a s' => match cleanup s' with
    | .ok _ s'' => .ok a s''
    | .error e s'' => .error e s''
  | .error e s' => match cleanup s' with
    | .ok _ s'' => .error e s''
    | .error e' s'' => .error e' s''

/-- Run `handler` on an exception of `body`. -/
def catching (body : EStateM ε σ α) (handler : ε → EStateM ε σ α) : EStateM ε σ α := fun s =>
  match body s with
  | .ok a s' => .ok a s'
  | .error e s' => handler e s'

/-- Every run leads along `R`. -/
def Moves (R : σ → σ → Prop) (x : EStateM ε σ α) : Prop := ∀ s, R s (final (x s))

section Rules

variable {R : σ → σ → Prop} {x : EStateM ε σ α} {f : α → EStateM ε σ β} {s s' : σ} {a : α}
  {b : β} {e : ε}

lemma Moves.ok (h : Moves R x) (hx : x s = .ok a s') : R s s' := by
  have hs := h s
  rwa [hx] at hs

lemma Moves.error (h : Moves R x) (hx : x s = .error e s') : R s s' := by
  have hs := h s
  rwa [hx] at hs

lemma Moves.mono {R' : σ → σ → Prop} (h : Moves R x) (hle : ∀ s s', R s s' → R' s s') :
    Moves R' x :=
  fun s => hle s _ (h s)

lemma moves_pure [Std.Refl R] (a : α) : Moves R (pure a : EStateM ε σ α) :=
  fun s => Std.Refl.refl s

lemma moves_throw [Std.Refl R] (e : ε) : Moves R (throw e : EStateM ε σ α) :=
  fun s => Std.Refl.refl s

lemma Moves.bind [IsTrans σ R] (hx : Moves R x) (hf : ∀ a, Moves R (f a)) :
    Moves R (x >>= f) := by
  intro s
  change R s (final (EStateM.bind x f s))
  unfold EStateM.bind
  cases hrun : x s with
  | ok a s' => exact IsTrans.trans _ _ _ (hx.ok hrun) (hf a s')
  | error e s' => exact hx.error hrun

lemma Moves.catching [IsTrans σ R] {handler : ε → EStateM ε σ α} (hx : Moves R x)
    (hh : ∀ e, Moves R (handler e)) : Moves R (catching x handler) := by
  intro s
  unfold Programs.catching
  cases hrun : x s with
  | ok a s' => exact hx.ok hrun
  | error e s' => exact IsTrans.trans _ _ _ (hx.error hrun) (hh e s')

lemma Moves.withCleanup [IsTrans σ R] {cleanup : EStateM ε σ PUnit} (hx : Moves R x)
    (hc : Moves R cleanup) : Moves R (withCleanup x cleanup) := by
  intro s
  unfold Programs.withCleanup
  cases hrun : x s with
  | ok a s' =>
    have hfirst := hx.ok hrun
    cases hclean : cleanup s' with
    | ok u s'' => simpa [hclean] using IsTrans.trans _ _ _ hfirst (hc.ok hclean)
    | error e s'' => simpa [hclean] using IsTrans.trans _ _ _ hfirst (hc.error hclean)
  | error e s' =>
    have hfirst := hx.error hrun
    cases hclean : cleanup s' with
    | ok u s'' => simpa [hclean] using IsTrans.trans _ _ _ hfirst (hc.ok hclean)
    | error e s'' => simpa [hclean] using IsTrans.trans _ _ _ hfirst (hc.error hclean)

/-! Runs that return. -/

lemma ok_of_bind {t : σ} (h : (x >>= f) s = .ok b t) :
    ∃ a s', x s = .ok a s' ∧ f a s' = .ok b t := by
  change EStateM.bind x f s = .ok b t at h
  unfold EStateM.bind at h
  cases hrun : x s with
  | ok a s' =>
    rw [hrun] at h
    exact ⟨a, s', rfl, h⟩
  | error e s' =>
    rw [hrun] at h
    cases h

lemma error_of_bind {t : σ} (h : (x >>= f) s = .error e t) :
    x s = .error e t ∨ ∃ a s', x s = .ok a s' ∧ f a s' = .error e t := by
  change EStateM.bind x f s = .error e t at h
  unfold EStateM.bind at h
  cases hrun : x s with
  | ok a s' =>
    rw [hrun] at h
    exact .inr ⟨a, s', rfl, h⟩
  | error e' s' =>
    rw [hrun] at h
    cases h
    exact .inl rfl

lemma bind_ok (hx : x s = .ok a s') : (x >>= f) s = f a s' := by
  change EStateM.bind x f s = f a s'
  unfold EStateM.bind
  rw [hx]

lemma bind_error (hx : x s = .error e s') : (x >>= f) s = .error e s' := by
  change EStateM.bind x f s = .error e s'
  unfold EStateM.bind
  rw [hx]

@[simp] lemma throw_apply (e : ε) (s : σ) : (throw e : EStateM ε σ α) s = .error e s := rfl

end Rules

end SqliteReconcile.Programs
