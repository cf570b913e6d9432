import Mathlib

/-!
# Savepoint stacks

A value with named snapshots of it, the innermost first. Names may repeat; a name means
its innermost savepoint.
-/
namespace SqliteReconcile.Savepoints

variable {ν σ : Type*} [DecidableEq ν]

structure Stack (ν σ : Type*) where
  current : σ
  saved : List (ν × σ)
  deriving DecidableEq

namespace Stack

def new (value : σ) : Stack ν σ := ⟨value, []⟩

def set (stack : Stack ν σ) (value : σ) : Stack ν σ := { stack with current := value }

def save (stack : Stack ν σ) (name : ν) : Stack ν σ :=
  { stack with saved := (name, stack.current) :: stack.saved }

/-- The innermost savepoint of a name, and the savepoints outside it. -/
def innermost (stack : Stack ν σ) (name : ν) : List (ν × σ) :=
  stack.saved.dropWhile (·.1 ≠ name)

/-- Forget the innermost savepoint of a name and every later one. -/
def release (stack : Stack ν σ) (name : ν) : Option (Stack ν σ) :=
  match stack.innermost name with
  | [] => none
  | _ :: outer => some { stack with saved := outer }

/-- Restore the innermost savepoint of a name, which stays open. -/
def rollbackTo (stack : Stack ν σ) (name : ν) : Option (Stack ν σ) :=
  match stack.innermost name with
  | [] => none
  | (found, snapshot) :: outer => some ⟨snapshot, (found, snapshot) :: outer⟩

lemma innermost_suffix (stack : Stack ν σ) (name : ν) :
    stack.innermost name <:+ stack.saved :=
  List.dropWhile_suffix _

lemma release_eq_some {stack released : Stack ν σ} {name : ν}
    (h : stack.release name = some released) :
    ∃ head, stack.innermost name = head :: released.saved ∧
      released.current = stack.current := by
  unfold release at h
  cases hs : stack.innermost name with
  | nil => simp [hs] at h
  | cons head outer =>
    simp only [hs, Option.some.injEq] at h
    subst h
    exact ⟨head, rfl, rfl⟩

lemma rollbackTo_eq_some {stack restored : Stack ν σ} {name : ν}
    (h : stack.rollbackTo name = some restored) :
    ∃ found outer, stack.innermost name = (found, restored.current) :: outer ∧
      restored.saved = (found, restored.current) :: outer := by
  unfold rollbackTo at h
  cases hs : stack.innermost name with
  | nil => simp [hs] at h
  | cons head outer =>
    obtain ⟨found, snapshot⟩ := head
    simp only [hs, Option.some.injEq] at h
    subst h
    exact ⟨found, outer, rfl, rfl⟩

end Stack

/-! Two stacks that are used alike keep related values at the same names. -/

variable {τ : Type*}

namespace Stack

/-- The same names are saved, and the values are related at each of them. -/
structure Related (R : σ → τ → Prop) (stack : Stack ν σ) (other : Stack ν τ) : Prop where
  current : R stack.current other.current
  saved : List.Forall₂ (fun s t => s.1 = t.1 ∧ R s.2 t.2) stack.saved other.saved

namespace Related

variable {R : σ → τ → Prop} {stack : Stack ν σ} {other : Stack ν τ} {name : ν}

omit [DecidableEq ν] in
lemma new {value : σ} {value' : τ} (h : R value value') :
    Related R (Stack.new value : Stack ν σ) (Stack.new value') :=
  ⟨h, .nil⟩

omit [DecidableEq ν] in
lemma set (h : Related R stack other) {value : σ} {value' : τ} (hvalue : R value value') :
    Related R (stack.set value) (other.set value') :=
  ⟨hvalue, h.saved⟩

omit [DecidableEq ν] in
lemma save (h : Related R stack other) (name : ν) : Related R (stack.save name) (other.save name) :=
  ⟨h.current, .cons ⟨rfl, h.current⟩ h.saved⟩

omit [DecidableEq ν] in
lemma names (h : Related R stack other) :
    stack.saved.map Prod.fst = other.saved.map Prod.fst := by
  rw [← List.forall₂_eq_eq_eq, List.forall₂_map_left_iff, List.forall₂_map_right_iff]
  exact h.saved.imp fun _ _ hst => hst.1

lemma innermost (h : Related R stack other) (name : ν) :
    List.Forall₂ (fun s t => s.1 = t.1 ∧ R s.2 t.2) (stack.innermost name)
      (other.innermost name) := by
  obtain ⟨current, saved⟩ := stack
  obtain ⟨current', saved'⟩ := other
  have hsaved : List.Forall₂ (fun s t => s.1 = t.1 ∧ R s.2 t.2) saved saved' := h.saved
  clear h
  simp only [Stack.innermost]
  induction hsaved with
  | nil => exact .nil
  | @cons s t saved saved' hhead htail ih =>
    by_cases hname : s.1 = name
    · rw [List.dropWhile_cons_of_neg (by simp [hname]),
        List.dropWhile_cons_of_neg (by simp [← hhead.1, hname])]
      exact .cons hhead htail
    · rw [List.dropWhile_cons_of_pos (by simp [hname]),
        List.dropWhile_cons_of_pos (by simp [← hhead.1, hname])]
      exact ih

lemma release (h : Related R stack other) {released : Stack ν σ}
    (hr : stack.release name = some released) :
    ∃ released', other.release name = some released' ∧ Related R released released' := by
  obtain ⟨head, hinner, hcurrent⟩ := Stack.release_eq_some hr
  have hrelated := h.innermost name
  rw [hinner] at hrelated
  cases hother : other.innermost name with
  | nil =>
    rw [hother] at hrelated
    cases hrelated
  | cons head' outer =>
    rw [hother] at hrelated
    refine ⟨{ other with saved := outer }, ?_, ?_, (List.forall₂_cons.mp hrelated).2⟩
    · simp [Stack.release, hother]
    · rw [hcurrent]
      exact h.current

lemma rollbackTo (h : Related R stack other) {restored : Stack ν σ}
    (hr : stack.rollbackTo name = some restored) :
    ∃ restored', other.rollbackTo name = some restored' ∧ Related R restored restored' := by
  obtain ⟨found, outer, hinner, hsaved⟩ := Stack.rollbackTo_eq_some hr
  have hrelated := h.innermost name
  rw [hinner] at hrelated
  cases hother : other.innermost name with
  | nil =>
    rw [hother] at hrelated
    cases hrelated
  | cons head' outer' =>
    rw [hother] at hrelated
    refine ⟨⟨head'.2, head' :: outer'⟩, ?_, (List.forall₂_cons.mp hrelated).1.2, ?_⟩
    · simp [Stack.rollbackTo, hother]
    · rw [hsaved]
      exact hrelated

end Related

end Stack

/-! A value that is only appended to. Every snapshot of it is then a prefix of the later ones,
so it is determined by its length. -/

variable {ε : Type*}

/-- Each snapshot is a prefix of the later snapshots and of the current value. -/
def Growing (stack : Stack ν (List ε)) : Prop :=
  (stack.current :: stack.saved.map Prod.snd).Pairwise fun inner outer => outer <+: inner

omit [DecidableEq ν] in
lemma growing_new (value : List ε) : Growing (Stack.new value : Stack ν (List ε)) := by
  simp [Growing, Stack.new]

namespace Growing

variable {stack : Stack ν (List ε)}

omit [DecidableEq ν] in
lemma prefix_current (h : Growing stack) {entry : ν × List ε} (he : entry ∈ stack.saved) :
    entry.2 <+: stack.current :=
  List.rel_of_pairwise_cons h (List.mem_map_of_mem he)

omit [DecidableEq ν] in
lemma save (h : Growing stack) (name : ν) : Growing (stack.save name) := by
  unfold Growing at h ⊢
  simp only [Stack.save, List.map_cons]
  refine List.pairwise_cons.mpr ⟨?_, h⟩
  intro snapshot hs
  rcases List.mem_cons.mp hs with hs | hs
  · rw [hs]
  · exact List.rel_of_pairwise_cons h hs

omit [DecidableEq ν] in
lemma append (h : Growing stack) (added : List ε) :
    Growing (stack.set (stack.current ++ added)) := by
  unfold Growing at h ⊢
  obtain ⟨hcurrent, hsaved⟩ := List.pairwise_cons.mp h
  refine List.pairwise_cons.mpr ⟨?_, hsaved⟩
  intro snapshot hs
  exact (hcurrent snapshot hs).trans (List.prefix_append _ _)

lemma release {released : Stack ν (List ε)} {name : ν} (h : Growing stack)
    (hr : stack.release name = some released) : Growing released := by
  obtain ⟨head, hinner, hcurrent⟩ := Stack.release_eq_some hr
  have hsuffix : released.saved.Sublist stack.saved := by
    have hs := stack.innermost_suffix name
    rw [hinner] at hs
    exact (List.sublist_cons_self head released.saved).trans hs.sublist
  unfold Growing at h ⊢
  rw [hcurrent]
  exact List.Pairwise.sublist ((hsuffix.map Prod.snd).cons_cons _) h

lemma rollbackTo {restored : Stack ν (List ε)} {name : ν} (h : Growing stack)
    (hr : stack.rollbackTo name = some restored) : Growing restored := by
  obtain ⟨found, outer, hinner, hsaved⟩ := Stack.rollbackTo_eq_some hr
  have hsuffix : restored.saved.Sublist stack.saved := by
    have hs := stack.innermost_suffix name
    rw [hinner, ← hsaved] at hs
    exact hs.sublist
  have hpair : (restored.saved.map Prod.snd).Pairwise fun inner outer => outer <+: inner :=
    List.Pairwise.sublist (hsuffix.map Prod.snd) (List.pairwise_cons.mp h).2
  unfold Growing
  refine List.pairwise_cons.mpr ⟨?_, hpair⟩
  intro snapshot hs
  rw [hsaved, List.map_cons] at hs hpair
  rcases List.mem_cons.mp hs with hs | hs
  · rw [hs]
  · exact List.rel_of_pairwise_cons hpair hs

end Growing

end SqliteReconcile.Savepoints
