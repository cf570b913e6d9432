import Mathlib

/-!
# Counters

A dict of counters that drops a key when its count falls to zero. Stored counts are
positive by type, so two dicts with the same counts are equal.
-/
namespace SqliteReconcile.Counters

/-- Positive counts by key. -/
abbrev Counter (κ : Type*) := Finmap fun _ : κ => ℕ+

namespace Counter

variable {κ : Type*} [DecidableEq κ]

def count (counts : Counter κ) (key : κ) : ℕ :=
  ((counts.lookup key).map PNat.val).getD 0

/-- Add `delta` to one count; a count that is not positive is dropped. -/
def adjust (delta : ℤ) (counts : Counter κ) (key : κ) : Counter κ :=
  let next := counts.count key + delta
  if h : next ≤ 0 then counts.erase key
  else counts.insert key (next.toNat.toPNat (by omega))

@[simp] lemma count_empty (key : κ) : count ∅ key = 0 := by
  simp [count]

lemma mem_iff_count {counts : Counter κ} {key : κ} : key ∈ counts ↔ 0 < counts.count key := by
  rw [Finmap.mem_iff]
  unfold count
  cases counts.lookup key with
  | none => simp
  | some n => simp

lemma eq_empty_iff {counts : Counter κ} : counts = ∅ ↔ ∀ key, key ∉ counts := by
  refine ⟨fun h key => h ▸ Finmap.notMem_empty, fun h => Finmap.ext_lookup fun key => ?_⟩
  rw [Finmap.lookup_eq_none.mpr (h key), Finmap.lookup_empty]

lemma ext {c₁ c₂ : Counter κ} (h : ∀ key, c₁.count key = c₂.count key) : c₁ = c₂ := by
  refine Finmap.ext_lookup fun key => ?_
  have hk := h key
  unfold count at hk
  cases h₁ : c₁.lookup key <;> cases h₂ : c₂.lookup key <;> simp only [h₁, h₂] at hk ⊢
  · exact absurd hk.symm (PNat.ne_zero _)
  · exact absurd hk (PNat.ne_zero _)
  · rw [PNat.coe_injective hk]

lemma count_erase (counts : Counter κ) (key other : κ) :
    count (counts.erase key) other = if other = key then 0 else counts.count other := by
  unfold count
  by_cases h : other = key
  · subst h
    simp [Finmap.lookup_erase]
  · simp [h, Finmap.lookup_erase_ne h]

lemma count_insert (counts : Counter κ) (key other : κ) (n : ℕ+) :
    count (counts.insert key n) other = if other = key then (n : ℕ) else counts.count other := by
  unfold count
  by_cases h : other = key
  · subst h
    simp [Finmap.lookup_insert]
  · simp [h, Finmap.lookup_insert_of_ne _ h]

lemma count_adjust (delta : ℤ) (counts : Counter κ) (key other : κ) :
    (counts.adjust delta key).count other =
      if other = key then (counts.count key + delta).toNat else counts.count other := by
  unfold adjust
  by_cases h : (counts.count key : ℤ) + delta ≤ 0
  · rw [dif_pos h, count_erase, Int.toNat_of_nonpos h]
  · rw [dif_neg h, count_insert]
    rfl

instance (delta : ℤ) : RightCommutative (adjust (κ := κ) delta) where
  right_comm counts a b := by
    by_cases h : a = b
    · rw [h]
    refine ext fun key => ?_
    simp only [count_adjust]
    split_ifs <;> simp_all

/-- Add `delta` to the count of every key of a set. -/
def adjustAll (delta : ℤ) (counts : Counter κ) (keys : Finset κ) : Counter κ :=
  keys.val.foldl (adjust delta) counts

lemma count_adjustAll (delta : ℤ) (counts : Counter κ) (keys : Finset κ) (key : κ) :
    (counts.adjustAll delta keys).count key =
      if key ∈ keys then (counts.count key + delta).toNat else counts.count key := by
  unfold adjustAll
  induction keys using Finset.induction_on generalizing counts with
  | empty => simp
  | insert a keys ha ih =>
    rw [Finset.insert_val_of_notMem ha, Multiset.foldl_cons, ih]
    by_cases hk : key = a
    · subst hk
      simp [ha, count_adjust]
    · simp [hk, count_adjust]

lemma adjustAll_comm (delta : ℤ) (counts : Counter κ) (keys₁ keys₂ : Finset κ) :
    (counts.adjustAll delta keys₁).adjustAll delta keys₂ =
      (counts.adjustAll delta keys₂).adjustAll delta keys₁ := by
  unfold adjustAll
  rw [← Multiset.foldl_add, ← Multiset.foldl_add, add_comm]

end Counter

/-- Counters by table; a table without counts is not listed. -/
abbrev CounterMap (τ κ : Type*) := Finmap fun _ : τ => { counts : Counter κ // counts ≠ ∅ }

namespace CounterMap

variable {κ τ : Type*} [DecidableEq τ]

def row (counts : CounterMap τ κ) (table : τ) : Counter κ :=
  ((counts.lookup table).map Subtype.val).getD ∅

@[simp] lemma row_empty (table : τ) : row (∅ : CounterMap τ κ) table = ∅ := by
  simp [row]

lemma row_erase (counts : CounterMap τ κ) (table other : τ) :
    row (counts.erase table) other = if other = table then ∅ else counts.row other := by
  unfold row
  by_cases h : other = table
  · subst h
    simp [Finmap.lookup_erase]
  · simp [h, Finmap.lookup_erase_ne h]

lemma row_insert (counts : CounterMap τ κ) (table other : τ)
    (tableCounts : { counts : Counter κ // counts ≠ ∅ }) :
    row (counts.insert table tableCounts) other =
      if other = table then tableCounts.1 else counts.row other := by
  unfold row
  by_cases h : other = table
  · subst h
    simp [Finmap.lookup_insert]
  · simp [h, Finmap.lookup_insert_of_ne _ h]

lemma mem_iff_row {counts : CounterMap τ κ} {table : τ} :
    table ∈ counts ↔ counts.row table ≠ ∅ := by
  rw [Finmap.mem_iff]
  unfold row
  cases counts.lookup table with
  | none => simp
  | some tableCounts => simpa using tableCounts.2

lemma ext {c₁ c₂ : CounterMap τ κ} (h : ∀ table, c₁.row table = c₂.row table) : c₁ = c₂ := by
  refine Finmap.ext_lookup fun table => ?_
  have ht := h table
  unfold row at ht
  cases h₁ : c₁.lookup table with
  | none => cases h₂ : c₂.lookup table with
    | none => rfl
    | some r₂ => exact absurd (by simpa [h₁, h₂] using ht.symm) r₂.2
  | some r₁ => cases h₂ : c₂.lookup table with
    | none => exact absurd (by simpa [h₁, h₂] using ht) r₁.2
    | some r₂ =>
      simp only [h₁, h₂] at ht
      rw [Subtype.ext ht]

variable [DecidableEq κ]

/-- Replace the counts of a table; a table left without counts is dropped. -/
def setRow (counts : CounterMap τ κ) (table : τ) (tableCounts : Counter κ) : CounterMap τ κ :=
  if h : tableCounts = ∅ then counts.erase table else counts.insert table ⟨tableCounts, h⟩

lemma row_setRow (counts : CounterMap τ κ) (table other : τ) (tableCounts : Counter κ) :
    (counts.setRow table tableCounts).row other =
      if other = table then tableCounts else counts.row other := by
  unfold setRow
  by_cases h : tableCounts = ∅
  · rw [dif_pos h, row_erase, h]
  · rw [dif_neg h, row_insert]

lemma setRow_comm {t₁ t₂ : τ} (h : t₁ ≠ t₂) (counts : CounterMap τ κ) (r₁ r₂ : Counter κ) :
    (counts.setRow t₁ r₁).setRow t₂ r₂ = (counts.setRow t₂ r₂).setRow t₁ r₁ := by
  refine ext fun table => ?_
  simp only [row_setRow]
  split_ifs with h₂ h₁ <;> first | rfl | exact absurd (h₁.symm.trans h₂) h

end CounterMap

end SqliteReconcile.Counters
