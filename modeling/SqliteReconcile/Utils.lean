import SqliteReconcile.Loops

/-!
# Column maps

Table-to-column maps of the merge analysis. Python sets of columns are finite sets, and
a `dict[str, set[str]]` is a finite map, so that a loop over either is independent of
the iteration order. The name `*` stands for every column of a table.
-/
namespace SqliteReconcile.Utils

def allColumns : String := "*"

/-- A `dict[str, set[str]]`. -/
abbrev ColumnMap := Finmap fun _ : String => Finset String

/-- `columns_by_table.get(table, set())`. -/
def ColumnMap.columns (columnsByTable : ColumnMap) (table : String) : Finset String :=
  (columnsByTable.lookup table).getD ∅

/-- Add columns to a map entry, preserving `*` as all columns. -/
def addColumnsToColumnMap (columnsByTable : ColumnMap) (table : String)
    (columns : Finset String) : ColumnMap :=
  if columns = ∅ then columnsByTable
  else
    let existing := columnsByTable.columns table
    if allColumns ∈ existing then columnsByTable
    else if allColumns ∈ columns then columnsByTable.insert table {allColumns}
    else columnsByTable.insert table (existing ∪ columns)

def columnOverlap (left right : Finset String) : Finset String :=
  if left = ∅ ∨ right = ∅ then ∅
  else if allColumns ∈ left ∧ allColumns ∈ right then {allColumns}
  else if allColumns ∈ left then right
  else if allColumns ∈ right then left
  else left ∩ right

/-- The truth value of `column_overlap(left, right)`. -/
def Meets (left right : Finset String) : Prop := columnOverlap left right ≠ ∅

instance (left right : Finset String) : Decidable (Meets left right) :=
  inferInstanceAs (Decidable (_ ≠ _))

@[simp] lemma columns_empty (table : String) : ColumnMap.columns ∅ table = ∅ := by
  simp [ColumnMap.columns]

@[simp] lemma columns_insert (m : ColumnMap) (table : String) (columns : Finset String) :
    ColumnMap.columns (m.insert table columns) table = columns := by
  simp [ColumnMap.columns]

lemma columns_insert_ne (m : ColumnMap) {table other : String} (columns : Finset String)
    (h : other ≠ table) :
    ColumnMap.columns (m.insert table columns) other = m.columns other := by
  simp [ColumnMap.columns, Finmap.lookup_insert_of_ne _ h]

lemma columns_of_notMem {m : ColumnMap} {table : String} (h : table ∉ m) :
    m.columns table = ∅ := by
  simp [ColumnMap.columns, Finmap.lookup_eq_none.mpr h]

/-- Two column sets meet when both are inhabited and share a column, `*` matching any. -/
lemma meets_iff {left right : Finset String} :
    Meets left right ↔ left ≠ ∅ ∧ right ≠ ∅ ∧
      (allColumns ∈ left ∨ allColumns ∈ right ∨ ∃ c ∈ left, c ∈ right) := by
  unfold Meets columnOverlap
  by_cases hl : left = ∅
  · simp [hl]
  by_cases hr : right = ∅
  · simp [hr]
  by_cases al : allColumns ∈ left <;> by_cases ar : allColumns ∈ right <;>
    simp [hl, hr, al, ar, Finset.eq_empty_iff_forall_notMem]

lemma Meets.symm {left right : Finset String} (h : Meets left right) : Meets right left := by
  obtain ⟨hl, hr, hc⟩ := meets_iff.mp h
  refine meets_iff.mpr ⟨hr, hl, ?_⟩
  rcases hc with h | h | ⟨c, hl, hr⟩
  · exact .inr (.inl h)
  · exact .inl h
  · exact .inr (.inr ⟨c, hr, hl⟩)

lemma meets_comm {left right : Finset String} : Meets left right ↔ Meets right left :=
  ⟨Meets.symm, Meets.symm⟩

@[simp] lemma not_meets_empty (left : Finset String) : ¬ Meets left ∅ := by
  simp [meets_iff]

@[simp] lemma not_empty_meets (right : Finset String) : ¬ Meets ∅ right := by
  simp [meets_iff]

lemma Meets.mono {left left' right : Finset String} (h : Meets left right)
    (hs : left ⊆ left') : Meets left' right := by
  obtain ⟨hl, hr, hc⟩ := meets_iff.mp h
  refine meets_iff.mpr ⟨?_, hr, ?_⟩
  · obtain ⟨c, hc⟩ := Finset.nonempty_iff_ne_empty.mpr hl
    exact Finset.ne_empty_of_mem (hs hc)
  · rcases hc with h | h | ⟨c, hc, hr⟩
    · exact .inl (hs h)
    · exact .inr (.inl h)
    · exact .inr (.inr ⟨c, hs hc, hr⟩)

lemma union_meets {a b right : Finset String} :
    Meets (a ∪ b) right ↔ Meets a right ∨ Meets b right := by
  constructor
  · intro h
    obtain ⟨hl, hr, hc⟩ := meets_iff.mp h
    rcases hc with h | h | ⟨c, hc, hr'⟩
    · rcases Finset.mem_union.mp h with h | h
      · exact .inl (meets_iff.mpr ⟨Finset.ne_empty_of_mem h, hr, .inl h⟩)
      · exact .inr (meets_iff.mpr ⟨Finset.ne_empty_of_mem h, hr, .inl h⟩)
    · by_cases ha : a = ∅
      · refine .inr (meets_iff.mpr ⟨?_, hr, .inr (.inl h)⟩)
        simpa [ha] using hl
      · exact .inl (meets_iff.mpr ⟨ha, hr, .inr (.inl h)⟩)
    · rcases Finset.mem_union.mp hc with h | h
      · exact .inl (meets_iff.mpr ⟨Finset.ne_empty_of_mem h, hr, .inr (.inr ⟨c, h, hr'⟩)⟩)
      · exact .inr (meets_iff.mpr ⟨Finset.ne_empty_of_mem h, hr, .inr (.inr ⟨c, h, hr'⟩)⟩)
  · rintro (h | h)
    · exact h.mono Finset.subset_union_left
    · exact h.mono Finset.subset_union_right

lemma meets_iff_exists {left right : Finset String} :
    Meets left right ↔ ∃ c ∈ left, Meets {c} right := by
  induction left using Finset.induction_on with
  | empty => simp
  | insert c left _ ih => rw [Finset.insert_eq, union_meets, ih]; simp

/-- `{*}` overlaps exactly the inhabited sets. -/
@[simp] lemma allColumns_meets {right : Finset String} :
    Meets {allColumns} right ↔ right ≠ ∅ := by
  simp [meets_iff]

@[simp] lemma meets_allColumns {left : Finset String} :
    Meets left {allColumns} ↔ left ≠ ∅ := by
  rw [meets_comm, allColumns_meets]

lemma addColumns_meets (m : ColumnMap) (table other : String)
    (columns right : Finset String) :
    Meets ((addColumnsToColumnMap m table columns).columns other) right ↔
      Meets (m.columns other) right ∨ (other = table ∧ Meets columns right) := by
  unfold addColumnsToColumnMap
  by_cases hc : columns = ∅
  · simp [hc]
  by_cases ho : other = table
  · subst ho
    simp only [hc, if_false, true_and]
    by_cases he : allColumns ∈ m.columns other
    · simp only [he, if_true]
      refine ⟨.inl, fun h => h.elim id fun h => ?_⟩
      exact meets_iff.mpr ⟨Finset.ne_empty_of_mem he, (meets_iff.mp h).2.1, .inl he⟩
    by_cases ha : allColumns ∈ columns
    · simp only [he, ha, if_true, if_false, columns_insert, allColumns_meets]
      constructor
      · exact fun h => .inr (meets_iff.mpr ⟨hc, h, .inl ha⟩)
      · rintro (h | h) <;> exact (meets_iff.mp h).2.1
    · simp only [he, ha, if_false, columns_insert, union_meets]
  · simp only [ho, false_and, or_false]
    split_ifs <;> simp [columns_insert_ne _ _ ho]

lemma mem_addColumns (m : ColumnMap) (table other : String) (columns : Finset String) :
    other ∈ addColumnsToColumnMap m table columns ↔
      other ∈ m ∨ (other = table ∧ columns ≠ ∅) := by
  unfold addColumnsToColumnMap
  by_cases hc : columns = ∅
  · simp [hc]
  by_cases he : allColumns ∈ m.columns table
  · have hm : table ∈ m := by
      by_contra hn
      simp [columns_of_notMem hn] at he
    simp only [hc, he, if_false, if_true]
    refine ⟨.inl, fun h => h.elim id fun h => h.1 ▸ hm⟩
  · simp only [hc, he, if_false]
    split_ifs <;> simp [Finmap.mem_insert, hc, or_comm]

/-- Additions to a map commute, so a loop over the items of a dict has one result. -/
lemma addColumns_comm (m : ColumnMap) (t₁ : String) (c₁ : Finset String) (t₂ : String)
    (c₂ : Finset String) :
    addColumnsToColumnMap (addColumnsToColumnMap m t₁ c₁) t₂ c₂ =
      addColumnsToColumnMap (addColumnsToColumnMap m t₂ c₂) t₁ c₁ := by
  by_cases h₁ : c₁ = ∅
  · simp [addColumnsToColumnMap, h₁]
  by_cases h₂ : c₂ = ∅
  · simp [addColumnsToColumnMap, h₂]
  by_cases ht : t₁ = t₂
  · subst ht
    unfold addColumnsToColumnMap
    by_cases he : allColumns ∈ m.columns t₁
    · simp [h₁, h₂, he]
    by_cases a₁ : allColumns ∈ c₁ <;> by_cases a₂ : allColumns ∈ c₂ <;>
      simp [h₁, h₂, he, a₁, a₂, Finset.union_comm, Finset.union_left_comm]
  · unfold addColumnsToColumnMap
    simp only [h₁, h₂, if_false]
    split_ifs <;> simp_all [columns_insert_ne _ _ ht, columns_insert_ne _ _ (Ne.symm ht),
      Finmap.insert_insert_of_ne]

/-- Merge extra table/column entries into a map. -/
def addColumnsByTable (columnsByTable extra : ColumnMap) : ColumnMap :=
  extra.foldl addColumnsToColumnMap addColumns_comm columnsByTable

/-- The columns of an entry after others were added to it. -/
def mergeColumns (existing columns : Finset String) : Finset String :=
  if columns = ∅ ∨ allColumns ∈ existing then existing
  else if allColumns ∈ columns then {allColumns}
  else existing ∪ columns

lemma columns_addColumns (m : ColumnMap) (table other : String) (columns : Finset String) :
    (addColumnsToColumnMap m table columns).columns other =
      if other = table then mergeColumns (m.columns other) columns else m.columns other := by
  unfold addColumnsToColumnMap mergeColumns
  by_cases ho : other = table
  · subst ho
    by_cases hc : columns = ∅
    · simp [hc]
    · by_cases he : allColumns ∈ m.columns other
      · simp [hc, he]
      · by_cases ha : allColumns ∈ columns <;> simp [hc, he, ha]
  · simp only [ho, if_false]
    split_ifs <;> simp [columns_insert_ne _ _ ho]

theorem columns_addColumnsByTable (m extra : ColumnMap) (table : String) :
    (addColumnsByTable m extra).columns table =
      mergeColumns (m.columns table) (extra.columns table) := by
  have h := Loops.finmap_foldl_at addColumnsToColumnMap addColumns_comm
    (fun m => m.columns table) table mergeColumns
    (fun m t c ht => by simp [columns_addColumns, Ne.symm ht])
    (fun m c => by simp [columns_addColumns]) m extra
  refine h.trans ?_
  unfold ColumnMap.columns
  cases extra.lookup table with
  | none => simp [mergeColumns]
  | some c => simp

lemma exists_lookup_meets {m : ColumnMap} {table : String} {right : Finset String} :
    (∃ t c, m.lookup t = some c ∧ table = t ∧ Meets c right) ↔
      Meets (m.columns table) right := by
  unfold ColumnMap.columns
  cases h : m.lookup table with
  | none =>
    simp only [Option.getD_none, not_empty_meets, iff_false]
    rintro ⟨t, c, hl, rfl, -⟩
    simp [h] at hl
  | some c =>
    simp only [Option.getD_some]
    constructor
    · rintro ⟨t, c', hl, rfl, hm⟩
      obtain rfl := Option.some.inj (h.symm.trans hl)
      exact hm
    · exact fun hm => ⟨table, c, h, rfl, hm⟩

theorem addColumnsByTable_meets (m extra : ColumnMap) (table : String)
    (right : Finset String) :
    Meets ((addColumnsByTable m extra).columns table) right ↔
      Meets (m.columns table) right ∨ Meets (extra.columns table) right := by
  have h := Loops.finmap_foldl_iff addColumnsToColumnMap addColumns_comm
    (fun m => Meets (m.columns table) right) (fun t c => table = t ∧ Meets c right)
    (fun m t c => addColumns_meets m t table c right) m extra
  exact h.trans (or_congr_right exists_lookup_meets)

theorem mem_addColumnsByTable (m extra : ColumnMap) (table : String) :
    table ∈ addColumnsByTable m extra ↔ table ∈ m ∨ extra.columns table ≠ ∅ := by
  have h := Loops.finmap_foldl_iff addColumnsToColumnMap addColumns_comm
    (fun m => table ∈ m) (fun t c => table = t ∧ c ≠ ∅)
    (fun m t c => mem_addColumns m t table c) m extra
  refine h.trans (or_congr_right ?_)
  simpa using @exists_lookup_meets extra table {allColumns}

end SqliteReconcile.Utils
