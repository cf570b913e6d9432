import SqliteReconcile.RemainingMetadata

/-! The index of a queue under edits and deletions, and check kinds of larger queues. -/
namespace SqliteReconcile.RemainingMetadata
open Utils Models CascadeMetadata SqlMetadata StaticAnalysis Counters RemainingMetadataIndex

variable {context : ConflictCheckContext}

lemma index_ext {i j : RemainingMetadataIndex}
    (hcounts : ∀ field table column, i.countAt field table column = j.countAt field table column)
    (hsize : i.transactionCount = j.transactionCount) : i = j := by
  have hfield : ∀ field, i.counts field = j.counts field := by
    intro field
    apply CounterMap.ext
    intro table
    apply Counter.ext
    exact hcounts field table
  obtain ⟨i₁, i₂, i₃, i₄, i₅, i₆, i₇⟩ := i
  obtain ⟨j₁, j₂, j₃, j₄, j₅, j₆, j₇⟩ := j
  have h₁ : i₁ = j₁ := hfield .referenced
  have h₂ : i₂ = j₂ := hfield .writeWrite
  have h₃ : i₃ = j₃ := hfield .createOrChangeKey
  have h₄ : i₄ = j₄ := hfield .removeOrChangeKey
  have h₅ : i₅ = j₅ := hfield .update
  have h₆ : i₆ = j₆ := hfield .omittedIntegerPrimaryKey
  have h₇ : i₇ = j₇ := hsize
  subst h₁ h₂ h₃ h₄ h₅ h₆ h₇
  rfl

lemma countAt_addTransaction (index : RemainingMetadataIndex) (transaction : LoggedTransaction)
    (field : CounterField) (table column : String) :
    (addTransaction context index transaction).countAt field table column =
      index.countAt field table column + transactionWeight context field table column transaction := by
  have h := countAt_updateTransaction index field table column (.inl rfl) context transaction
  have hcount : (addTransaction context index transaction).countAt field table column =
      (updateTransaction context 1 index transaction).countAt field table column := by
    cases field <;> rfl
  rw [hcount, h]
  simp only [shift]
  omega

lemma countAt_removeTransaction (index : RemainingMetadataIndex)
    (transaction : LoggedTransaction) (field : CounterField) (table column : String) :
    (removeTransaction context index transaction).countAt field table column =
      index.countAt field table column - transactionWeight context field table column transaction := by
  have h := countAt_updateTransaction index field table column (.inr rfl) context transaction
  have hcount : (removeTransaction context index transaction).countAt field table column =
      (updateTransaction context (-1) index transaction).countAt field table column := by
    cases field <;> rfl
  rw [hcount, h]
  simp only [shift]
  omega

lemma transactionCount_removeTransaction (index : RemainingMetadataIndex)
    (transaction : LoggedTransaction) :
    (removeTransaction context index transaction).transactionCount =
      index.transactionCount - 1 := by
  have h := Loops.list_foldl_keep (updateStatement context (-1)) (fun i => i.transactionCount)
    (transactionCount_updateStatement context (-1)) index transaction.statements
  simp only [removeTransaction, updateTransaction, h]

lemma transactionCount_fromTransactions (context : ConflictCheckContext)
    (transactions : List LoggedTransaction) :
    (fromTransactions context transactions).transactionCount = transactions.length := by
  have h := Loops.list_foldl_act (fun (n : ℤ) (k : ℕ) => n + k) (fun n => by simp)
    (fun n k l => by push_cast; ring) (addTransaction context) (fun i => i.transactionCount)
    (fun _ => 1) (fun i t => transactionCount_addTransaction context i t) new transactions
  refine h.trans ?_
  simp [new]

theorem removeTransaction_fromTransactions {transactions : List LoggedTransaction} {index : ℕ}
    {old : LoggedTransaction} (hold : transactions[index]? = some old) :
    (fromTransactions context transactions).removeTransaction context old =
      fromTransactions context (transactions.eraseIdx index) := by
  obtain ⟨hlt, heq⟩ := List.getElem?_eq_some_iff.mp hold
  have hperm : (old :: transactions.eraseIdx index).Perm transactions := by
    rw [← heq]
    exact List.getElem_cons_eraseIdx_perm hlt
  apply index_ext
  · intro field table column
    have hsum := (hperm.map (transactionWeight context field table column)).sum_eq
    rw [List.map_cons, List.sum_cons] at hsum
    rw [countAt_removeTransaction, countAt_fromTransactions, countAt_fromTransactions]
    omega
  · have hlength := hperm.length_eq
    rw [List.length_cons] at hlength
    rw [transactionCount_removeTransaction, transactionCount_fromTransactions,
      transactionCount_fromTransactions]
    omega

theorem addTransaction_fromTransactions {transactions : List LoggedTransaction} {index : ℕ}
    (hlt : index < transactions.length) (new : LoggedTransaction) :
    (fromTransactions context (transactions.eraseIdx index)).addTransaction context new =
      fromTransactions context (transactions.set index new) := by
  have hperm : (new :: transactions.eraseIdx index).Perm (transactions.set index new) := by
    have hset : index < (transactions.set index new).length := by
      rw [List.length_set]
      exact hlt
    have h := List.getElem_cons_eraseIdx_perm hset
    rwa [List.getElem_set_self, List.eraseIdx_set_eq] at h
  apply index_ext
  · intro field table column
    have hsum := (hperm.map (transactionWeight context field table column)).sum_eq
    rw [List.map_cons, List.sum_cons] at hsum
    rw [countAt_addTransaction, countAt_fromTransactions, countAt_fromTransactions]
    omega
  · have hlength := hperm.length_eq
    rw [List.length_cons] at hlength
    rw [transactionCount_addTransaction, transactionCount_fromTransactions,
      transactionCount_fromTransactions]
    omega

/-- Every overlap with the counters of `i` is one with those of `j`. -/
structure Covers (i j : RemainingMetadataIndex) : Prop where
  nonempty : ¬ i.isEmpty → ¬ j.isEmpty
  overlap : ∀ field table columns, columnCounterOverlap (i.counts field) table columns →
    columnCounterOverlap (j.counts field) table columns

lemma covers_fromTransactions {transactions more : List LoggedTransaction}
    (h : ∀ transaction ∈ transactions, transaction ∈ more) :
    Covers (fromTransactions context transactions) (fromTransactions context more) := by
  constructor
  · intro hne hempty
    rw [isEmpty_fromTransactions] at hne hempty
    subst hempty
    exact hne (List.eq_nil_iff_forall_not_mem.mpr fun t ht => List.not_mem_nil (h t ht))
  · intro field table columns hoverlap
    rw [columnCounterOverlap_fromTransactions] at hoverlap ⊢
    obtain ⟨transaction, ht, hstatement⟩ := hoverlap
    exact ⟨transaction, h transaction ht, hstatement⟩

lemma mem_of_columnCounterOverlap {counts : ColumnCountMap} {table : String}
    {columns : Finset String} (h : columnCounterOverlap counts table columns) :
    table ∈ counts := by
  obtain ⟨column, hcount, -⟩ := (columnCounterOverlap_iff counts table columns).mp h
  apply CounterMap.mem_iff_row.mpr
  intro hempty
  rw [hempty, Counter.count_empty] at hcount
  exact Nat.lt_irrefl 0 hcount

section
variable {i j : RemainingMetadataIndex} (h : Covers i j)
include h

lemma Covers.statementWriteWrite {metadata : StatementMetadata}
    (hi : statementWriteWriteConflictPossible i metadata) :
    statementWriteWriteConflictPossible j metadata := by
  have hww := h.overlap .writeWrite
  have hupdate := h.overlap .update
  unfold statementWriteWriteConflictPossible at hi ⊢
  rcases (Bool.or_eq_true _ _).mp hi with hdirect | hevent
  · apply (Bool.or_eq_true _ _).mpr
    left
    cases hk : metadata.statementKind <;> rw [hk] at hdirect
    · cases hdirect
    · exact hww _ _ hdirect
    · exact hupdate _ _ hdirect
    · cases hdirect
  · apply (Bool.or_eq_true _ _).mpr
    right
    obtain ⟨event, he, hpossible⟩ := List.any_eq_true.mp hevent
    refine List.any_eq_true.mpr ⟨event, he, ?_⟩
    unfold eventWriteWriteConflictPossible at hpossible ⊢
    cases hk : event.kind <;> rw [hk] at hpossible
    · exact hupdate _ _ hpossible
    · exact hww _ _ hpossible

lemma Covers.statementImplicit {metadata : StatementMetadata}
    (hi : statementImplicitInsertKeyConflictPossible context i metadata) :
    statementImplicitInsertKeyConflictPossible context j metadata := by
  have homitted := h.overlap .omittedIntegerPrimaryKey
  have hupdate := h.overlap .update
  unfold statementImplicitInsertKeyConflictPossible at hi ⊢
  cases hk : metadata.statementKind <;> rw [hk] at hi
  · simp only at hi ⊢
    split at hi
    · cases hi
    · cases hkey : omittedIntegerPrimaryKeyColumn context metadata with
      | none =>
        rw [hkey] at hi
        cases hi
      | some key =>
        rw [hkey] at hi
        have hover : columnCounterOverlap j.omittedIntegerPrimaryKeyCounts
            (requiredUpdatedTable metadata) {key} ∨
            columnCounterOverlap j.updateColumnCounts (requiredUpdatedTable metadata) {key} := by
          rcases (Bool.or_eq_true _ _).mp hi with hi | hi
          · exact .inl (homitted _ _ hi)
          · exact .inr (hupdate _ _ hi)
        rw [if_neg]
        · rcases hover with hover | hover
          · exact (Bool.or_eq_true _ _).mpr (.inl hover)
          · exact (Bool.or_eq_true _ _).mpr (.inr hover)
        · intro habsent
          rcases hover with hover | hover
          · exact habsent.1 (mem_of_columnCounterOverlap hover)
          · exact habsent.2 (mem_of_columnCounterOverlap hover)
  · exact homitted _ _ hi
  · cases hi
  · cases hi

lemma Covers.keyConstraint {current : LoggedTransaction}
    (hi : keyConstraintConflictPossibleWithIndex context current i) :
    keyConstraintConflictPossibleWithIndex context current j := by
  have hcreate := h.overlap .createOrChangeKey
  unfold keyConstraintConflictPossibleWithIndex at hi ⊢
  obtain ⟨table, htable, hkeys⟩ := of_decide_eq_true hi
  apply decide_eq_true
  refine ⟨table, htable, ?_⟩
  obtain ⟨keySet, hkeySet, hboth⟩ := List.any_eq_true.mp hkeys
  obtain ⟨hchange, hoverlap⟩ := (Bool.and_eq_true _ _).mp hboth
  exact List.any_eq_true.mpr ⟨keySet, hkeySet,
    (Bool.and_eq_true _ _).mpr ⟨hchange, hcreate _ _ hoverlap⟩⟩

lemma Covers.foreignKeyConstraint {current : LoggedTransaction}
    (hi : foreignKeyConstraintConflictPossibleWithIndex context current i) :
    foreignKeyConstraintConflictPossibleWithIndex context current j := by
  have hcreate := h.overlap .createOrChangeKey
  have hremove := h.overlap .removeOrChangeKey
  unfold foreignKeyConstraintConflictPossibleWithIndex at hi ⊢
  obtain ⟨table, htable, hedges⟩ := of_decide_eq_true hi
  apply decide_eq_true
  refine ⟨table, htable, ?_⟩
  rcases hedges with hedges | hedges
  · left
    obtain ⟨edge, hedge, hboth⟩ := List.any_eq_true.mp hedges
    obtain ⟨hchange, hoverlap⟩ := (Bool.and_eq_true _ _).mp hboth
    exact List.any_eq_true.mpr ⟨edge, hedge,
      (Bool.and_eq_true _ _).mpr ⟨hchange, hcreate _ _ hoverlap⟩⟩
  · right
    obtain ⟨edge, hedge, hboth⟩ := List.any_eq_true.mp hedges
    obtain ⟨hchange, hoverlap⟩ := (Bool.and_eq_true _ _).mp hboth
    exact List.any_eq_true.mpr ⟨edge, hedge,
      (Bool.and_eq_true _ _).mpr ⟨hchange, hremove _ _ hoverlap⟩⟩

/-- More remaining transactions ask for at least the same check kinds. -/
theorem Covers.kinds (current : LoggedTransaction) :
    remainingIndividualCheckKinds context current i ⊆
      remainingIndividualCheckKinds context current j := by
  intro kind hkind
  unfold remainingIndividualCheckKinds at hkind ⊢
  split at hkind
  · cases hkind
  · rename_i hne
    rw [if_neg (h.nonempty hne)]
    simp only [Finset.mem_union, mem_kindWhen] at hkind ⊢
    rcases hkind with ((⟨hww, hk⟩ | ⟨hwr, hk⟩) | ⟨himplicit, hk⟩) | ⟨hconstraint, hk⟩
    · refine .inl (.inl (.inl ⟨?_, hk⟩))
      obtain ⟨statement, hs, hpossible⟩ := List.any_eq_true.mp hww
      exact List.any_eq_true.mpr ⟨statement, hs, h.statementWriteWrite hpossible⟩
    · refine .inl (.inl (.inr ⟨?_, hk⟩))
      obtain ⟨table, htable, hoverlap⟩ := of_decide_eq_true hwr
      exact decide_eq_true ⟨table, htable, h.overlap .referenced _ _ hoverlap⟩
    · refine .inl (.inr ⟨?_, hk⟩)
      obtain ⟨statement, hs, hpossible⟩ := List.any_eq_true.mp himplicit
      exact List.any_eq_true.mpr ⟨statement, hs, h.statementImplicit hpossible⟩
    · refine .inr ⟨?_, hk⟩
      rcases (Bool.or_eq_true _ _).mp hconstraint with hkey | hforeign
      · exact (Bool.or_eq_true _ _).mpr (.inl (h.keyConstraint hkey))
      · exact (Bool.or_eq_true _ _).mpr (.inr (h.foreignKeyConstraint hforeign))

end

theorem kinds_subset {transactions : List LoggedTransaction} {other : LoggedTransaction}
    (h : other ∈ transactions) (current : LoggedTransaction) :
    remainingIndividualCheckKinds context current (fromTransactions context [other]) ⊆
      remainingIndividualCheckKinds context current (fromTransactions context transactions) := by
  apply Covers.kinds
  apply covers_fromTransactions
  intro transaction ht
  rw [List.mem_singleton.mp ht]
  exact h

end SqliteReconcile.RemainingMetadata
