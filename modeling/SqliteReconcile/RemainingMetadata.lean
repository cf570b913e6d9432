import SqliteReconcile.Counters
import SqliteReconcile.StaticAnalysis

/-! Counters over one branch's remaining transactions, and the check kinds they ask for. -/
namespace SqliteReconcile.RemainingMetadata
open Utils Models CascadeMetadata SqlMetadata StaticAnalysis Counters

/-- A `dict[str, dict[str, int]]`. -/
abbrev ColumnCountMap := CounterMap String String

structure RemainingMetadataIndex where
  tablesReferencedToColumnCounts : ColumnCountMap
  writeWriteColumnCounts : ColumnCountMap
  createOrChangeKeyColumnCounts : ColumnCountMap
  removeOrChangeKeyColumnCounts : ColumnCountMap
  updateColumnCounts : ColumnCountMap
  omittedIntegerPrimaryKeyCounts : ColumnCountMap
  transactionCount : ℤ

def updateColumnCounts (delta : ℤ) (countsByTable : ColumnCountMap) (table : String)
    (columns : Finset String) : ColumnCountMap :=
  countsByTable.setRow table ((countsByTable.row table).adjustAll delta columns)

lemma updateColumnCounts_comm (delta : ℤ) (counts : ColumnCountMap) (t₁ : String)
    (c₁ : Finset String) (t₂ : String) (c₂ : Finset String) :
    updateColumnCounts delta (updateColumnCounts delta counts t₁ c₁) t₂ c₂ =
      updateColumnCounts delta (updateColumnCounts delta counts t₂ c₂) t₁ c₁ := by
  unfold updateColumnCounts
  by_cases ht : t₁ = t₂
  · subst ht
    refine CounterMap.ext fun table => ?_
    simp only [CounterMap.row_setRow, if_true, Counter.adjustAll_comm delta _ c₁ c₂]
    split_ifs <;> rfl
  · simp only [CounterMap.row_setRow, if_neg ht, if_neg (Ne.symm ht),
      CounterMap.setRow_comm ht]

namespace RemainingMetadataIndex

def new : RemainingMetadataIndex := ⟨∅, ∅, ∅, ∅, ∅, ∅, 0⟩

def isEmpty (index : RemainingMetadataIndex) : Bool := index.transactionCount = 0

/-- Add or remove the explicit writes of one statement. -/
def updateDirectWrites (delta : ℤ) (index : RemainingMetadataIndex)
    (metadata : StatementMetadata) : RemainingMetadataIndex :=
  let table := requiredUpdatedTable metadata
  let columns := metadata.columnsUpdated
  match metadata.statementKind with
  | .insert =>
    { index with
      createOrChangeKeyColumnCounts :=
        RemainingMetadata.updateColumnCounts delta index.createOrChangeKeyColumnCounts table
          columns }
  | .update =>
    { index with
      writeWriteColumnCounts :=
        RemainingMetadata.updateColumnCounts delta index.writeWriteColumnCounts table columns
      createOrChangeKeyColumnCounts :=
        RemainingMetadata.updateColumnCounts delta index.createOrChangeKeyColumnCounts table
          columns
      removeOrChangeKeyColumnCounts :=
        RemainingMetadata.updateColumnCounts delta index.removeOrChangeKeyColumnCounts table
          columns
      updateColumnCounts :=
        RemainingMetadata.updateColumnCounts delta index.updateColumnCounts table columns }
  | .delete =>
    { index with
      writeWriteColumnCounts :=
        RemainingMetadata.updateColumnCounts delta index.writeWriteColumnCounts table columns
      removeOrChangeKeyColumnCounts :=
        RemainingMetadata.updateColumnCounts delta index.removeOrChangeKeyColumnCounts table
          columns }
  | .other => index

def updateReferences (delta : ℤ) (index : RemainingMetadataIndex)
    (metadata : StatementMetadata) : RemainingMetadataIndex :=
  { index with
    tablesReferencedToColumnCounts :=
      metadata.tablesReferencedToColumnsReferenced.foldl
        (RemainingMetadata.updateColumnCounts delta) (updateColumnCounts_comm delta)
        index.tablesReferencedToColumnCounts }

def updateCascadeWriteEvent (delta : ℤ) (index : RemainingMetadataIndex)
    (event : CascadeWriteEvent) : RemainingMetadataIndex :=
  let index :=
    { index with
      writeWriteColumnCounts :=
        RemainingMetadata.updateColumnCounts delta index.writeWriteColumnCounts event.table
          event.columns
      removeOrChangeKeyColumnCounts :=
        RemainingMetadata.updateColumnCounts delta index.removeOrChangeKeyColumnCounts
          event.table event.columns }
  if event.kind = .update then
    { index with
      createOrChangeKeyColumnCounts :=
        RemainingMetadata.updateColumnCounts delta index.createOrChangeKeyColumnCounts
          event.table event.columns
      updateColumnCounts :=
        RemainingMetadata.updateColumnCounts delta index.updateColumnCounts event.table
          event.columns }
  else index

def updateOmittedKey (context : ConflictCheckContext) (delta : ℤ)
    (index : RemainingMetadataIndex) (metadata : StatementMetadata) : RemainingMetadataIndex :=
  if metadata.statementKind = .insert then
    match omittedIntegerPrimaryKeyColumn context metadata with
    | none => index
    | some omittedKey =>
      { index with
        omittedIntegerPrimaryKeyCounts :=
          RemainingMetadata.updateColumnCounts delta index.omittedIntegerPrimaryKeyCounts
            (requiredUpdatedTable metadata) {omittedKey} }
  else index

def updateStatement (context : ConflictCheckContext) (delta : ℤ)
    (index : RemainingMetadataIndex) (statement : LoggedStatement) : RemainingMetadataIndex :=
  let metadata := statement.metadata
  let index := updateReferences delta (updateDirectWrites delta index metadata) metadata
  let index := metadata.cascadeWriteEvents.foldl (updateCascadeWriteEvent delta) index
  updateOmittedKey context delta index metadata

def updateTransaction (context : ConflictCheckContext) (delta : ℤ)
    (index : RemainingMetadataIndex) (transaction : LoggedTransaction) :
    RemainingMetadataIndex :=
  transaction.statements.foldl (updateStatement context delta) index

def addTransaction (context : ConflictCheckContext) (index : RemainingMetadataIndex)
    (transaction : LoggedTransaction) : RemainingMetadataIndex :=
  let index := updateTransaction context 1 index transaction
  { index with transactionCount := index.transactionCount + 1 }

def removeTransaction (context : ConflictCheckContext) (index : RemainingMetadataIndex)
    (transaction : LoggedTransaction) : RemainingMetadataIndex :=
  let index := updateTransaction context (-1) index transaction
  { index with transactionCount := index.transactionCount - 1 }

def fromTransactions (context : ConflictCheckContext) (transactions : List LoggedTransaction) :
    RemainingMetadataIndex :=
  transactions.foldl (addTransaction context) new

end RemainingMetadataIndex

def columnCounterOverlap (countsByTable : ColumnCountMap) (table : String)
    (columns : Finset String) : Bool :=
  let tableCounts := countsByTable.row table
  if tableCounts = ∅ ∨ columns = ∅ then false
  else if allColumns ∈ tableCounts then true
  else if allColumns ∈ columns then true
  else ∃ column ∈ columns, column ∈ tableCounts

def columnSetsOverlapCounter (columnsByTable : ColumnMap) (countsByTable : ColumnCountMap) :
    Bool :=
  ∃ table ∈ columnsByTable.keys, columnCounterOverlap countsByTable table
    (columnsByTable.columns table)

def eventWriteWriteConflictPossible (index : RemainingMetadataIndex)
    (event : CascadeWriteEvent) : Bool :=
  match event.kind with
  | .update => columnCounterOverlap index.writeWriteColumnCounts event.table event.columns
  | .delete => columnCounterOverlap index.updateColumnCounts event.table {allColumns}

def statementWriteWriteConflictPossible (index : RemainingMetadataIndex)
    (metadata : StatementMetadata) : Bool :=
  (match metadata.statementKind with
    | .update => columnCounterOverlap index.writeWriteColumnCounts
        (requiredUpdatedTable metadata) metadata.columnsUpdated
    | .delete => columnCounterOverlap index.updateColumnCounts
        (requiredUpdatedTable metadata) {allColumns}
    | _ => false) ||
  metadata.cascadeWriteEvents.any (eventWriteWriteConflictPossible index)

def writeWriteConflictPossible (current : LoggedTransaction)
    (index : RemainingMetadataIndex) : Bool :=
  current.statements.any fun statement =>
    statementWriteWriteConflictPossible index statement.metadata

def statementImplicitInsertKeyConflictPossible (context : ConflictCheckContext)
    (index : RemainingMetadataIndex) (metadata : StatementMetadata) : Bool :=
  let table := requiredUpdatedTable metadata
  match metadata.statementKind with
  | .update =>
    columnCounterOverlap index.omittedIntegerPrimaryKeyCounts table metadata.columnsUpdated
  | .insert =>
    if table ∉ index.omittedIntegerPrimaryKeyCounts ∧ table ∉ index.updateColumnCounts then
      false
    else match omittedIntegerPrimaryKeyColumn context metadata with
      | none => false
      | some omittedKey =>
        columnCounterOverlap index.omittedIntegerPrimaryKeyCounts table {omittedKey} ||
          columnCounterOverlap index.updateColumnCounts table {omittedKey}
  | _ => false

def implicitInsertKeyConflictPossible (context : ConflictCheckContext)
    (current : LoggedTransaction) (index : RemainingMetadataIndex) : Bool :=
  current.statements.any fun statement =>
    statementImplicitInsertKeyConflictPossible context index statement.metadata

def keyConstraintConflictPossibleWithIndex (context : ConflictCheckContext)
    (current : LoggedTransaction) (index : RemainingMetadataIndex) : Bool :=
  ∃ table ∈ current.metadata.tablesUpdatedToColumnsUpdated.keys,
    (context.keySets table).any fun keySet =>
      transactionMetadataMayCreateOrChangeKey current.metadata table keySet &&
        columnCounterOverlap index.createOrChangeKeyColumnCounts table keySet

def foreignKeyConstraintConflictPossibleWithIndex (context : ConflictCheckContext)
    (current : LoggedTransaction) (index : RemainingMetadataIndex) : Bool :=
  ∃ table ∈ current.metadata.tablesUpdatedToColumnsUpdated.keys,
    (foreignKeyEdgesByParent context table).any (fun edge =>
      transactionMetadataMayRemoveOrChangeKey current.metadata edge.parentTable
        edge.parentColumns.toFinset &&
      columnCounterOverlap index.createOrChangeKeyColumnCounts edge.childTable
        edge.childColumns.toFinset) ∨
    (foreignKeyEdgesByChild context table).any (fun edge =>
      transactionMetadataMayCreateOrChangeKey current.metadata edge.childTable
        edge.childColumns.toFinset &&
      columnCounterOverlap index.removeOrChangeKeyColumnCounts edge.parentTable
        edge.parentColumns.toFinset)

def constraintConflictPossibleWithIndex (context : ConflictCheckContext)
    (current : LoggedTransaction) (index : RemainingMetadataIndex) : Bool :=
  keyConstraintConflictPossibleWithIndex context current index ||
    foreignKeyConstraintConflictPossibleWithIndex context current index

def kindWhen (possible : Bool) (kind : ConflictKind) : Finset ConflictKind :=
  if possible then {kind} else ∅

/-- Individual check kinds needed by cached remaining metadata. -/
def remainingIndividualCheckKinds (context : ConflictCheckContext)
    (current : LoggedTransaction) (remainingOtherIndex : RemainingMetadataIndex) :
    Finset ConflictKind :=
  if remainingOtherIndex.isEmpty then ∅
  else
    kindWhen (writeWriteConflictPossible current remainingOtherIndex) .writeWrite ∪
    kindWhen (columnSetsOverlapCounter current.metadata.tablesUpdatedToColumnsUpdated
      remainingOtherIndex.tablesReferencedToColumnCounts) .writeRead ∪
    kindWhen (implicitInsertKeyConflictPossible context current remainingOtherIndex)
      .implicitInsertKey ∪
    kindWhen (constraintConflictPossibleWithIndex context current remainingOtherIndex)
      .integrity

@[simp] lemma mem_kindWhen {possible : Bool} {kind other : ConflictKind} :
    other ∈ kindWhen possible kind ↔ possible ∧ other = kind := by
  cases possible <;> simp [kindWhen]

section
variable {context : ConflictCheckContext} {current : LoggedTransaction}
  {index : RemainingMetadataIndex}

lemma writeWrite_mem_kinds :
    .writeWrite ∈ remainingIndividualCheckKinds context current index ↔
      ¬ index.isEmpty ∧ writeWriteConflictPossible current index := by
  unfold remainingIndividualCheckKinds
  split_ifs with h <;> simp [h]

end

inductive CounterField
  | referenced
  | writeWrite
  | createOrChangeKey
  | removeOrChangeKey
  | update
  | omittedIntegerPrimaryKey
  deriving DecidableEq

namespace RemainingMetadataIndex

def counts (index : RemainingMetadataIndex) : CounterField → ColumnCountMap
  | .referenced => index.tablesReferencedToColumnCounts
  | .writeWrite => index.writeWriteColumnCounts
  | .createOrChangeKey => index.createOrChangeKeyColumnCounts
  | .removeOrChangeKey => index.removeOrChangeKeyColumnCounts
  | .update => index.updateColumnCounts
  | .omittedIntegerPrimaryKey => index.omittedIntegerPrimaryKeyCounts

def countAt (index : RemainingMetadataIndex) (field : CounterField) (table column : String) : ℕ :=
  ((index.counts field).row table).count column

end RemainingMetadataIndex

open RemainingMetadataIndex

def directFields : StatementKind → List CounterField
  | .insert => [.createOrChangeKey]
  | .update => [.writeWrite, .createOrChangeKey, .removeOrChangeKey, .update]
  | .delete => [.writeWrite, .removeOrChangeKey]
  | .other => []

def eventFields : CascadeEventKind → List CounterField
  | .update => [.writeWrite, .createOrChangeKey, .removeOrChangeKey, .update]
  | .delete => [.writeWrite, .removeOrChangeKey]

def directWeight (metadata : StatementMetadata) (field : CounterField) (table column : String) :
    ℕ :=
  if field ∈ directFields metadata.statementKind ∧ table = requiredUpdatedTable metadata ∧
    column ∈ metadata.columnsUpdated then 1 else 0

def referenceWeight (metadata : StatementMetadata) (field : CounterField)
    (table column : String) : ℕ :=
  if field = .referenced ∧ column ∈ metadata.tablesReferencedToColumnsReferenced.columns table
  then 1 else 0

def eventWeight (field : CounterField) (table column : String) (event : CascadeWriteEvent) : ℕ :=
  if field ∈ eventFields event.kind ∧ table = event.table ∧ column ∈ event.columns then 1 else 0

def omittedKeyWeight (context : ConflictCheckContext) (metadata : StatementMetadata)
    (field : CounterField) (table column : String) : ℕ :=
  if field = .omittedIntegerPrimaryKey ∧ metadata.statementKind = .insert ∧
    table = requiredUpdatedTable metadata ∧
    omittedIntegerPrimaryKeyColumn context metadata = some column then 1 else 0

/-- How often one statement counts a column in a counter. -/
def statementWeight (context : ConflictCheckContext) (field : CounterField)
    (table column : String) (statement : LoggedStatement) : ℕ :=
  directWeight statement.metadata field table column +
    (referenceWeight statement.metadata field table column +
      ((statement.metadata.cascadeWriteEvents.map (eventWeight field table column)).sum +
        omittedKeyWeight context statement.metadata field table column))

def transactionWeight (context : ConflictCheckContext) (field : CounterField)
    (table column : String) (transaction : LoggedTransaction) : ℕ :=
  (transaction.statements.map (statementWeight context field table column)).sum

/-- A count moved `k` times by `delta`. -/
def shift (delta : ℤ) (n k : ℕ) : ℕ := (n + delta * k).toNat

@[simp] lemma shift_zero (delta : ℤ) (n : ℕ) : shift delta n 0 = n := by
  simp [shift]

lemma shift_shift {delta : ℤ} (h : delta = 1 ∨ delta = -1) (n k l : ℕ) :
    shift delta (shift delta n k) l = shift delta n (k + l) := by
  unfold shift
  rcases h with h | h <;> subst h <;> omega

lemma count_updateColumnCounts (delta : ℤ) (counts : ColumnCountMap) (table : String)
    (columns : Finset String) (t c : String) :
    ((updateColumnCounts delta counts table columns).row t).count c =
      shift delta ((counts.row t).count c) (if t = table ∧ c ∈ columns then 1 else 0) := by
  rw [updateColumnCounts, CounterMap.row_setRow]
  by_cases ht : t = table
  · subst ht
    simp only [if_true, Counter.count_adjustAll, true_and]
    split_ifs <;> simp [shift]
  · simp [ht]

section
variable {delta : ℤ} (index : RemainingMetadataIndex) (metadata : StatementMetadata)
  (field : CounterField) (table column : String)

lemma countAt_updateDirectWrites :
    (updateDirectWrites delta index metadata).countAt field table column =
      shift delta (index.countAt field table column)
        (directWeight metadata field table column) := by
  cases hk : metadata.statementKind <;> cases field <;>
    simp [updateDirectWrites, directWeight, directFields, countAt, counts, hk,
      count_updateColumnCounts]

lemma countAt_updateReferences :
    (updateReferences delta index metadata).countAt field table column =
      shift delta (index.countAt field table column)
        (referenceWeight metadata field table column) := by
  cases field with
  | referenced =>
    have h := Loops.finmap_foldl_at (updateColumnCounts delta) (updateColumnCounts_comm delta)
      (fun counts => (counts.row table).count column) table
      (fun n columns => shift delta n (if column ∈ columns then 1 else 0))
      (fun counts t columns ht => by simp [count_updateColumnCounts, Ne.symm ht])
      (fun counts columns => by simp [count_updateColumnCounts])
      index.tablesReferencedToColumnCounts metadata.tablesReferencedToColumnsReferenced
    refine h.trans ?_
    simp only [referenceWeight, ColumnMap.columns, true_and]
    cases metadata.tablesReferencedToColumnsReferenced.lookup table with
    | none => simp [countAt, counts]
    | some columns => simp [countAt, counts]
  | _ => simp [updateReferences, referenceWeight, countAt, counts]

lemma countAt_updateCascadeWriteEvent (event : CascadeWriteEvent) :
    (updateCascadeWriteEvent delta index event).countAt field table column =
      shift delta (index.countAt field table column)
        (eventWeight field table column event) := by
  cases hk : event.kind <;> cases field <;>
    simp [updateCascadeWriteEvent, eventWeight, eventFields, countAt, counts, hk,
      count_updateColumnCounts]

lemma countAt_updateOmittedKey (context : ConflictCheckContext) :
    (updateOmittedKey context delta index metadata).countAt field table column =
      shift delta (index.countAt field table column)
        (omittedKeyWeight context metadata field table column) := by
  unfold updateOmittedKey omittedKeyWeight
  by_cases hk : metadata.statementKind = .insert
  · cases ho : omittedIntegerPrimaryKeyColumn context metadata with
    | none => simp [hk]
    | some key =>
      cases field <;> simp [hk, countAt, counts, count_updateColumnCounts, eq_comm]
  · simp [hk]

lemma countAt_updateStatement (hdelta : delta = 1 ∨ delta = -1) (context : ConflictCheckContext)
    (statement : LoggedStatement) :
    (updateStatement context delta index statement).countAt field table column =
      shift delta (index.countAt field table column)
        (statementWeight context field table column statement) := by
  have hevents := Loops.list_foldl_act (shift delta) (shift_zero delta)
    (fun n k l => shift_shift hdelta n k l) (updateCascadeWriteEvent delta)
    (fun i => i.countAt field table column) (eventWeight field table column)
    (fun i e => countAt_updateCascadeWriteEvent i field table column e)
  simp only [updateStatement, countAt_updateOmittedKey, hevents, countAt_updateReferences,
    countAt_updateDirectWrites, shift_shift hdelta, statementWeight, add_assoc]

lemma countAt_updateTransaction (hdelta : delta = 1 ∨ delta = -1)
    (context : ConflictCheckContext) (transaction : LoggedTransaction) :
    (updateTransaction context delta index transaction).countAt field table column =
      shift delta (index.countAt field table column)
        (transactionWeight context field table column transaction) :=
  Loops.list_foldl_act (shift delta) (shift_zero delta)
    (fun n k l => shift_shift hdelta n k l) (updateStatement context delta)
    (fun i => i.countAt field table column) (statementWeight context field table column)
    (fun i s => countAt_updateStatement i field table column hdelta context s) index
    transaction.statements

end

/-- The index of a list of transactions counts what their statements weigh. -/
theorem countAt_fromTransactions (context : ConflictCheckContext)
    (transactions : List LoggedTransaction) (field : CounterField) (table column : String) :
    (fromTransactions context transactions).countAt field table column =
      (transactions.map (transactionWeight context field table column)).sum := by
  have h := Loops.list_foldl_act (fun n k : ℕ => n + k) (fun n => n.add_zero)
    (fun n k l => n.add_assoc k l) (addTransaction context)
    (fun i => i.countAt field table column) (transactionWeight context field table column)
    (fun i t => ?_) new transactions
  · refine h.trans ?_
    cases field <;> simp [countAt, counts, new]
  · have ht := countAt_updateTransaction i field table column (.inl rfl) context t
    refine Eq.trans ?_ (ht.trans ?_)
    · cases field <;> rfl
    · simp only [shift]
      omega

lemma transactionCount_updateStatement (context : ConflictCheckContext) (delta : ℤ)
    (index : RemainingMetadataIndex) (statement : LoggedStatement) :
    (updateStatement context delta index statement).transactionCount =
      index.transactionCount := by
  have hdirect : ∀ m, (updateDirectWrites delta index m).transactionCount =
      index.transactionCount := by
    intro m
    unfold updateDirectWrites
    cases m.statementKind <;> rfl
  have hevent : ∀ i e, (updateCascadeWriteEvent delta i e).transactionCount =
      i.transactionCount := by
    intro i e
    unfold updateCascadeWriteEvent
    cases e.kind <;> rfl
  have homitted : ∀ i m, (updateOmittedKey context delta i m).transactionCount =
      i.transactionCount := by
    intro i m
    unfold updateOmittedKey
    cases m.statementKind <;> cases omittedIntegerPrimaryKeyColumn context m <;> rfl
  have hevents := Loops.list_foldl_keep (updateCascadeWriteEvent delta)
    (fun i => i.transactionCount) hevent
  simp only [updateStatement, homitted, hevents, updateReferences, hdirect]

lemma transactionCount_addTransaction (context : ConflictCheckContext)
    (index : RemainingMetadataIndex) (transaction : LoggedTransaction) :
    (addTransaction context index transaction).transactionCount =
      index.transactionCount + 1 := by
  have h := Loops.list_foldl_keep (updateStatement context 1) (fun i => i.transactionCount)
    (transactionCount_updateStatement context 1) index transaction.statements
  simp only [addTransaction, updateTransaction, h]

theorem isEmpty_fromTransactions (context : ConflictCheckContext)
    (transactions : List LoggedTransaction) :
    (fromTransactions context transactions).isEmpty ↔ transactions = [] := by
  have h := Loops.list_foldl_act (fun (n : ℤ) (k : ℕ) => n + k) (fun n => by simp)
    (fun n k l => by push_cast; ring) (addTransaction context) (fun i => i.transactionCount)
    (fun _ => 1) (fun i t => transactionCount_addTransaction context i t) new transactions
  have hcount : (fromTransactions context transactions).transactionCount =
      (transactions.length : ℤ) := by
    refine h.trans ?_
    simp [new]
  simp [isEmpty, hcount]

/-- Whether one statement contributes a column of `table` that overlaps `columns` to a
counter. -/
def statementOverlaps (context : ConflictCheckContext) (field : CounterField) (table : String)
    (columns : Finset String) (metadata : StatementMetadata) : Prop :=
  (field ∈ directFields metadata.statementKind ∧ table = requiredUpdatedTable metadata ∧
    Meets metadata.columnsUpdated columns) ∨
  (field = .referenced ∧
    Meets (metadata.tablesReferencedToColumnsReferenced.columns table) columns) ∨
  (∃ event ∈ metadata.cascadeWriteEvents, field ∈ eventFields event.kind ∧
    table = event.table ∧ Meets event.columns columns) ∨
  (field = .omittedIntegerPrimaryKey ∧ metadata.statementKind = .insert ∧
    table = requiredUpdatedTable metadata ∧
    ∃ key, omittedIntegerPrimaryKeyColumn context metadata = some key ∧ Meets {key} columns)

lemma columnCounterOverlap_iff (counts : ColumnCountMap) (table : String)
    (columns : Finset String) :
    columnCounterOverlap counts table columns ↔
      ∃ column, 0 < (counts.row table).count column ∧ Meets {column} columns := by
  have hmem : ∀ column, 0 < (counts.row table).count column ↔
      column ∈ (counts.row table).keys :=
    fun column => Counter.mem_iff_count.symm.trans Finmap.mem_keys.symm
  simp only [hmem]
  rw [← meets_iff_exists, meets_iff]
  unfold columnCounterOverlap
  have hempty : counts.row table = ∅ ↔ (counts.row table).keys = ∅ := by
    rw [Counter.eq_empty_iff, Finset.eq_empty_iff_forall_notMem]
    simp only [Finmap.mem_keys]
  simp only [hempty, ← Finmap.mem_keys]
  split_ifs with he ha hc
  · simp only [false_iff]
    exact fun hl => he.elim hl.1 hl.2.1
  · simpa [ha] using he
  · simpa [hc] using he
  · simp only [ha, hc, false_or, decide_eq_true_eq]
    constructor
    · rintro ⟨c, hr, hl⟩
      exact ⟨fun h => he (.inl h), fun h => he (.inr h), c, hl, hr⟩
    · rintro ⟨-, -, c, hl, hr⟩
      exact ⟨c, hr, hl⟩

lemma statementWeight_meets (context : ConflictCheckContext) (field : CounterField)
    (table : String) (columns : Finset String) (statement : LoggedStatement) :
    (∃ column, 0 < statementWeight context field table column statement ∧
        Meets {column} columns) ↔
      statementOverlaps context field table columns statement.metadata := by
  have hevents : ∀ column, 0 < ((statement.metadata.cascadeWriteEvents.map
      (eventWeight field table column)).sum) ↔ ∃ event ∈ statement.metadata.cascadeWriteEvents,
        field ∈ eventFields event.kind ∧ table = event.table ∧ column ∈ event.columns := by
    intro column
    simp [Nat.pos_iff_ne_zero, List.sum_eq_zero_iff, eventWeight]
  have hpos : ∀ column, 0 < statementWeight context field table column statement ↔
      (field ∈ directFields statement.metadata.statementKind ∧
        table = requiredUpdatedTable statement.metadata ∧
        column ∈ statement.metadata.columnsUpdated) ∨
      (field = .referenced ∧
        column ∈ statement.metadata.tablesReferencedToColumnsReferenced.columns table) ∨
      (∃ event ∈ statement.metadata.cascadeWriteEvents, field ∈ eventFields event.kind ∧
        table = event.table ∧ column ∈ event.columns) ∨
      (field = .omittedIntegerPrimaryKey ∧ statement.metadata.statementKind = .insert ∧
        table = requiredUpdatedTable statement.metadata ∧
        omittedIntegerPrimaryKeyColumn context statement.metadata = some column) := by
    intro column
    have hite : ∀ (p : Prop) [Decidable p], 0 < (if p then 1 else 0) ↔ p := by
      intro p _
      by_cases hp : p <;> simp [hp]
    simp only [statementWeight, directWeight, referenceWeight, omittedKeyWeight,
      Nat.add_pos_iff_pos_or_pos, hite, hevents]
  simp only [hpos, statementOverlaps, or_and_right, exists_or]
  refine or_congr ?_ (or_congr ?_ (or_congr ?_ ?_))
  · rw [meets_iff_exists]
    tauto
  · rw [meets_iff_exists]
    tauto
  · constructor
    · rintro ⟨column, ⟨event, he, hf, ht, hc⟩, hm⟩
      exact ⟨event, he, hf, ht, meets_iff_exists.mpr ⟨column, hc, hm⟩⟩
    · rintro ⟨event, he, hf, ht, hm⟩
      obtain ⟨column, hc, hm⟩ := meets_iff_exists.mp hm
      exact ⟨column, ⟨event, he, hf, ht, hc⟩, hm⟩
  · tauto

/-- A counter of the index overlaps a column set exactly when some remaining statement
contributes an overlapping column to it. -/
theorem columnCounterOverlap_fromTransactions (context : ConflictCheckContext)
    (transactions : List LoggedTransaction) (field : CounterField) (table : String)
    (columns : Finset String) :
    columnCounterOverlap ((fromTransactions context transactions).counts field) table columns ↔
      ∃ transaction ∈ transactions, ∃ statement ∈ transaction.statements,
        statementOverlaps context field table columns statement.metadata := by
  rw [columnCounterOverlap_iff]
  have hcount : ∀ column,
      0 < (((fromTransactions context transactions).counts field).row table).count column ↔
        ∃ transaction ∈ transactions, ∃ statement ∈ transaction.statements,
          0 < statementWeight context field table column statement := by
    intro column
    have h := countAt_fromTransactions context transactions field table column
    unfold countAt at h
    rw [h]
    simp [transactionWeight, List.sum_pos_iff_exists_pos_nat]
  simp only [hcount, ← statementWeight_meets]
  constructor
  · rintro ⟨column, ⟨transaction, ht, statement, hs, hw⟩, hm⟩
    exact ⟨transaction, ht, statement, hs, column, hw, hm⟩
  · rintro ⟨transaction, ht, statement, hs, column, hw, hm⟩
    exact ⟨column, ⟨transaction, ht, statement, hs, hw⟩, hm⟩

end SqliteReconcile.RemainingMetadata
