import SqliteReconcile.CascadeMetadata

/-! Statement metadata from a parsed statement, and its aggregation over a transaction. -/
namespace SqliteReconcile.SqlMetadata
open Utils Models CascadeMetadata

/-- UPDATE assignment names; other statements write `*`. Only an assignment whose left
side is a single column contributes. -/
def updatedColumns (parsed : ParsedStatement) : Finset String :=
  if parsed.statementKind ≠ .update then {allColumns}
  else (parsed.assignments.filterMap fun assignment =>
    match assignment with
    | .column name => some name
    | .row _ | .comparison _ => none).toFinset

/-- The explicit write map of one parsed DML statement. -/
def writtenTablesToColumns (statementKind : StatementKind) (table : Option String)
    (columns : Finset String) : ColumnMap :=
  match statementKind, table with
  | .other, _ => ∅
  | _, some table => (∅ : ColumnMap).insert table columns
  | _, none => ∅

def isReviewableConflictResolution (resolution : Option SQLiteConflictResolution) : Bool :=
  match resolution with
  | none => false
  | some resolution => resolution.algorithm = .ignore ∨ resolution.algorithm = .replace

/-- Foreign-key cascade metadata, when schema context is available. -/
def cascadeEffectsForMetadata (metadataContext : Option ConflictCheckContext)
    (statementKind : StatementKind) (tableUpdated : Option String)
    (columnsUpdated : Finset String) : CascadeEffects :=
  match metadataContext, statementKind with
  | some context, .delete =>
    cascadeEffectsForParsedStatement context .delete (tableUpdated.getD "") columnsUpdated
  | some context, .update =>
    cascadeEffectsForParsedStatement context .update (tableUpdated.getD "") columnsUpdated
  | _, _ => .none

def parseStatementMetadata (metadataContext : Option ConflictCheckContext)
    (compatible : CompatibleSQL) (parsed : ParsedStatement) : StatementMetadata :=
  let columnsUpdated := updatedColumns parsed
  let updated := writtenTablesToColumns parsed.statementKind parsed.target columnsUpdated
  let cascade := cascadeEffectsForMetadata metadataContext parsed.statementKind parsed.target
    columnsUpdated
  { parsedSqlText := parsed
    compatibleSql := compatible
    statementKind := parsed.statementKind
    conflictResolution := compatible.conflictResolution
    hasReviewableConstraintResolution :=
      compatible.strippedUpsert || isReviewableConflictResolution compatible.conflictResolution
    tableUpdated := parsed.target
    columnsUpdated := columnsUpdated
    tablesUpdatedToColumnsUpdated :=
      if cascade.hasEffects then
        addColumnsByTable updated cascade.tablesUpdatedToColumnsUpdated
      else updated
    tablesReferencedToColumnsReferenced :=
      if cascade.hasEffects then
        addColumnsByTable parsed.references cascade.tablesReferencedToColumnsReferenced
      else parsed.references
    cascadeWriteEvents := cascade.writeEvents
    hasCascadeEffects := cascade.hasEffects }

/-- Parse using the merge schema/FK context. -/
def parseStatementMetadataForContext (context : ConflictCheckContext)
    (compatible : CompatibleSQL) (parsed : ParsedStatement) : StatementMetadata :=
  parseStatementMetadata (some context) compatible parsed

/-- `updated[table].update(columns)` on a default dict. -/
def unionColumns (columnsByTable : ColumnMap) (table : String) (columns : Finset String) :
    ColumnMap :=
  columnsByTable.insert table (columnsByTable.columns table ∪ columns)

lemma unionColumns_comm (m : ColumnMap) (t₁ : String) (c₁ : Finset String) (t₂ : String)
    (c₂ : Finset String) :
    unionColumns (unionColumns m t₁ c₁) t₂ c₂ = unionColumns (unionColumns m t₂ c₂) t₁ c₁ := by
  by_cases ht : t₁ = t₂
  · subst ht
    simp [unionColumns, Finset.union_comm, Finset.union_left_comm]
  · simp [unionColumns, columns_insert_ne _ _ ht, columns_insert_ne _ _ (Ne.symm ht),
      Finmap.insert_insert_of_ne _ ht]

def unionColumnMaps (columnsByTable extra : ColumnMap) : ColumnMap :=
  extra.foldl unionColumns unionColumns_comm columnsByTable

def transactionMetadata (statements : List StatementMetadata) : TransactionMetadata where
  statements := statements
  hasInsert := statements.any (·.statementKind = .insert)
  hasUpdate := statements.any (·.statementKind = .update)
  hasDelete := statements.any (·.statementKind = .delete)
  tablesUpdatedToColumnsUpdated :=
    statements.foldl (fun m s => unionColumnMaps m s.tablesUpdatedToColumnsUpdated) ∅
  tablesReferencedToColumnsReferenced :=
    statements.foldl (fun m s => unionColumnMaps m s.tablesReferencedToColumnsReferenced) ∅
  cascadeWriteEvents := statements.flatMap (·.cascadeWriteEvents)
  hasCascadeEffects := statements.any (·.hasCascadeEffects)

def transactionWithStatements (transaction : LoggedTransaction)
    (statements : List LoggedStatement) : LoggedTransaction :=
  { transaction with
    statements := statements
    metadata := transactionMetadata (statements.map (·.metadata)) }

theorem columns_unionColumnMaps (m extra : ColumnMap) (table : String) :
    (unionColumnMaps m extra).columns table = m.columns table ∪ extra.columns table := by
  have h := Loops.finmap_foldl_at unionColumns unionColumns_comm (fun m => m.columns table)
    table (fun existing columns => existing ∪ columns)
    (fun m t c ht => by simp [unionColumns, columns_insert_ne _ _ (Ne.symm ht)])
    (fun m c => by simp [unionColumns]) m extra
  refine h.trans ?_
  unfold ColumnMap.columns
  cases extra.lookup table <;> simp

theorem unionColumnMaps_meets (m extra : ColumnMap) (table : String) (right : Finset String) :
    Meets ((unionColumnMaps m extra).columns table) right ↔
      Meets (m.columns table) right ∨ Meets (extra.columns table) right := by
  rw [columns_unionColumnMaps, union_meets]

theorem mem_unionColumnMaps (m extra : ColumnMap) (table : String) :
    table ∈ unionColumnMaps m extra ↔ table ∈ m ∨ table ∈ extra := by
  have h := Loops.finmap_foldl_iff unionColumns unionColumns_comm
    (fun m => table ∈ m) (fun t _ => table = t)
    (fun m t c => by simp [unionColumns, Finmap.mem_insert, or_comm]) m extra
  refine h.trans (or_congr_right ?_)
  rw [Finmap.mem_iff]
  exact ⟨fun ⟨t, c, hl, ht⟩ => ⟨c, ht ▸ hl⟩, fun ⟨c, hl⟩ => ⟨table, c, hl, rfl⟩⟩

theorem transactionMetadata_updated_meets (statements : List StatementMetadata) (table : String)
    (right : Finset String) :
    Meets ((transactionMetadata statements).tablesUpdatedToColumnsUpdated.columns table) right ↔
      ∃ s ∈ statements, Meets (s.tablesUpdatedToColumnsUpdated.columns table) right := by
  have h := Loops.list_foldl_iff
    (fun m (s : StatementMetadata) => unionColumnMaps m s.tablesUpdatedToColumnsUpdated)
    (fun m => Meets (m.columns table) right) _
    (fun m s => unionColumnMaps_meets m s.tablesUpdatedToColumnsUpdated table right) ∅ statements
  simpa [transactionMetadata] using h

theorem transactionMetadata_referenced_meets (statements : List StatementMetadata)
    (table : String) (right : Finset String) :
    Meets ((transactionMetadata statements).tablesReferencedToColumnsReferenced.columns table)
      right ↔
      ∃ s ∈ statements, Meets (s.tablesReferencedToColumnsReferenced.columns table) right := by
  have h := Loops.list_foldl_iff
    (fun m (s : StatementMetadata) => unionColumnMaps m s.tablesReferencedToColumnsReferenced)
    (fun m => Meets (m.columns table) right) _
    (fun m s => unionColumnMaps_meets m s.tablesReferencedToColumnsReferenced table right)
    ∅ statements
  simpa [transactionMetadata] using h

/-- Metadata that the parser produced in a context. -/
def ParsedIn (context : ConflictCheckContext) (metadata : StatementMetadata) : Prop :=
  ∃ compatible parsed, metadata = parseStatementMetadataForContext context compatible parsed

/-- A logged transaction whose statements were parsed in a context, and whose metadata is
the aggregate of theirs. -/
structure TransactionParsedIn (context : ConflictCheckContext)
    (transaction : LoggedTransaction) : Prop where
  statements : ∀ s ∈ transaction.statements, ParsedIn context s.metadata
  metadata : transaction.metadata = transactionMetadata (transaction.statements.map (·.metadata))

lemma ParsedIn.table {context : ConflictCheckContext} {metadata : StatementMetadata}
    (h : ParsedIn context metadata) :
    metadata.tableUpdated.isSome ↔ metadata.statementKind ≠ .other := by
  obtain ⟨compatible, parsed, rfl⟩ := h
  exact parsed.target_isSome

lemma ParsedIn.kind {context : ConflictCheckContext} {metadata : StatementMetadata}
    (h : ParsedIn context metadata) :
    metadata.parsedSqlText.statementKind = metadata.statementKind := by
  obtain ⟨compatible, parsed, rfl⟩ := h
  rfl

lemma ParsedIn.tableUpdated_eq {context : ConflictCheckContext} {metadata : StatementMetadata}
    (h : ParsedIn context metadata) (hk : metadata.statementKind ≠ .other) :
    metadata.tableUpdated = some (requiredUpdatedTable metadata) := by
  obtain ⟨table, ht⟩ := Option.isSome_iff_exists.mp (h.table.mpr hk)
  simp [requiredUpdatedTable, ht]

lemma ParsedIn.columnsUpdated_eq {context : ConflictCheckContext} {metadata : StatementMetadata}
    (h : ParsedIn context metadata) (hk : metadata.statementKind ≠ .update) :
    metadata.columnsUpdated = {allColumns} := by
  obtain ⟨compatible, parsed, rfl⟩ := h
  exact if_pos hk

lemma cascadeEffectsForMetadata_coherent (context : Option ConflictCheckContext)
    (kind : StatementKind) (table : Option String) (columns : Finset String) :
    Coherent (cascadeEffectsForMetadata context kind table columns) := by
  unfold cascadeEffectsForMetadata
  split
  · exact coherent_cascadeEffects _ _ _ _
  · exact coherent_cascadeEffects _ _ _ _
  · exact coherent_none

lemma writtenTables_meets (parsed : ParsedStatement) (columns : Finset String)
    (table : String) (right : Finset String) :
    Meets ((writtenTablesToColumns parsed.statementKind parsed.target columns).columns table)
      right ↔ parsed.target = some table ∧ Meets columns right := by
  have hs := parsed.target_isSome
  cases hk : parsed.statementKind with
  | other =>
    have hn : parsed.target = none := by simpa [hk] using hs
    simp [writtenTablesToColumns, hn]
  | _ =>
    obtain ⟨target, ht⟩ := Option.isSome_iff_exists.mp (hs.mpr (by simp [hk]))
    rw [ht]
    by_cases heq : table = target
    · subst heq
      simp [writtenTablesToColumns]
    · simp [writtenTablesToColumns, columns_insert_ne _ _ heq, Ne.symm heq]

/-- The write map of a parsed statement overlaps what its own target columns or one of its
cascade events overlap. -/
theorem ParsedIn.updated_meets {context : ConflictCheckContext} {metadata : StatementMetadata}
    (h : ParsedIn context metadata) (table : String) (right : Finset String) :
    Meets (metadata.tablesUpdatedToColumnsUpdated.columns table) right ↔
      (metadata.tableUpdated = some table ∧ Meets metadata.columnsUpdated right) ∨
      ∃ e ∈ metadata.cascadeWriteEvents, e.table = table ∧ Meets e.columns right := by
  obtain ⟨compatible, parsed, rfl⟩ := h
  have hco := cascadeEffectsForMetadata_coherent (some context) parsed.statementKind
    parsed.target (updatedColumns parsed) table right
  simp only [parseStatementMetadataForContext, parseStatementMetadata]
  rw [← hco, ← writtenTables_meets]
  split_ifs with he
  · exact addColumnsByTable_meets _ _ _ _
  · have hempty : (cascadeEffectsForMetadata (some context) parsed.statementKind parsed.target
        (updatedColumns parsed)).tablesUpdatedToColumnsUpdated = ∅ := by
      simp only [CascadeEffects.hasEffects, decide_eq_true_eq, not_or, not_not] at he
      exact he.1
    simp [hempty]

lemma ParsedIn.deletesAllColumns {context : ConflictCheckContext}
    {metadata : StatementMetadata} (h : ParsedIn context metadata) {e : CascadeWriteEvent}
    (he : e ∈ metadata.cascadeWriteEvents) : DeletesAllColumns e := by
  obtain ⟨compatible, parsed, rfl⟩ := h
  simp only [parseStatementMetadataForContext, parseStatementMetadata] at he
  unfold cascadeEffectsForMetadata at he
  cases hk : parsed.statementKind with
  | delete => exact cascadeEffects_deletes _ _ _ _ e (by simpa [hk] using he)
  | update => exact cascadeEffects_deletes _ _ _ _ e (by simpa [hk] using he)
  | insert => simp [hk, CascadeEffects.none] at he
  | other => simp [hk, CascadeEffects.none] at he

end SqliteReconcile.SqlMetadata
