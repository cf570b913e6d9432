import SqliteReconcile.SqlMetadata

/-! Table/column conflicts between two transactions, read off their metadata. -/
namespace SqliteReconcile.StaticAnalysis
open Utils Models CascadeMetadata SqlMetadata

def kindEnabled (enabledKinds : Option (Finset ConflictKind)) (kind : ConflictKind) : Bool :=
  match enabledKinds with
  | none => true
  | some kinds => kind ∈ kinds

def isInsertStatement (metadata : StatementMetadata) : Bool :=
  metadata.parsedSqlText.statementKind = .insert

def isUpdateStatement (metadata : StatementMetadata) : Bool :=
  metadata.parsedSqlText.statementKind = .update

def isDeleteStatement (metadata : StatementMetadata) : Bool :=
  metadata.parsedSqlText.statementKind = .delete

def sameWrittenTable (left right : StatementMetadata) : Bool :=
  left.tableUpdated.isSome ∧ left.tableUpdated = right.tableUpdated

/-- Columns that a statement writes on `table`, among `columns`. -/
def metadataWriteOverlap (metadata : StatementMetadata) (table : String)
    (columns : Finset String) : Finset String :=
  if metadata.tableUpdated ≠ some table then ∅
  else columnOverlap metadata.columnsUpdated columns

def columnsByTableOverlap (left right : ColumnMap) : Bool :=
  ∃ table ∈ left.keys, table ∈ right ∧ Meets (left.columns table) (right.columns table)

def directWriteWriteOverlap (ours theirs : StatementMetadata) : Bool :=
  if !sameWrittenTable ours theirs then false
  else if isDeleteStatement ours && isDeleteStatement theirs then false
  else if isInsertStatement ours || isInsertStatement theirs then false
  else metadataWriteOverlap theirs (requiredUpdatedTable ours) ours.columnsUpdated ≠ ∅

def metadataWriteWriteOverlap (ours theirs : StatementMetadata) : Bool :=
  if directWriteWriteOverlap ours theirs then true
  else if !(ours.hasCascadeEffects || theirs.hasCascadeEffects) then false
  else columnsByTableOverlap ours.tablesUpdatedToColumnsUpdated
    theirs.tablesUpdatedToColumnsUpdated

def transactionWriteWriteOverlap (ours theirs : TransactionMetadata) : Bool :=
  ours.statements.any fun ourStatement =>
    theirs.statements.any fun theirStatement =>
      metadataWriteWriteOverlap ourStatement theirStatement

/-- Statement index pairs that may have a write/write conflict. -/
def writeWriteCandidatePairs (ours theirs : TransactionMetadata) : List (ℕ × ℕ) :=
  ours.statements.zipIdx.flatMap fun ourStatement =>
    (theirs.statements.zipIdx.filter fun theirStatement =>
      metadataWriteWriteOverlap ourStatement.1 theirStatement.1).map
      fun theirStatement => (ourStatement.2, theirStatement.2)

def transactionWriteReadOverlap (writer reader : TransactionMetadata) : Bool :=
  columnsByTableOverlap writer.tablesUpdatedToColumnsUpdated
    reader.tablesReferencedToColumnsReferenced

def metadataReadsAny (metadata : StatementMetadata) (columnsByTable : ColumnMap) : Bool :=
  columnsByTableOverlap metadata.tablesReferencedToColumnsReferenced columnsByTable

def writeReadCandidateIndexes (writer reader : TransactionMetadata) : List ℕ :=
  (reader.statements.zipIdx.filter fun statement =>
    metadataReadsAny statement.1 writer.tablesUpdatedToColumnsUpdated).map Prod.snd

/-- The rowid-alias INTEGER PRIMARY KEY column: the cached one, else the schema lookup. -/
def integerPrimaryKeyColumn (context : ConflictCheckContext) (table : String) : Option String :=
  match context.schemaCache.integerPrimaryKeyColumns.lookup table with
  | some keyColumn => keyColumn
  | none => context.pragmaIntegerPrimaryKey table

def insertExplicitColumns (metadata : StatementMetadata) : Finset String :=
  match metadata.parsedSqlText.insertTarget with
  | some columns => (columns.filter (· ≠ "")).toFinset
  | none => if metadata.statementKind = .insert then {allColumns} else ∅

/-- The omitted INTEGER PRIMARY KEY column of a replay-sensitive INSERT. -/
def omittedIntegerPrimaryKeyColumn (context : ConflictCheckContext)
    (metadata : StatementMetadata) : Option String :=
  if !isInsertStatement metadata then none
  else match integerPrimaryKeyColumn context (requiredUpdatedTable metadata) with
    | none => none
    | some keyColumn =>
      let explicitColumns := insertExplicitColumns metadata
      if allColumns ∈ explicitColumns ∨ keyColumn ∈ explicitColumns then none
      else some keyColumn

def implicitInsertKeyConflict (insertLabel otherLabel table keyColumn : String) :
    StatementConflict where
  kind := .implicitInsertKey
  message := insertLabel ++ " INSERT omits " ++ table ++ "." ++ keyColumn ++ "; " ++
    otherLabel ++ " INSERT also omits the same key"
  scope := .pair
  details := []

/-- A conflict between an INSERT and an UPDATE of its omitted key. -/
def implicitInsertKeyUpdateConflict (insertLabel : String) (insert : StatementMetadata)
    (otherLabel : String) (other : StatementMetadata) (omittedKey : String) :
    Option StatementConflict :=
  if !sameWrittenTable insert other || !isUpdateStatement other then none
  else
    let table := requiredUpdatedTable insert
    if metadataWriteOverlap other table {omittedKey} = ∅ then none
    else some
      { kind := .implicitInsertKey
        message := insertLabel ++ " INSERT omits " ++ table ++ "." ++ omittedKey ++ "; " ++
          otherLabel ++ " UPDATE assigns to the same key column"
        scope := .pair
        details := [] }

/-- One direction of the implicit-key check, and whether it ends the loop. -/
def implicitInsertKeyConflictsFrom (context : ConflictCheckContext) (insertLabel : String)
    (insert : StatementMetadata) (otherLabel : String) (other : StatementMetadata) :
    List StatementConflict × Bool :=
  match omittedIntegerPrimaryKeyColumn context insert with
  | none => ([], false)
  | some omittedKey =>
    if !sameWrittenTable insert other then ([], false)
    else if (omittedIntegerPrimaryKeyColumn context other).isSome then
      ([implicitInsertKeyConflict insertLabel otherLabel (requiredUpdatedTable insert)
        omittedKey], true)
    else
      ((implicitInsertKeyUpdateConflict insertLabel insert otherLabel other omittedKey).toList,
        false)

def implicitInsertKeyConflicts (context : ConflictCheckContext)
    (ours theirs : StatementMetadata) : List StatementConflict :=
  let first := implicitInsertKeyConflictsFrom context "ours" ours "theirs" theirs
  if first.2 then first.1
  else first.1 ++ (implicitInsertKeyConflictsFrom context "theirs" theirs "ours" ours).1

def transactionImplicitInsertKeyConflicts (context : ConflictCheckContext)
    (ours theirs : TransactionMetadata) : List StatementConflict :=
  ours.statements.flatMap fun ourStatement =>
    theirs.statements.flatMap fun theirStatement =>
      implicitInsertKeyConflicts context ourStatement theirStatement

def statementMayCreateOrChangeKey (metadata : StatementMetadata) (table : String)
    (keyColumns : Finset String) : Bool :=
  if metadata.tableUpdated ≠ some table then false
  else if isInsertStatement metadata then true
  else if isUpdateStatement metadata then metadataWriteOverlap metadata table keyColumns ≠ ∅
  else false

def transactionMetadataMayCreateOrChangeKey (metadata : TransactionMetadata) (table : String)
    (keyColumns : Finset String) : Bool :=
  metadata.statements.any (statementMayCreateOrChangeKey · table keyColumns) ||
    metadata.cascadeWriteEvents.any (cascadeEventMayCreateOrChangeKey · table keyColumns)

def transactionMetadataMayRemoveOrChangeKey (metadata : TransactionMetadata) (table : String)
    (keyColumns : Finset String) : Bool :=
  (metadata.statements.any fun statement =>
    statement.tableUpdated = some table && (isDeleteStatement statement ||
      (isUpdateStatement statement && metadataWriteOverlap statement table keyColumns ≠ ∅))) ||
    metadata.cascadeWriteEvents.any (cascadeEventMayRemoveOrChangeKey · table keyColumns)

def keyConstraintConflictPossible (context : ConflictCheckContext)
    (first second : TransactionMetadata) : Bool :=
  context.keyColumnSets.any fun entry => entry.2.any fun keySet =>
    transactionMetadataMayCreateOrChangeKey first entry.1 keySet &&
      transactionMetadataMayCreateOrChangeKey second entry.1 keySet

def foreignKeyConstraintConflictPossible (context : ConflictCheckContext)
    (first second : TransactionMetadata) : Bool :=
  ∃ table ∈ first.tablesUpdatedToColumnsUpdated.keys,
    (foreignKeyEdgesByParent context table).any (fun edge =>
      transactionMetadataMayRemoveOrChangeKey first edge.parentTable
        edge.parentColumns.toFinset &&
      transactionMetadataMayCreateOrChangeKey second edge.childTable
        edge.childColumns.toFinset) ∨
    (foreignKeyEdgesByChild context table).any (fun edge =>
      transactionMetadataMayCreateOrChangeKey first edge.childTable
        edge.childColumns.toFinset &&
      transactionMetadataMayRemoveOrChangeKey second edge.parentTable
        edge.parentColumns.toFinset)

/-- Whether constraints may fail only when both sides replay. -/
def constraintConflictPossible (context : ConflictCheckContext)
    (first second : TransactionMetadata) : Bool :=
  keyConstraintConflictPossible context first second ||
    foreignKeyConstraintConflictPossible context first second

def branchDisplayLabel (branch : BranchName) (oursLabel theirsLabel : Option String) : String :=
  match branch with
  | .ours => oursLabel.getD "local transaction"
  | .theirs => theirsLabel.getD "remote transaction"

def branchText : BranchName → String
  | .ours => "ours"
  | .theirs => "theirs"

def cascadeConflictDetails (hasCascade : Bool) : List (String × String) :=
  if hasCascade then [cascadeConflictDetail] else []

/-- Direction data for the execution-based refinement. -/
def writeReadDetails (writer reader : BranchName) (isCascade : Bool) : List (String × String) :=
  [("writer", branchText writer), ("reader", branchText reader)] ++
    cascadeConflictDetails isCascade

/-- The write-read conflicts of one direction. -/
def writeReadConflicts (currentBranch : Option BranchName) (writer : BranchName)
    (writerMetadata readerMetadata : TransactionMetadata) (oursLabel theirsLabel : Option String) :
    List StatementConflict :=
  if (currentBranch = none ∨ currentBranch = some writer) ∧
      transactionWriteReadOverlap writerMetadata readerMetadata then
    [{ kind := .writeRead
       message := branchDisplayLabel writer oursLabel theirsLabel ++ " writes columns read by " ++
         branchDisplayLabel writer.other oursLabel theirsLabel
       scope := .pair
       details := writeReadDetails writer writer.other
         (writerMetadata.hasCascadeEffects || readerMetadata.hasCascadeEffects) }]
  else []

def writeWriteConflicts (ours theirs : TransactionMetadata) : List StatementConflict :=
  if transactionWriteWriteOverlap ours theirs then
    [{ kind := .writeWrite
       message := "transactions write overlapping table columns"
       scope := .pair
       details := cascadeConflictDetails (ours.hasCascadeEffects || theirs.hasCascadeEffects) }]
  else []

/-- Table/column conflicts, optionally ordered from current to other. -/
def staticAnalysisMatching (context : ConflictCheckContext) (ours theirs : TransactionMetadata)
    (enabledKinds : Option (Finset ConflictKind)) (currentBranch : Option BranchName)
    (oursLabel theirsLabel : Option String) : ConflictCheckResult :=
  let result := ConflictCheckResult.empty
  let result := if kindEnabled enabledKinds .implicitInsertKey then
    result.addConflicts (transactionImplicitInsertKeyConflicts context ours theirs) else result
  let result := if kindEnabled enabledKinds .writeWrite then
    result.addConflicts (writeWriteConflicts ours theirs) else result
  if kindEnabled enabledKinds .writeRead then
    (result.addConflicts (writeReadConflicts currentBranch .ours ours theirs oursLabel
      theirsLabel)).addConflicts
      (writeReadConflicts currentBranch .theirs theirs ours oursLabel theirsLabel)
  else result

lemma implicitInsertKeyUpdateConflict_kind {insertLabel otherLabel omittedKey : String}
    {insert other : StatementMetadata} {c : StatementConflict}
    (h : implicitInsertKeyUpdateConflict insertLabel insert otherLabel other omittedKey =
      some c) : c.kind = .implicitInsertKey := by
  unfold implicitInsertKeyUpdateConflict at h
  dsimp only at h
  split_ifs at h
  obtain rfl := Option.some.inj h
  rfl

lemma implicitInsertKeyConflictsFrom_kind {context : ConflictCheckContext}
    {insertLabel otherLabel : String} {insert other : StatementMetadata} {c : StatementConflict}
    (h : c ∈ (implicitInsertKeyConflictsFrom context insertLabel insert otherLabel other).1) :
    c.kind = .implicitInsertKey := by
  unfold implicitInsertKeyConflictsFrom at h
  cases ho : omittedIntegerPrimaryKeyColumn context insert with
  | none => simp [ho] at h
  | some omittedKey =>
    simp only [ho] at h
    split_ifs at h
    · simp at h
    · rw [List.mem_singleton.mp h]
      rfl
    · exact implicitInsertKeyUpdateConflict_kind (Option.mem_toList.mp h)

lemma transactionImplicitInsertKeyConflicts_kind {context : ConflictCheckContext}
    {ours theirs : TransactionMetadata} {c : StatementConflict}
    (h : c ∈ transactionImplicitInsertKeyConflicts context ours theirs) :
    c.kind = .implicitInsertKey := by
  obtain ⟨o, -, h⟩ := List.mem_flatMap.mp h
  obtain ⟨t, -, h⟩ := List.mem_flatMap.mp h
  unfold implicitInsertKeyConflicts at h
  dsimp only at h
  split_ifs at h
  · exact implicitInsertKeyConflictsFrom_kind h
  · rcases List.mem_append.mp h with h | h <;> exact implicitInsertKeyConflictsFrom_kind h

lemma exists_writeWriteConflicts {ours theirs : TransactionMetadata} {kind : ConflictKind} :
    (∃ c ∈ writeWriteConflicts ours theirs, c.kind = kind) ↔
      kind = .writeWrite ∧ transactionWriteWriteOverlap ours theirs := by
  unfold writeWriteConflicts
  split_ifs with h <;> simp [h, eq_comm]

lemma exists_writeReadConflicts {currentBranch : Option BranchName} {writer : BranchName}
    {w r : TransactionMetadata} {oursLabel theirsLabel : Option String} {kind : ConflictKind} :
    (∃ c ∈ writeReadConflicts currentBranch writer w r oursLabel theirsLabel, c.kind = kind) ↔
      kind = .writeRead ∧ (currentBranch = none ∨ currentBranch = some writer) ∧
        transactionWriteReadOverlap w r := by
  unfold writeReadConflicts
  split_ifs with h
  · simp [h, eq_comm]
  · simp [h]

lemma exists_implicitConflicts {context : ConflictCheckContext}
    {ours theirs : TransactionMetadata} {kind : ConflictKind} :
    (∃ c ∈ transactionImplicitInsertKeyConflicts context ours theirs, c.kind = kind) ↔
      kind = .implicitInsertKey ∧
        transactionImplicitInsertKeyConflicts context ours theirs ≠ [] := by
  constructor
  · rintro ⟨c, hc, rfl⟩
    exact ⟨transactionImplicitInsertKeyConflicts_kind hc, List.ne_nil_of_mem hc⟩
  · rintro ⟨rfl, hne⟩
    obtain ⟨c, hc⟩ := List.exists_mem_of_ne_nil _ hne
    exact ⟨c, hc, transactionImplicitInsertKeyConflicts_kind hc⟩

lemma hasKind_stage (b : Bool) (result : ConflictCheckResult) (cs : List StatementConflict)
    (kind : ConflictKind) :
    (if b then result.addConflicts cs else result).hasKind kind ↔
      result.hasKind kind ∨ (b ∧ ∃ c ∈ cs, c.kind = kind) := by
  cases b with
  | false => simp
  | true => simpa using ConflictCheckResult.hasKind_addConflicts result cs kind

/-- The static result reports a kind exactly when the kind is enabled and its own check
finds something. -/
theorem staticAnalysisMatching_hasKind (context : ConflictCheckContext)
    (ours theirs : TransactionMetadata) (enabledKinds : Option (Finset ConflictKind))
    (currentBranch : Option BranchName) (oursLabel theirsLabel : Option String)
    (kind : ConflictKind) :
    (staticAnalysisMatching context ours theirs enabledKinds currentBranch oursLabel
      theirsLabel).hasKind kind ↔
    (kindEnabled enabledKinds .implicitInsertKey ∧ kind = .implicitInsertKey ∧
      transactionImplicitInsertKeyConflicts context ours theirs ≠ []) ∨
    (kindEnabled enabledKinds .writeWrite ∧ kind = .writeWrite ∧
      transactionWriteWriteOverlap ours theirs) ∨
    (kindEnabled enabledKinds .writeRead ∧ kind = .writeRead ∧
      ((currentBranch = none ∨ currentBranch = some .ours) ∧
          transactionWriteReadOverlap ours theirs ∨
        (currentBranch = none ∨ currentBranch = some .theirs) ∧
          transactionWriteReadOverlap theirs ours)) := by
  have hread : ∀ result : ConflictCheckResult,
      ((result.addConflicts (writeReadConflicts currentBranch .ours ours theirs oursLabel
        theirsLabel)).addConflicts (writeReadConflicts currentBranch .theirs theirs ours
          oursLabel theirsLabel)) =
      result.addConflicts (writeReadConflicts currentBranch .ours ours theirs oursLabel
        theirsLabel ++ writeReadConflicts currentBranch .theirs theirs ours oursLabel
          theirsLabel) :=
    fun result => by simp only [ConflictCheckResult.addConflicts, List.foldl_append]
  simp only [staticAnalysisMatching, hread]
  rw [hasKind_stage, hasKind_stage, hasKind_stage, exists_implicitConflicts,
    exists_writeWriteConflicts]
  simp only [ConflictCheckResult.hasKind_empty, Bool.false_eq_true, false_or, or_assoc,
    List.mem_append, or_and_right, exists_or, exists_writeReadConflicts, ← and_or_left]

end SqliteReconcile.StaticAnalysis
